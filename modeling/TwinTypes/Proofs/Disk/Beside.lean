import TwinTypes.Proofs.Disk.Veil

/-!
# Files that are not moved

A program that makes files and moves them leaves the files that were there before, if what it moves
is what it has made: a file that is made stands where nothing stood
(`TwinTypes.Disk.namesBeside_of_createFile`), and bytes that are put into it do not change where its
path leads. With links on the disk this is not a matter of names. What decides is that the path of
the file that is made is followed in the same way before and after (`walkNames_put`).
-/

namespace TwinTypes.Disk

variable {d d' : Disk} {cwd loc : Location} {follow : Bool} {path : String}
  {hidden : List Location}

/-! ### Files that are there -/

theorem ne_nil_of_get?_file {bytes : ByteArray} (h : d.get? loc = some (.file bytes)) :
    loc ≠ [] := by
  rintro rfl
  cases h

/-- **Some files are there.** -/
def HasFiles (d : Disk) (hidden : List Location) : Prop :=
  ∀ loc ∈ hidden, ∃ bytes, d.get? loc = some (.file bytes)

namespace HasFiles

variable {entry : Entry} {bytes : ByteArray}

theorem notMem_of_vacant (h : d.HasFiles hidden) (hget : d.get? loc = none) : loc ∉ hidden := by
  intro hmem
  obtain ⟨bytes, hfile⟩ := h loc hmem
  rw [hget] at hfile
  cases hfile

theorem put (h : d.HasFiles hidden) (hne : loc ≠ []) (hloc : loc ∉ hidden) (entry : Entry) :
    (d.put loc entry).HasFiles hidden := by
  intro other hother
  have hother' : other ≠ loc := fun heq => hloc (heq ▸ hother)
  rw [get?_put d hne, if_neg hother']
  exact h other hother

theorem put_file (h : d.HasFiles hidden) (hne : loc ≠ []) (bytes : ByteArray) :
    (d.put loc (.file bytes)).HasFiles hidden := by
  intro other hother
  rw [get?_put d hne]
  split
  · exact ⟨bytes, rfl⟩
  · exact h other hother

theorem erase (h : d.HasFiles hidden) (hne : loc ≠ []) (hloc : loc ∉ hidden) :
    (d.erase loc).HasFiles hidden := by
  intro other hother
  have hother' : other ≠ loc := fun heq => hloc (heq ▸ hother)
  rw [get?_erase d hne, if_neg hother']
  exact h other hother

/-! Every operation leaves the files, if it moves and removes none of them. -/

theorem of_makeDir (h : d.HasFiles hidden) (hmake : d.makeDir cwd path = .ok d') :
    d'.HasFiles hidden := by
  unfold makeDir at hmake
  split at hmake
  · rename_i loc hresolve
    cases hmake
    obtain ⟨hne, hget⟩ := shows_of_resolveBare hresolve
    exact h.put hne (h.notMem_of_vacant hget) _
  · cases hmake
  · cases hmake

theorem of_createFile (h : d.HasFiles hidden) (hcreate : d.createFile cwd path = .ok d') :
    d'.HasFiles hidden := by
  unfold createFile at hcreate
  split at hcreate
  · rename_i loc hresolve
    cases hcreate
    exact h.put_file (shows_of_resolve hresolve).1 _
  · cases hcreate
  · cases hcreate

theorem of_appendFile (h : d.HasFiles hidden) (happend : d.appendFile cwd path bytes = .ok d') :
    d'.HasFiles hidden := by
  unfold appendFile at happend
  split at happend
  · rename_i loc before hresolve
    cases happend
    exact h.put_file (ne_nil_of_get?_file (shows_of_resolve hresolve)) _
  · cases happend
  · cases happend
  · cases happend

theorem of_renameFile {target : String} (h : d.HasFiles hidden)
    (hnames : d.NamesBeside hidden cwd path) (hrename : d.renameFile cwd path target = .ok d') :
    d'.HasFiles hidden := by
  obtain ⟨loc, bytes, hresolve, hloc⟩ := hnames
  have hleft : (d.erase loc).HasFiles hidden :=
    h.erase (ne_nil_of_get?_file (shows_of_resolve hresolve)) hloc
  have hput : ∀ place, place ≠ [] →
      (if asksForDirectory target then .error .notDirectory
        else .ok ((d.erase loc).put place (.file bytes)) : Except DiskError Disk) = .ok d' →
        d'.HasFiles hidden := by
    intro place hne hput
    split at hput
    · cases hput
    · cases hput
      exact hleft.put_file hne bytes
  unfold renameFile at hrename
  rw [hresolve] at hrename
  rcases hgoal : d.resolveBare cwd .busy target with e | ⟨place, entry⟩ | place
  · rw [hgoal] at hrename
    cases hrename
  · rw [hgoal] at hrename
    have hget : d.get? place = some entry := shows_of_resolveBare hgoal
    have hne : entry ≠ .directory → place ≠ [] := by
      rintro hdir rfl
      exact hdir (Option.some.inj hget).symm
    cases entry with
    | directory =>
      simp only [bind, Except.bind] at hrename
      split at hrename <;> cases hrename
    | file _ => exact hput place (hne (by simp)) hrename
    | link _ => exact hput place (hne (by simp)) hrename
  · rw [hgoal] at hrename
    exact hput place (shows_of_resolveBare hgoal).1 hrename

theorem of_removeFile (h : d.HasFiles hidden) (hnames : d.NamesBeside hidden cwd path)
    (hremove : d.removeFile cwd path = .ok d') : d'.HasFiles hidden := by
  obtain ⟨loc, bytes, hresolve, hloc⟩ := hnames
  unfold removeFile at hremove
  rw [hresolve] at hremove
  cases hremove
  exact h.erase (ne_nil_of_get?_file (shows_of_resolve hresolve)) hloc

end HasFiles

/-! ### New files -/

/-- **Names that lead to a vacant place** lead to the file that is put there. -/
theorem walkNames_put {jump jump' : Location → List String → Except DiskError Target}
    {bytes : ByteArray} (hjump : ∀ here names, jump here names = .ok (.vacant loc) →
      jump' here names = .ok (.found loc (.file bytes)))
    (hne : loc ≠ []) (hget : d.get? loc = none) {here : Location} {names : List String}
    (h : d.walkNames follow jump here names = .ok (.vacant loc)) :
    (d.put loc (.file bytes)).walkNames follow jump' here names =
      .ok (.found loc (.file bytes)) := by
  -- what stands somewhere still stands there
  have hkeep : ∀ other entry, d.get? other = some entry →
      (d.put loc (.file bytes)).get? other = some entry := by
    intro other entry hother
    have hne' : other ≠ loc := by
      rintro rfl
      rw [hget] at hother
      cases hother
    rw [get?_put d hne, if_neg hne', hother]
  induction names generalizing here with
  | nil =>
    rw [walkNames] at h
    cases hhere : d.get? here <;> rw [hhere] at h <;> cases h
  | cons name rest ih =>
    rw [walkNames] at h ⊢
    split at h
    · cases h
    rename_i hdir
    rw [hkeep here .directory (not_not.mp hdir), if_neg (not_not.mpr rfl)]
    split at h
    · rename_i hdot
      rw [if_pos hdot]
      exact ih h
    rename_i hdot
    rw [if_neg hdot]
    split at h
    · rename_i hup
      rw [if_pos hup]
      exact ih h
    rename_i hup
    rw [if_neg hup]
    split at h
    · cases h
    rename_i hshort
    rw [if_neg hshort]
    split at h
    · split at h
      · rename_i hrest
        cases h
        obtain rfl : rest = [] := by simpa using hrest
        rw [get?_put d hne, if_pos rfl]
        dsimp only
        rw [walkNames, get?_put d hne, if_pos rfl]
      · cases h
    · rename_i target hlink
      rw [hkeep _ _ hlink]
      dsimp only
      split at h
      · cases h
      · rename_i hfollow
        rw [if_neg hfollow]
        exact hjump _ _ h
    · rename_i entry hnolink hentry
      rw [hkeep _ _ hentry]
      cases entry with
      | directory => exact ih h
      | file _ => exact ih h
      | link target => exact absurd rfl (hnolink target)

theorem walk_put {bytes : ByteArray} (hne : loc ≠ []) (hget : d.get? loc = none) {links : Nat}
    {here : Location} {names : List String}
    (h : d.walk follow links here names = .ok (.vacant loc)) :
    (d.put loc (.file bytes)).walk follow links here names = .ok (.found loc (.file bytes)) := by
  induction links generalizing here names with
  | zero =>
    rw [walk] at h ⊢
    refine walkNames_put ?_ hne hget h
    exact fun _ _ hjump => by cases hjump
  | succ links ih => exact walkNames_put (fun _ _ hjump => ih hjump) hne hget h

/-- **A file that is made** is none of those that were there before. -/
theorem namesBeside_of_createFile (h : d.HasFiles hidden)
    (hcreate : d.createFile cwd path = .ok d') : d'.NamesBeside hidden cwd path := by
  unfold createFile at hcreate
  split at hcreate
  · rename_i loc hresolve
    cases hcreate
    obtain ⟨hne, hget⟩ := shows_of_resolve hresolve
    refine ⟨loc, .empty, ?_, h.notMem_of_vacant hget⟩
    unfold resolve at hresolve ⊢
    cases hcheck : checkPath path with
    | error e =>
      rw [hcheck] at hresolve
      cases hresolve
    | ok u =>
      rw [hcheck] at hresolve
      exact walk_put hne hget hresolve
  · cases hcreate
  · cases hcreate

/-- It stays where it is when bytes are put into it. -/
theorem NamesBeside.of_appendFile {bytes : ByteArray} (h : d.NamesBeside hidden cwd path)
    (happend : d.appendFile cwd path bytes = .ok d') : d'.NamesBeside hidden cwd path := by
  obtain ⟨loc, before, hresolve, hloc⟩ := h
  have hget : d.get? loc = some (.file before) := shows_of_resolve hresolve
  unfold appendFile at happend
  rw [hresolve] at happend
  cases happend
  have hrecast : d.Recast (fun other entry => if other = loc then .file (before ++ bytes) else entry)
      (d.put loc (.file (before ++ bytes))) := by
    constructor
    · intro other
      rw [get?_put d (ne_nil_of_get?_file hget)]
      split
      · rename_i heq
        simp [heq, hget]
      · simp
    · intro other entry hother
      split
      · rename_i heq
        rw [heq, hget] at hother
        cases hother
        rfl
      · rfl
  refine ⟨loc, before ++ bytes, ?_, hloc⟩
  rw [hrecast.resolve, hresolve, Except.map, Target.map, if_pos rfl]

end TwinTypes.Disk
