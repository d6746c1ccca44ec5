import TwinTypes.Proofs.Disk.Tree

/-!
# Disks without the bytes of some files

What is in a file matters to whoever reads the file, and to nobody else: `TwinTypes.Disk.veiled`
leaves the bytes of some files out, and every other operation does the same to a disk and to what is
left of it. Two of them need a word more. A file that is moved takes its bytes along, so it must not
be one of those; and bytes that are put at the end of such a file are left out again.

Nothing is assumed of the disk here: links may stand on it, and lead anywhere. What makes this work
is that following a path looks at the kinds of what it meets (`TwinTypes.Disk.Recast.walk`).
-/

namespace TwinTypes

/-- An entry without the bytes of a file. -/
def Entry.emptied : Entry → Entry
  | file _ => file .empty
  | directory => directory
  | link target => link target

/-- An entry at a location, without the bytes of a file if the location is one of some. -/
def Entry.veiled (hidden : List Location) (loc : Location) (e : Entry) : Entry :=
  if loc ∈ hidden then e.emptied else e

theorem Entry.emptied_emptied (e : Entry) : e.emptied.emptied = e.emptied := by
  cases e <;> rfl

theorem Entry.emptied_eq_directory {e : Entry} : e.emptied = directory ↔ e = directory := by
  cases e <;> simp [emptied]

theorem Entry.emptied_eq_link {e : Entry} {target : String} :
    e.emptied = link target ↔ e = link target := by
  cases e <;> simp [emptied]

theorem Entry.emptied_eq_file {e : Entry} : e.emptied = file .empty ↔ ∃ bytes, e = file bytes := by
  cases e <;> simp [emptied]

theorem Entry.emptied_veiled (hidden : List Location) (loc : Location) (e : Entry) :
    (e.veiled hidden loc).emptied = e.emptied := by
  unfold veiled
  split
  · exact e.emptied_emptied
  · rfl

theorem Entry.veiled_of_notMem {hidden : List Location} {loc : Location} (h : loc ∉ hidden)
    (e : Entry) : e.veiled hidden loc = e :=
  if_neg h

theorem Entry.veiled_veiled (hidden : List Location) (loc : Location) (e : Entry) :
    (e.veiled hidden loc).veiled hidden loc = e.veiled hidden loc := by
  unfold veiled
  split
  · exact e.emptied_emptied
  · rfl

@[simp] theorem Entry.veiled_directory (hidden : List Location) (loc : Location) :
    directory.veiled hidden loc = directory :=
  ite_self _

@[simp] theorem Entry.veiled_link (hidden : List Location) (loc : Location) (target : String) :
    (link target).veiled hidden loc = link target :=
  ite_self _

/-- A veiled file has no bytes. -/
@[simp] theorem Entry.veiled_file (hidden : List Location) (loc : Location) (bytes : ByteArray) :
    (file bytes).veiled hidden loc = file (if loc ∈ hidden then .empty else bytes) := by
  unfold veiled
  split <;> rfl

namespace Disk

variable {d d' : Disk} {cwd loc : Location} {follow : Bool} {path : String}

/-! ### Other entries of the same kinds -/

/-- What a path names, with another entry in the place of the one that is there. -/
def Target.map (g : Location → Entry → Entry) : Target → Target
  | found loc entry => found loc (g loc entry)
  | vacant loc => vacant loc

/-- **A disk with other entries of the same kinds** at the same places. -/
structure Recast (d : Disk) (g : Location → Entry → Entry) (d' : Disk) : Prop where
  /-- What stands where. -/
  get? : ∀ loc, d'.get? loc = (d.get? loc).map (g loc)
  /-- The kinds are the same. -/
  kind : ∀ loc entry, d.get? loc = some entry → (g loc entry).emptied = entry.emptied

namespace Recast

variable {g : Location → Entry → Entry}

theorem get?_eq_directory (h : d.Recast g d') :
    d'.get? loc = some .directory ↔ d.get? loc = some .directory := by
  rw [h.get?]
  cases hget : d.get? loc with
  | none => simp
  | some entry =>
    have hkind := h.kind loc entry hget
    rw [Option.map_some, Option.some_inj, Option.some_inj, ← Entry.emptied_eq_directory, hkind,
      Entry.emptied_eq_directory]

/-- **Names lead to the same places**, if links do. -/
theorem walkNames (h : d.Recast g d') {jump jump' : Location → List String → Except DiskError Target}
    (hjump : ∀ here names, jump' here names = (jump here names).map (Target.map g))
    (here : Location) (names : List String) :
    d'.walkNames follow jump' here names =
      (d.walkNames follow jump here names).map (Target.map g) := by
  induction names generalizing here with
  | nil =>
    rw [Disk.walkNames, Disk.walkNames, h.get?]
    cases d.get? here <;> rfl
  | cons name rest ih =>
    have hdir : d'.get? here ≠ some .directory ↔ d.get? here ≠ some .directory :=
      not_congr h.get?_eq_directory
    rw [Disk.walkNames, Disk.walkNames]
    simp only [hdir]
    split
    · rfl
    split
    · exact ih here
    split
    · exact ih here.dropLast
    split
    · rfl
    rw [h.get?]
    cases hget : d.get? (here ++ [name]) with
    | none =>
      cases rest <;> rfl
    | some entry =>
      have hkind := h.kind _ entry hget
      rw [Option.map_some]
      cases entry with
      | directory =>
        rw [Entry.emptied_eq_directory.mp hkind]
        exact ih _
      | file bytes =>
        obtain ⟨bytes', hfile⟩ := Entry.emptied_eq_file.mp hkind
        rw [hfile]
        exact ih _
      | link target =>
        have hlink := Entry.emptied_eq_link.mp hkind
        rw [hlink]
        dsimp only
        split
        · rw [Except.map, Target.map, hlink]
        · exact hjump _ _

theorem walk (h : d.Recast g d') (links : Nat) (here : Location) (names : List String) :
    d'.walk follow links here names = (d.walk follow links here names).map (Target.map g) := by
  induction links generalizing here names with
  | zero =>
    rw [Disk.walk, Disk.walk]
    refine h.walkNames ?_ here names
    exact fun _ _ => rfl
  | succ links ih => exact h.walkNames ih here names

/-- **A path leads to the same place.** -/
theorem resolve (h : d.Recast g d') (cwd : Location) (follow : Bool) (path : String) :
    d'.resolve cwd follow path = (d.resolve cwd follow path).map (Target.map g) := by
  unfold Disk.resolve
  rw [h.walk]
  cases checkPath path <;> rfl

end Recast

/-! ### What is found -/

/-- What a path comes to, on a disk: something that stands there, or a place where nothing does. -/
def Shows (d : Disk) : Target → Prop
  | .found loc entry => d.get? loc = some entry
  | .vacant loc => loc ≠ [] ∧ d.get? loc = none

variable {target : Target}

theorem shows_of_walkNames {jump : Location → List String → Except DiskError Target}
    (hjump : ∀ here names, jump here names = .ok target → d.Shows target)
    {here : Location} {names : List String} (h : d.walkNames follow jump here names = .ok target) :
    d.Shows target := by
  induction names generalizing here with
  | nil =>
    rw [walkNames] at h
    cases hget : d.get? here with
    | none =>
      rw [hget] at h
      cases h
    | some entry =>
      rw [hget] at h
      cases h
      exact hget
  | cons name rest ih =>
    rw [walkNames] at h
    split at h
    · cases h
    split at h
    · exact ih h
    split at h
    · exact ih h
    split at h
    · cases h
    split at h
    · rename_i hnone
      split at h
      · cases h
        exact ⟨by simp, hnone⟩
      · cases h
    · rename_i link hlink
      split at h
      · cases h
        exact hlink
      · exact hjump _ _ h
    · exact ih h

theorem shows_of_walk {links : Nat} {here : Location} {names : List String}
    (h : d.walk follow links here names = .ok target) : d.Shows target := by
  induction links generalizing here names with
  | zero =>
    rw [walk] at h
    exact shows_of_walkNames (fun _ _ hjump => by cases hjump) h
  | succ links ih => exact shows_of_walkNames (fun _ _ hjump => ih hjump) h

/-- **What following a path comes to** is there. -/
theorem shows_of_resolve (h : d.resolve cwd follow path = .ok target) : d.Shows target := by
  unfold resolve at h
  cases hcheck : checkPath path with
  | error e =>
    rw [hcheck] at h
    cases h
  | ok u =>
    rw [hcheck] at h
    exact shows_of_walk h

theorem shows_of_resolveBare {dots : DiskError} (h : d.resolveBare cwd dots path = .ok target) :
    d.Shows target := by
  unfold resolveBare at h
  cases hcheck : checkPath path with
  | error e =>
    rw [hcheck] at h
    cases h
  | ok u =>
    rw [hcheck] at h
    simp only [bind, Except.bind] at h
    split at h
    · cases h
    · exact shows_of_walk h

/-- Dots at the end are refused for the same reason. -/
theorem Recast.resolveBare {g : Location → Entry → Entry} (h : d.Recast g d') (cwd : Location)
    (dots : DiskError) (path : String) :
    d'.resolveBare cwd dots path = (d.resolveBare cwd dots path).map (Target.map g) := by
  have hfailure : ∀ names, dotsFailure dots (d'.walk true linkLimit (origin cwd path) names) =
      dotsFailure dots (d.walk true linkLimit (origin cwd path) names) := by
    intro names
    rw [h.walk]
    cases hwalk : d.walk true linkLimit (origin cwd path) names with
    | error e => rfl
    | ok target =>
      cases target with
      | vacant loc => rfl
      | found loc entry =>
        have hkind := h.kind loc entry (shows_of_walk hwalk)
        rw [Except.map, Target.map]
        cases entry with
        | directory => rw [Entry.emptied_eq_directory.mp hkind]
        | link linked => rw [Entry.emptied_eq_link.mp hkind]
        | file bytes =>
          obtain ⟨bytes', hfile⟩ := Entry.emptied_eq_file.mp hkind
          rw [hfile]
          rfl
  unfold Disk.resolveBare
  cases checkPath path with
  | error e => rfl
  | ok u =>
    simp only [bind, Except.bind]
    split
    · rw [hfailure]
      rfl
    · exact h.walk _ _ _

/-! ### The veil -/

/-- **The disk without the bytes of some files.** -/
def veiled (hidden : List Location) (d : Disk) : Disk :=
  ⟨d.entries.map fun e => (e.1, e.2.veiled hidden e.1)⟩

section Veil

variable (hidden : List Location) (d)

theorem get?_veiled (loc : Location) :
    (d.veiled hidden).get? loc = (d.get? loc).map (Entry.veiled hidden loc) := by
  by_cases hnil : loc = []
  · rw [hnil, get?_root, get?_root]
    unfold Entry.veiled
    split <;> rfl
  · rw [get?_eq_find? _ hnil, get?_eq_find? _ hnil, veiled, List.find?_map]
    cases hfind : d.entries.find? fun e => e.1 == loc with
    | none =>
      have hnone : d.entries.find? ((fun e => e.1 == loc) ∘
          fun e => (e.1, e.2.veiled hidden e.1)) = none := hfind
      rw [hnone]
      rfl
    | some e =>
      have hsome : d.entries.find? ((fun e => e.1 == loc) ∘
          fun e => (e.1, e.2.veiled hidden e.1)) = some e := hfind
      have hloc : e.1 = loc := by simpa using List.find?_some hfind
      rw [hsome, ← hloc]
      rfl

/-- **A veil leaves the kinds of things.** -/
theorem recast_veiled : d.Recast (Entry.veiled hidden) (d.veiled hidden) :=
  ⟨d.get?_veiled hidden, fun loc entry _ => entry.emptied_veiled hidden loc⟩

theorem veiled_put (loc : Location) (entry : Entry) :
    (d.put loc entry).veiled hidden = (d.veiled hidden).put loc (entry.veiled hidden loc) := by
  have hinsert : ∀ entries : List (Location × Entry),
      (insertEntry loc entry entries).map (fun e => (e.1, e.2.veiled hidden e.1)) =
        insertEntry loc (entry.veiled hidden loc)
          (entries.map fun e => (e.1, e.2.veiled hidden e.1)) := by
    intro entries
    induction entries with
    | nil => rfl
    | cons e rest ih =>
      rw [List.map_cons, insertEntry, insertEntry]
      split
      · rfl
      split
      · rfl
      · rw [List.map_cons, ih]
  exact congrArg Disk.mk (hinsert d.entries)

theorem veiled_erase (loc : Location) :
    (d.erase loc).veiled hidden = (d.veiled hidden).erase loc := by
  rw [veiled, erase, erase, veiled, List.filter_map]
  rfl

theorem veiled_veiled : (d.veiled hidden).veiled hidden = d.veiled hidden := by
  rw [veiled, veiled, List.map_map]
  refine congrArg Disk.mk (List.map_congr_left fun e _ => ?_)
  rw [Function.comp_apply, Entry.veiled_veiled]

theorem length_entries_veiled : (d.veiled hidden).entries.length = d.entries.length :=
  List.length_map _

/-- A veil leaves the names in a directory. -/
theorem names_veiled (dir : Location) : (d.veiled hidden).names dir = d.names dir := by
  unfold names children veiled
  rw [List.filterMap_map, List.map_filterMap, List.map_filterMap]
  refine List.filterMap_congr fun e _ => ?_
  have hkind : (e.2.veiled hidden e.1 = .directory) ↔ e.2 = .directory := by
    rw [← Entry.emptied_eq_directory, Entry.emptied_veiled, Entry.emptied_eq_directory]
  rw [Function.comp_apply]
  cases childName dir e.1 with
  | none => rfl
  | some name => simp [hkind]

theorem veiled_nil : d.veiled [] = d := by
  have hid : ∀ e ∈ d.entries, ((e.1, e.2.veiled [] e.1) : Location × Entry) = e := fun e _ => by
    rw [Entry.veiled_of_notMem List.not_mem_nil]
  rw [veiled, List.map_congr_left hid, List.map_id']

end Veil

/-! ### Operations under a veil -/

section Operations

variable (hidden : List Location) (d) (cwd) (path)

theorem resolve_veiled (follow : Bool) : (d.veiled hidden).resolve cwd follow path =
    (d.resolve cwd follow path).map (Target.map (Entry.veiled hidden)) :=
  (d.recast_veiled hidden).resolve cwd follow path

/-! Looking at the kinds of things, or at their names, is not looking into files. -/

theorem isDirectory_veiled : (d.veiled hidden).isDirectory cwd path = d.isDirectory cwd path := by
  unfold isDirectory
  rw [resolve_veiled]
  rcases d.resolve cwd true path with e | ⟨loc, _ | _ | _⟩ | loc <;> simp [Except.map, Target.map]

theorem isFile_veiled : (d.veiled hidden).isFile cwd path = d.isFile cwd path := by
  unfold isFile
  rw [resolve_veiled]
  rcases d.resolve cwd true path with e | ⟨loc, _ | _ | _⟩ | loc <;> simp [Except.map, Target.map]

theorem list_veiled : (d.veiled hidden).list cwd path = d.list cwd path := by
  unfold list
  rw [resolve_veiled, resolve_veiled]
  rcases d.resolve cwd false path with e | ⟨loc, _ | _ | _⟩ | loc
  · rfl
  · simp [Except.map, Target.map, names_veiled]
  · simp [Except.map, Target.map]
  · -- a link is followed
    rcases d.resolve cwd true path with e | ⟨loc, _ | _ | _⟩ | loc <;>
      simp [Except.map, Target.map, names_veiled]
  · rfl

/-! What is made somewhere is made there under a veil. -/

theorem makeDir_veiled :
    (d.veiled hidden).makeDir cwd path = (d.makeDir cwd path).map (veiled hidden) := by
  unfold makeDir
  rw [(d.recast_veiled hidden).resolveBare]
  rcases d.resolveBare cwd .occupied path with e | ⟨loc, entry⟩ | loc
  · rfl
  · rfl
  · simp [Except.map, Target.map, veiled_put]

theorem createFile_veiled :
    (d.veiled hidden).createFile cwd path = (d.createFile cwd path).map (veiled hidden) := by
  unfold createFile
  rw [resolve_veiled]
  rcases d.resolve cwd false path with e | ⟨loc, entry⟩ | loc
  · rfl
  · rfl
  · simp [Except.map, Target.map, veiled_put]

theorem removeFile_veiled :
    (d.veiled hidden).removeFile cwd path = (d.removeFile cwd path).map (veiled hidden) := by
  unfold removeFile
  rw [resolve_veiled]
  rcases d.resolve cwd false path with e | ⟨loc, _ | _ | _⟩ | loc <;>
    simp [Except.map, Target.map, veiled_erase]

/-- What is added to a veiled file is left out as well. -/
theorem appendFile_veiled (bytes : ByteArray) :
    ((d.veiled hidden).appendFile cwd path bytes).map (veiled hidden) =
      (d.appendFile cwd path bytes).map (veiled hidden) := by
  unfold appendFile
  rw [resolve_veiled]
  rcases d.resolve cwd false path with e | ⟨loc, _ | before | _⟩ | loc
  · rfl
  · simp [Except.map, Target.map]
  · simp only [Except.map, Target.map, Entry.veiled_file, veiled_put, veiled_veiled]
    split <;> rfl
  · simp [Except.map, Target.map]
  · rfl

variable {cwd path}

/-- **A path to a file that is not hidden.** -/
def NamesBeside (d : Disk) (hidden : List Location) (cwd : Location) (path : String) : Prop :=
  ∃ loc bytes, d.resolve cwd false path = .ok (.found loc (.file bytes)) ∧ loc ∉ hidden

/-- **A path that leads to no hidden file.** -/
def Averts (d : Disk) (hidden : List Location) (cwd : Location) (path : String) : Prop :=
  ∀ loc entry, d.resolve cwd true path = .ok (.found loc entry) → loc ∉ hidden

instance : Decidable (d.Averts hidden cwd path) :=
  match hresolve : d.resolve cwd true path with
  | .ok (.found loc entry) =>
    decidable_of_iff (loc ∉ hidden)
      ⟨fun h loc' entry' heq => by
        rw [hresolve] at heq
        cases heq
        exact h, fun h => h loc entry hresolve⟩
  | .ok (.vacant loc) => isTrue fun loc' entry' heq => by
    rw [hresolve] at heq
    cases heq
  | .error e => isTrue fun loc' entry' heq => by
    rw [hresolve] at heq
    cases heq

/-- A file that is not hidden can be read. -/
theorem readFile_veiled (h : d.Averts hidden cwd path) :
    (d.veiled hidden).readFile cwd path = d.readFile cwd path := by
  unfold readFile
  rw [resolve_veiled]
  rcases hresolve : d.resolve cwd true path with e | ⟨loc, entry⟩ | loc
  · rfl
  · rw [Except.map, Target.map, Entry.veiled_of_notMem (h loc entry hresolve)]
  · rfl

/-- A file that is not hidden can be moved. -/
theorem renameFile_veiled (h : d.NamesBeside hidden cwd path) (target : String) :
    ((d.veiled hidden).renameFile cwd path target).map (veiled hidden) =
      (d.renameFile cwd path target).map (veiled hidden) := by
  obtain ⟨loc, bytes, hresolve, hloc⟩ := h
  unfold renameFile
  rw [resolve_veiled, (d.recast_veiled hidden).resolveBare, hresolve]
  simp only [bind, Except.bind, Except.map, Target.map, Entry.veiled_of_notMem hloc]
  rcases d.resolveBare cwd .busy target with e | ⟨place, _ | _ | _⟩ | place
  · rfl
  all_goals
    by_cases hslash : asksForDirectory target = true
    · simp [hslash]
    · simp [hslash, veiled_put, veiled_erase, veiled_veiled]

end Operations

/-! ### Disks that are the same under a veil -/

section Same

variable {hidden : List Location}

theorem Averts.congr (h : d'.veiled hidden = d.veiled hidden) (haverts : d.Averts hidden cwd path) :
    d'.Averts hidden cwd path := by
  intro loc entry hresolve
  have hsame := congrArg (fun disk => disk.resolve cwd true path) h
  rw [resolve_veiled, resolve_veiled, hresolve] at hsame
  rcases hresolve' : d.resolve cwd true path with e | ⟨loc', entry'⟩ | loc'
  · rw [hresolve'] at hsame
    cases hsame
  · rw [hresolve'] at hsame
    simp only [Except.map, Target.map, Except.ok.injEq, Target.found.injEq] at hsame
    exact hsame.1 ▸ haverts loc' entry' hresolve'
  · rw [hresolve'] at hsame
    cases hsame

theorem NamesBeside.congr (h : d'.veiled hidden = d.veiled hidden)
    (hnames : d.NamesBeside hidden cwd path) : d'.NamesBeside hidden cwd path := by
  obtain ⟨loc, bytes, hresolve, hloc⟩ := hnames
  have hsame := congrArg (fun disk => disk.resolve cwd false path) h
  rw [resolve_veiled, resolve_veiled, hresolve] at hsame
  rcases hresolve' : d'.resolve cwd false path with e | ⟨loc', entry'⟩ | loc'
  · rw [hresolve'] at hsame
    cases hsame
  · rw [hresolve'] at hsame
    simp only [Except.map, Target.map, Except.ok.injEq, Target.found.injEq] at hsame
    obtain ⟨rfl, hentry⟩ := hsame
    rw [Entry.veiled_of_notMem hloc, Entry.veiled_of_notMem hloc] at hentry
    exact ⟨loc', bytes, hentry ▸ hresolve', hloc⟩
  · rw [hresolve'] at hsame
    cases hsame

end Same

end Disk

end TwinTypes
