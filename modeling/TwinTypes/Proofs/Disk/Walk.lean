import TwinTypes.Proofs.Disk.Pieces
import TwinTypes.Proofs.Disk.Tree

/-!
# Where a path leads on a tree

On a disk without links the place that a path denotes can be read off its letters
(`TwinTypes.Disk.placeOf`): a name goes down, two dots go up, a dot stays. What the disk decides is
only whether the way is open (`TwinTypes.Disk.Open`), and what stands at the place. The load-bearing
statement is `IsTree.walkNames_eq_ok_iff`, which says exactly that; the ways in which paths are
resolved are corollaries of it.

An open way stays open as long as no directory goes away (`Open.mono`), and that is all that has to
be known of a change to follow the same path after it.
-/

namespace TwinTypes.Disk

open TwinTypes.Path (isAbsolute pieces)

/-! ### Places -/

/-- Where a name leads from a directory. -/
def move (here : Location) (name : String) : Location :=
  if name = "." then here else if name = ".." then here.dropLast else here ++ [name]

/-- Where names lead, one after another. -/
def place (here : Location) (names : List String) : Location :=
  names.foldl move here

/-- **The place that a path denotes**, whatever stands there or on the way to it. -/
def placeOf (cwd : Location) (path : String) : Location :=
  place (origin cwd path) (bareSteps path)

@[simp] theorem place_nil (here : Location) : place here [] = here := rfl

@[simp] theorem place_cons (here : Location) (name : String) (names : List String) :
    place here (name :: names) = place (move here name) names := rfl

theorem place_append (here : Location) (xs ys : List String) :
    place here (xs ++ ys) = place (place here xs) ys :=
  List.foldl_append

/-- Without the two dots names lead down. -/
theorem isPrefix_place {names : List String} (h : ".." ∉ names) (here : Location) :
    here <+: place here names := by
  induction names generalizing here with
  | nil => exact List.prefix_rfl
  | cons name rest ih =>
    rw [List.mem_cons, not_or] at h
    have hmove : here <+: move here name := by
      unfold move
      rw [if_neg (Ne.symm h.1)]
      split
      · exact List.prefix_rfl
      · exact List.prefix_append here [name]
    exact hmove.trans (ih h.2 _)

/-- The names that things can have are segments. -/
theorem isSegment_of_isName {name : String} (h : isName name = true) : Path.IsSegment name := by
  simp only [isName, Bool.and_eq_true, bne_iff_ne, ne_eq, Bool.not_eq_true',
    List.contains_eq_mem, decide_eq_false_iff_not] at h
  exact ⟨h.1.1.1.1.1, h.1.1.1.1.2, h.1.1.1.2, h.1.1.2⟩

theorem move_of_isSegment {name : String} (h : Path.IsSegment name) (here : Location) :
    move here name = here ++ [name] := by
  rw [move, if_neg h.ne_dot, if_neg h.ne_up]

theorem origin_join {cwd : Location} {path rest : String} (h : isAbsolute rest = false) :
    origin cwd (Path.join path rest) = origin cwd path := by
  rw [origin, origin, Path.isAbsolute_join h]

/-- **A segment joined to a path** denotes what has that name in the place of the path. -/
theorem placeOf_join (cwd : Location) (path : String) {name : String} (h : Path.IsSegment name) :
    placeOf cwd (Path.join path name) = placeOf cwd path ++ [name] := by
  have habs := Path.isAbsolute_of_notMem h.slash
  rw [placeOf, origin_join habs, Path.bareSteps_join habs, h.bareSteps, place_append, place_cons,
    place_nil, move_of_isSegment h]
  rfl

/-- What a slash at the end of a path adds to its names. -/
theorem steps_eq (path : String) :
    steps path = if path.toList.getLast? = some '/' ∧ bareSteps path ≠ [] then
      bareSteps path ++ ["."] else bareSteps path := by
  simp [steps, bareSteps]

/-- A slash at the end of a path does not change the place. -/
theorem place_steps (here : Location) (path : String) :
    place here (steps path) = place here (bareSteps path) := by
  rw [steps_eq]
  split
  · rw [place_append]
    simp [move]
  · rfl

/-! ### Open ways -/

/-- **The way along some names is open**: each name is followed from a directory, and none is too
long. Nothing is said of where they lead. -/
def Open (d : Disk) (here : Location) : List String → Prop
  | [] => True
  | name :: rest =>
    d.get? here = some .directory ∧ name.utf8ByteSize ≤ nameLimit ∧ d.Open (move here name) rest

theorem open_append {d : Disk} {here : Location} {xs ys : List String} :
    d.Open here (xs ++ ys) ↔ d.Open here xs ∧ d.Open (place here xs) ys := by
  induction xs generalizing here with
  | nil => simp [Open]
  | cons x xs ih => simp [Open, ih, and_assoc]

/-- No directory of the one disk is missing on the other. -/
def KeepsDirectories (d d' : Disk) : Prop :=
  ∀ loc, d.get? loc = some .directory → d'.get? loc = some .directory

/-- **A way stays open as long as no directory goes away.** -/
theorem Open.mono {d d' : Disk} (hkeep : d.KeepsDirectories d') {here : Location}
    {names : List String} (h : d.Open here names) : d'.Open here names := by
  induction names generalizing here with
  | nil => trivial
  | cons name rest ih => exact ⟨hkeep _ h.1, h.2.1, ih h.2.2⟩

/-- The way to a place with a slash at its end is open if there is a directory. -/
theorem open_steps {d : Disk} {here : Location} {path : String} :
    d.Open here (steps path) ↔ d.Open here (bareSteps path) ∧
      (path.toList.getLast? = some '/' ∧ bareSteps path ≠ [] →
        d.get? (place here (bareSteps path)) = some .directory) := by
  have hdot : ".".utf8ByteSize ≤ nameLimit := by decide
  rw [steps_eq]
  split
  · rename_i h
    simp [open_append, Open, h.1, h.2, hdot]
  · rename_i h
    simp [h]

/-- What a path finds at a place. -/
def targetAt (d : Disk) (loc : Location) : Target :=
  match d.get? loc with
  | some entry => .found loc entry
  | none => .vacant loc

theorem targetAt_eq_found {d : Disk} {loc place : Location} {entry : Entry} :
    .found loc entry = d.targetAt place ↔ loc = place ∧ d.get? place = some entry := by
  unfold targetAt
  cases h : d.get? place <;> simp [eq_comm]

theorem targetAt_eq_vacant {d : Disk} {loc place : Location} :
    .vacant loc = d.targetAt place ↔ loc = place ∧ d.get? place = none := by
  unfold targetAt
  cases h : d.get? place <;> simp

namespace IsTree

variable {d : Disk}

/-- **Following names on a tree** succeeds exactly if the way is open, and then finds what stands at
the place that they lead to. -/
theorem walkNames_eq_ok_iff (h : d.IsTree) {follow : Bool}
    {jump : Location → List String → Except DiskError Target} {here : Location}
    {names : List String} {t : Target} (hstart : names ≠ [] ∨ d.get? here ≠ none) :
    d.walkNames follow jump here names = .ok t ↔
      d.Open here names ∧ t = d.targetAt (place here names) := by
  induction names generalizing here with
  | nil =>
    obtain ⟨entry, hentry⟩ := Option.ne_none_iff_exists'.mp (hstart.resolve_left (by simp))
    simp [walkNames, Open, targetAt, hentry, eq_comm]
  | cons name rest ih =>
    rw [walkNames, place_cons, Open]
    split
    -- nothing is followed from what is no directory
    · rename_i hdir
      simp [hdir]
    · rename_i hdir
      have hdir' : d.get? here = some .directory := not_not.mp hdir
      by_cases hdot : name = "."
      · have hsize : name.utf8ByteSize ≤ nameLimit := by rw [hdot]; decide
        rw [if_pos hdot, move, if_pos hdot, ih (Or.inr (by simp [hdir']))]
        simp [hdir', hsize]
      · rw [if_neg hdot, move, if_neg hdot]
        by_cases hup : name = ".."
        -- on a tree the way back is always open
        · have hsize : name.utf8ByteSize ≤ nameLimit := by rw [hup]; decide
          rw [if_pos hup, if_pos hup, ih (Or.inr (by simp [h.get?_dropLast hdir']))]
          simp [hdir', hsize]
        · rw [if_neg hup, if_neg hup]
          split
          · rename_i hlong
            simp [hdir', Nat.not_le.mpr hlong]
          · rename_i hlong
            have hsize := Nat.not_lt.mp hlong
            split
            -- where nothing stands the way is open only if it ends there
            · rename_i hnone
              cases rest with
              | nil => simp [Open, hdir', hsize, targetAt, hnone, eq_comm]
              | cons next rest => simp [Open, hnone]
            · rename_i target hlink
              exact absurd hlink (h.get?_ne_link _ _)
            · rename_i entry hsome
              rw [ih (Or.inr (by simp [hsome]))]
              simp [hdir', hsize]

/-- What remains of the links on a tree: none is ever followed. -/
theorem walk_eq_ok_iff (h : d.IsTree) {follow : Bool} {links : Nat} {here : Location}
    {names : List String} {t : Target} (hstart : names ≠ [] ∨ d.get? here ≠ none) :
    d.walk follow links here names = .ok t ↔
      d.Open here names ∧ t = d.targetAt (place here names) := by
  cases links <;> exact h.walkNames_eq_ok_iff hstart

end IsTree

/-! ### Resolving paths -/

theorem of_checkPath {path : String} (h : checkPath path = .ok ()) :
    '\x00' ∉ path.toList ∧ path ≠ "" ∧ path.utf8ByteSize ≤ pathLimit := by
  unfold checkPath at h
  split at h
  · cases h
  · rename_i hnul
    split at h
    · cases h
    · rename_i hempty
      split at h
      · cases h
      · rename_i hlong
        exact ⟨by simpa using hnul, by simpa using hempty, Nat.not_lt.mp hlong⟩

theorem checkPath_eq_ok_iff {path : String} :
    checkPath path = .ok () ↔
      '\x00' ∉ path.toList ∧ path ≠ "" ∧ path.utf8ByteSize ≤ pathLimit := by
  refine ⟨of_checkPath, fun ⟨hnul, hne, hsize⟩ => ?_⟩
  simp [checkPath, hnul, hne, hsize]

/-- A path that is not empty has a name to follow, or begins at the root. -/
theorem bareSteps_ne_nil {path : String} (hne : path ≠ "") (habs : isAbsolute path = false) :
    bareSteps path ≠ [] := by
  obtain ⟨c, cs, hcs⟩ := List.exists_cons_of_ne_nil (l := path.toList)
    (by simpa [String.toList_eq_nil_iff] using hne)
  have hc : c ≠ '/' := by
    intro hc
    simp [isAbsolute, hcs, hc] at habs
  obtain ⟨first, rest, hsplit⟩ := List.exists_cons_of_ne_nil (List.splitOn_ne_nil '/' cs)
  have hpieces : pieces path = String.ofList (c :: first) :: rest.map String.ofList := by
    rw [Path.pieces_eq, hcs, List.splitOn_cons_eq_if_modifyHead, hsplit]
    simp [hc]
  simp [bareSteps, hpieces]

theorem start_of_ne_empty (d : Disk) (cwd : Location) {path : String} (hne : path ≠ "") :
    bareSteps path ≠ [] ∨ d.get? (origin cwd path) ≠ none := by
  cases habs : isAbsolute path with
  | false => exact Or.inl (bareSteps_ne_nil hne habs)
  | true =>
    right
    rw [origin, habs]
    simp

theorem steps_eq_nil_iff {path : String} : steps path = [] ↔ bareSteps path = [] := by
  rw [steps_eq]
  split
  · rename_i h
    simp [h.2]
  · rfl

/-- The names of a path that can be followed are spelt without slashes and end marks. -/
theorem of_mem_bareSteps {path name : String} (hcheck : checkPath path = .ok ())
    (h : name ∈ bareSteps path) : name ≠ "" ∧ '/' ∉ name.toList ∧ '\x00' ∉ name.toList := by
  obtain ⟨hpiece, hne⟩ := List.mem_filter.mp h
  refine ⟨by simpa using hne, Path.slash_notMem_of_mem_pieces hpiece, fun hnul => ?_⟩
  exact (of_checkPath hcheck).1 (Path.of_mem_pieces hpiece _ hnul).1

namespace IsTree

variable {d : Disk} {cwd : Location} {path : String} {t : Target} {loc : Location}

/-- **What a path names on a tree.** -/
theorem resolve_eq_ok_iff (h : d.IsTree) {follow : Bool} :
    d.resolve cwd follow path = .ok t ↔ checkPath path = .ok () ∧
      d.Open (origin cwd path) (steps path) ∧ t = d.targetAt (placeOf cwd path) := by
  unfold resolve
  cases hcheck : checkPath path with
  | error e => simp [bind, Except.bind]
  | ok u =>
    have hstart : steps path ≠ [] ∨ d.get? (origin cwd path) ≠ none := by
      rw [ne_eq, steps_eq_nil_iff]
      exact start_of_ne_empty d cwd (of_checkPath hcheck).2.1
    simp only [bind, Except.bind, true_and]
    rw [h.walk_eq_ok_iff hstart, place_steps, placeOf]

/-- Something that stands at the end of an open way is found. -/
theorem resolve_eq_found (h : d.IsTree) (follow : Bool) {entry : Entry}
    (hcheck : checkPath path = .ok ()) (hopen : d.Open (origin cwd path) (steps path))
    (hget : d.get? (placeOf cwd path) = some entry) :
    d.resolve cwd follow path = .ok (.found (placeOf cwd path) entry) :=
  h.resolve_eq_ok_iff.mpr ⟨hcheck, hopen, targetAt_eq_found.mpr ⟨rfl, hget⟩⟩

/-- What a path that does not end in dots names on a tree, slashes at its end apart. -/
theorem of_resolveBare (h : d.IsTree) {dots : DiskError}
    (hr : d.resolveBare cwd dots path = .ok t) : checkPath path = .ok () ∧ bareSteps path ≠ [] ∧
      d.Open (origin cwd path) (bareSteps path) ∧ t = d.targetAt (placeOf cwd path) := by
  unfold resolveBare at hr
  cases hcheck : checkPath path with
  | error e => simp [hcheck, bind, Except.bind] at hr
  | ok u =>
    simp only [hcheck, bind, Except.bind] at hr
    split at hr
    · cases hr
    · rename_i hdots
      have hne : bareSteps path ≠ [] := by
        intro hnil
        simp [endsInDots, hnil] at hdots
      exact ⟨rfl, hne, (h.walk_eq_ok_iff (Or.inl hne)).mp hr⟩

/-- **A vacant place that a path leads to is in a directory**: a name leads there, as dots lead only
to directories. -/
theorem isPlace_of_vacant (h : d.IsTree) {here : Location} {names : List String} (hne : names ≠ [])
    (hnames : ∀ name ∈ names, name ≠ "" ∧ '/' ∉ name.toList ∧ '\x00' ∉ name.toList)
    (hopen : d.Open here names) (hvacant : d.get? (place here names) = none) :
    d.IsPlace (place here names) := by
  rcases List.eq_nil_or_concat' names with rfl | ⟨init, last, rfl⟩
  · exact absurd rfl hne
  · obtain ⟨-, hdir, hsize, -⟩ := open_append.mp hopen
    obtain ⟨hempty, hslash, hnul⟩ := hnames last (by simp)
    rw [place_append, place_cons, place_nil] at hvacant ⊢
    unfold move at hvacant ⊢
    split at hvacant
    · rw [hdir] at hvacant
      cases hvacant
    · rename_i hdot
      split at hvacant
      · rw [h.get?_dropLast hdir] at hvacant
        cases hvacant
      · rename_i hup
        rw [if_neg hdot, if_neg hup]
        refine isPlace_append.mpr ⟨?_, hdir⟩
        simp [isName, hempty, hdot, hup, hslash, hnul, hsize]

theorem isPlace_placeOf (h : d.IsTree) (hcheck : checkPath path = .ok ())
    (hopen : d.Open (origin cwd path) (bareSteps path))
    (hvacant : d.get? (placeOf cwd path) = none) : d.IsPlace (placeOf cwd path) := by
  refine h.isPlace_of_vacant (fun hnil => ?_) (fun name hname => of_mem_bareSteps hcheck hname)
    hopen hvacant
  rw [placeOf, hnil, place_nil] at hvacant
  exact (start_of_ne_empty d cwd (of_checkPath hcheck).2.1).elim (fun hs => hs hnil)
    fun hs => hs hvacant

/-- **What a path has to be like for bytes to be read from it**, and which bytes are read. -/
theorem readFile_eq_ok_iff (h : d.IsTree) {bytes : ByteArray} :
    d.readFile cwd path = .ok bytes ↔ checkPath path = .ok () ∧
      d.Open (origin cwd path) (steps path) ∧ d.get? (placeOf cwd path) = some (.file bytes) := by
  have hiff : d.readFile cwd path = .ok bytes ↔
      d.resolve cwd true path = .ok (.found (placeOf cwd path) (.file bytes)) := by
    constructor
    · intro hread
      unfold readFile at hread
      split at hread
      · rename_i loc bytes' hr
        cases hread
        obtain ⟨-, -, ht⟩ := h.resolve_eq_ok_iff.mp hr
        rw [hr, (targetAt_eq_found.mp ht).1]
      all_goals cases hread
    · intro hr
      simp [readFile, hr]
  rw [hiff, h.resolve_eq_ok_iff, targetAt_eq_found]
  simp

/-- **What a path has to be like to name a directory.** -/
theorem isDirectory_iff (h : d.IsTree) :
    d.isDirectory cwd path = true ↔ checkPath path = .ok () ∧
      d.Open (origin cwd path) (bareSteps path) ∧ d.get? (placeOf cwd path) = some .directory := by
  have hiff : d.isDirectory cwd path = true ↔
      d.resolve cwd true path = .ok (.found (placeOf cwd path) .directory) := by
    constructor
    · intro hdir
      unfold isDirectory at hdir
      split at hdir
      · rename_i loc hr
        obtain ⟨-, -, ht⟩ := h.resolve_eq_ok_iff.mp hr
        rw [hr, (targetAt_eq_found.mp ht).1]
      · cases hdir
    · intro hr
      simp [isDirectory, hr]
  rw [hiff, h.resolve_eq_ok_iff, targetAt_eq_found, open_steps, placeOf]
  constructor
  · rintro ⟨hcheck, ⟨hopen, -⟩, -, hget⟩
    exact ⟨hcheck, hopen, hget⟩
  · rintro ⟨hcheck, hopen, hget⟩
    exact ⟨hcheck, ⟨hopen, fun _ => hget⟩, rfl, hget⟩

/-- **The names in a directory** can be listed. -/
theorem list_of_isDirectory (h : d.IsTree) (hdir : d.isDirectory cwd path = true) :
    d.list cwd path = .ok (d.names (placeOf cwd path)) := by
  obtain ⟨hcheck, hopen, hget⟩ := h.isDirectory_iff.mp hdir
  have hfound := h.resolve_eq_found false hcheck
    (open_steps.mpr ⟨hopen, fun _ => hget⟩) hget
  simp only [list, hfound]

end IsTree

end TwinTypes.Disk
