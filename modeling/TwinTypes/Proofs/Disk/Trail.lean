import TwinTypes.Proofs.Disk.Parents

/-!
# The trail of a path

Paths that differ by a dot say the same, and neither their letters nor their components agree: a dot
at the front is a component, so `./a` has a directory to be read against where `a` has the empty
path. What the two share is the *trail* (`TwinTypes.Path.trail`), the components without the dots.
Trails make visible what the letters hide: the trail of a joined path is that of the one path and
then that of the other (`trail_join`), and the trail of the parent is the trail without its end
(`trail_parent`) – also where the parent is empty, or a dot, or the root.

The disk does not tell such paths apart either, with one exception that comes from the letters: with
a dot and a slash in front a path may be too long (`Disk.readFile_join_dot`).
-/

namespace TwinTypes

open Disk (bareSteps)

namespace Path

variable {a b path dir : String}

/-! ### Components without dots -/

/-- **The trail of a path**: its components, without a dot at the front. -/
def trail (path : String) : List Component :=
  (components path).filter fun c => c ≠ .here

/-- The trail of what comes before the first piece. -/
def rootTrail (absolute : Bool) : List Component :=
  if absolute then [.root] else []

/-- The components of pieces, of which the first may be a dot. -/
def componentsOf (absolute : Bool) : List String → List Component
  | [] => []
  | first :: rest =>
    rootTrail absolute ++ (componentOf true first).toList ++ rest.filterMap (componentOf false)

theorem components_eq (path : String) :
    components path = componentsOf (isAbsolute path) (pieces path) := by
  rw [components]
  cases pieces path <;> rfl

theorem componentOf_ne_here (piece : String) : componentOf false piece ≠ some .here := by
  unfold componentOf
  split
  · simp
  · rename_i hidle
    rw [if_neg fun hdot => hidle (by simp [isIdle, hdot])]
    split <;> simp

theorem componentOf_eq_none {first : Bool} {piece : String} (h : componentOf first piece = none) :
    isIdle first piece = true := by
  unfold componentOf at h
  split at h
  · assumption
  · by_cases hdot : piece = "."
    · simp [hdot] at h
    · by_cases hup : piece = ".." <;> simp [hdot, hup] at h

/-- Away from the front a dot is nothing to begin with. -/
theorem toList_componentOf_filter (piece : String) :
    (componentOf true piece).toList.filter (fun c => c ≠ .here) =
      (componentOf false piece).toList := by
  by_cases hdot : piece = "."
  · rw [hdot]
    decide
  · have hsame : componentOf true piece = componentOf false piece := by
      simp [componentOf, isIdle, hdot]
    have hne := componentOf_ne_here piece
    rw [hsame]
    cases hc : componentOf false piece with
    | none => rfl
    | some c =>
      rw [hc] at hne
      simpa using hne

theorem pieces_ne_nil (path : String) : pieces path ≠ [] := by
  rw [pieces_eq]
  simp

/-- **The trail, piece by piece**: none of them counts as the first one. -/
theorem trail_eq (path : String) :
    trail path = rootTrail (isAbsolute path) ++ (pieces path).filterMap (componentOf false) := by
  have hroot : (rootTrail (isAbsolute path)).filter (fun c => c ≠ .here) =
      rootTrail (isAbsolute path) := by
    cases isAbsolute path <;> decide
  have hrest : ∀ xs : List String, (xs.filterMap (componentOf false)).filter (fun c => c ≠ .here) =
      xs.filterMap (componentOf false) := by
    intro xs
    refine List.filter_eq_self.mpr fun c hc => ?_
    obtain ⟨piece, -, hpiece⟩ := List.mem_filterMap.mp hc
    rw [decide_eq_true_iff]
    rintro rfl
    exact componentOf_ne_here piece hpiece
  obtain ⟨first, rest, hpieces⟩ := List.exists_cons_of_ne_nil (pieces_ne_nil path)
  rw [trail, components_eq, hpieces, componentsOf, List.filter_append, List.filter_append, hroot,
    toList_componentOf_filter, hrest, List.append_assoc, List.filterMap_cons]
  cases componentOf false first <;> rfl

theorem trail_empty : trail "" = [] := by
  decide

/-! ### Joining -/

/-- The trail of what stands on both sides of a slash. -/
theorem trail_append_slash (ha : isAbsolute (a ++ "/" ++ b) = isAbsolute a) :
    trail (a ++ "/" ++ b) = trail a ++ (pieces b).filterMap (componentOf false) := by
  rw [trail_eq, ha, pieces_append_slash, List.filterMap_append, ← List.append_assoc, ← trail_eq]

/-- **Joining appends trails.** -/
theorem trail_join (hb : isAbsolute b = false) : trail (join a b) = trail a ++ trail b := by
  have habs := isAbsolute_join (a := a) hb
  have htrail : trail b = (pieces b).filterMap (componentOf false) := by
    rw [trail_eq, hb]
    rfl
  rcases join_cases (a := a) hb with ⟨rfl, hj⟩ | ⟨a', rfl, hj⟩ | ⟨-, -, hj⟩
  · rw [hj, trail_empty, List.nil_append]
  · -- the slash at the end of the directory puts an empty piece there, which says nothing
    have hnone : componentOf false "" = none := by decide
    rw [hj] at habs ⊢
    rw [trail_eq, trail_eq (a' ++ "/"), habs, pieces_append_slash_end, pieces_append_slash, htrail]
    simp [hnone]
  · rw [hj] at habs ⊢
    rw [trail_append_slash habs, htrail]

/-- A dot in front leaves no trail. -/
theorem trail_join_dot (path : String) : trail (join "." path) = trail path := by
  cases habs : isAbsolute path with
  | true =>
    have hjoin : join "." path = path := if_pos habs
    rw [hjoin]
  | false =>
    have hdot : trail "." = [] := by decide
    rw [trail_join habs, hdot, List.nil_append]

/-! ### Parents -/

/-- What is left out at the end of pieces leaves no trail. -/
theorem filterMap_dropIdle (xs : List String) :
    (dropIdle xs).filterMap (componentOf false) = xs.filterMap (componentOf false) := by
  obtain ⟨idle, hxs, hidle⟩ := exists_dropIdle xs
  have hnone : idle.filterMap (componentOf false) = [] := by
    rw [List.filterMap_eq_nil_iff]
    intro piece hmem
    rcases hidle piece hmem with rfl | rfl <;> decide
  conv_rhs => rw [hxs]
  rw [List.filterMap_append, hnone, List.nil_append]

/-- The pieces that say nothing at the end of a path leave no trail. -/
theorem trail_eq_reversedPieces (path : String) : trail path =
    rootTrail (isAbsolute path) ++ (reversedPieces path).reverse.filterMap (componentOf false) := by
  rw [trail_eq, reversedPieces, List.filterMap_reverse, filterMap_dropIdle,
    ← List.filterMap_reverse, List.reverse_reverse]

/-- **The trail of the first pieces of a path**, put together. -/
theorem trail_ofReversed {ys : List String} (h : ys <:+ (pieces path).reverse)
    (hys : dropIdle ys = ys) :
    trail (ofReversed (isAbsolute path) ys) =
      rootTrail (isAbsolute path) ++ ys.reverse.filterMap (componentOf false) := by
  cases hcases : ys with
  | nil => cases isAbsolute path <;> decide
  | cons piece before =>
    have hne : ys ≠ [] := by simp [hcases]
    have hslash := slash_notMem_of_suffix h
    have hempty := ofReversed_ne_empty (isAbsolute path) hne hslash hys
    rw [← hcases, trail_eq, (of_ofReversed h hempty).2, pieces_ofReversed _ hne hslash]

/-- A path from the root begins with an empty piece. -/
theorem head?_pieces_of_isAbsolute (h : isAbsolute path = true) :
    (pieces path).head? = some "" := by
  obtain ⟨cs, hcs⟩ := List.head?_eq_some_iff.mp (eq_of_beq h)
  have hpath : path = "" ++ "/" ++ String.ofList cs := by
    apply String.toList_injective
    simp [hcs]
  rw [hpath, pieces_append_slash, pieces_of_notMem (by simp)]
  rfl

/-- **The parent of a path** has the trail of the path without its end. -/
theorem trail_parent (h : parent path = some dir) : trail dir = (trail path).dropLast := by
  rw [parent] at h
  have hsuffix := reversedPieces_suffix path
  cases hcases : reversedPieces path with
  | nil =>
    rw [hcases] at h
    cases h
  | cons last before =>
    rw [hcases] at h hsuffix
    obtain rfl : ofReversed (isAbsolute path) (dropIdle before) = dir := Option.some.inj h
    rw [trail_ofReversed (dropIdle_suffix_of_cons hsuffix) (dropIdle_dropIdle before), List.filterMap_reverse,
      filterMap_dropIdle, ← List.filterMap_reverse, trail_eq_reversedPieces path, hcases,
      List.reverse_cons, List.filterMap_append, ← List.append_assoc]
    cases hlast : componentOf false last with
    | some c => simp [hlast]
    | none =>
      -- a piece that says nothing comes last only if it is a dot alone, and leads from no root
      have hidle := isIdle_of_dropIdle (hcases : dropIdle (pieces path).reverse = last :: before)
      cases before with
      | cons x xs => simp [componentOf_eq_none hlast] at hidle
      | nil =>
        cases habs : isAbsolute path with
        | false => simp [hlast, rootTrail]
        | true =>
          have hhead := head?_pieces_of_isAbsolute habs
          obtain ⟨front, hfront⟩ := hsuffix
          rw [← List.reverse_reverse (pieces path), ← hfront] at hhead
          obtain rfl : last = "" := by simpa using hhead
          simp [isIdle] at hidle

/-- A path without a parent has nothing to be taken off. -/
theorem dropLast_trail_of_parent (h : parent path = none) : (trail path).dropLast = [] := by
  cases hcases : reversedPieces path with
  | nil =>
    rw [trail_eq_reversedPieces, hcases]
    cases isAbsolute path <;> rfl
  | cons last before =>
    rw [parent, hcases] at h
    cases h

end Path

/-! ### A dot in front -/

namespace Disk

variable {d : Disk} {cwd here : Location} {path : String} {names : List String}

/-- A dot leads nowhere: before other names it is not noticed. -/
theorem walk_dot {follow : Bool} {links : Nat} (hne : names ≠ []) :
    d.walk follow links here ("." :: names) = d.walk follow links here names := by
  obtain ⟨name, rest, rfl⟩ := List.exists_cons_of_ne_nil hne
  have hwalk : ∀ jump, d.walkNames follow jump here ("." :: name :: rest) =
      d.walkNames follow jump here (name :: rest) := by
    intro jump
    rw [walkNames]
    split
    · rename_i hdir
      rw [walkNames, if_pos hdir]
    · rw [if_pos rfl]
  cases links with
  | zero => exact hwalk _
  | succ links => exact hwalk _

section JoinDot

variable (habs : Path.isAbsolute path = false)

include habs

theorem steps_join_dot (hne : path ≠ "") : steps (Path.join "." path) = "." :: steps path := by
  have hbare : bareSteps (Path.join "." path) = "." :: bareSteps path := by
    have hdot : bareSteps "." = ["."] := by decide
    rw [Path.bareSteps_join habs, hdot]
    rfl
  have hlast : (Path.join "." path).toList.getLast? = path.toList.getLast? := by
    have hlist : path.toList ≠ [] := by simpa [String.toList_eq_nil_iff] using hne
    rw [Path.join_dot habs, String.toList_append, List.getLast?_append_of_ne_nil _ hlist]
  have hnames := bareSteps_ne_nil hne habs
  rw [steps_eq, steps_eq, hbare, hlast]
  simp only [ne_eq, List.cons_ne_nil, not_false_eq_true, and_true, hnames]
  split <;> rfl

/-- **A dot in front does not change what a path names**, if the path is not too long with it. -/
theorem resolve_join_dot {follow : Bool} (hne : path ≠ "")
    (hsize : (Path.join "." path).utf8ByteSize ≤ pathLimit) :
    d.resolve cwd follow (Path.join "." path) = d.resolve cwd follow path := by
  have hcheck : checkPath (Path.join "." path) = checkPath path := by
    have hsize' := Path.utf8ByteSize_join_dot habs
    have hnul : (Path.join "." path).toList.contains '\x00' = path.toList.contains '\x00' := by
      rw [Path.join_dot habs]
      simp
    have hempty : Path.join "." path ≠ "" := by
      rw [Path.join_dot habs]
      simp
    simp only [checkPath, hnul, String.isEmpty_iff, hne, hempty, if_false,
      if_neg (Nat.not_lt.mpr hsize), if_neg (by omega : ¬pathLimit < path.utf8ByteSize)]
  have horigin : origin cwd (Path.join "." path) = origin cwd path := by
    rw [origin, origin, Path.isAbsolute_join habs, habs]
    rfl
  have hsteps : steps path ≠ [] := fun hnil =>
    bareSteps_ne_nil hne habs (steps_eq_nil_iff.mp hnil)
  rw [resolve, resolve, hcheck, horigin, steps_join_dot habs hne, walk_dot hsteps]

end JoinDot

/-- The empty path names no file, with or without a dot in front. -/
theorem readFile_join_dot_empty (d : Disk) (cwd : Location) :
    (∃ e, d.readFile cwd (Path.join "." "") = .error e) ∧ ∃ e, d.readFile cwd "" = .error e := by
  have hcheck : checkPath (Path.join "." "") = .ok () := by decide
  have hsteps : steps (Path.join "." "") = [".", "."] := by decide
  have horigin : origin cwd (Path.join "." "") = cwd := if_neg (by decide)
  have hwalk : ∀ links, d.walk true links cwd [".", "."] =
      if d.get? cwd = some .directory then .ok (.found cwd .directory)
      else .error .notDirectory := by
    intro links
    cases links <;> by_cases hdir : d.get? cwd = some .directory <;> simp [walk, walkNames, hdir]
  refine ⟨?_, .notFound, rfl⟩
  rw [readFile, resolve, hcheck, hsteps, horigin]
  simp only [bind, Except.bind, hwalk]
  by_cases hdir : d.get? cwd = some .directory
  · exact ⟨.isDirectory, by rw [if_pos hdir]⟩
  · exact ⟨.notDirectory, by rw [if_neg hdir]⟩

theorem readFile_of_checkPath {e : DiskError} (h : checkPath path = .error e) :
    d.readFile cwd path = .error e := by
  rw [readFile, resolve, h]
  rfl

/-- **A file is read with a dot in front of its path as without it**, or with neither, unless the
dot makes the path too long. -/
theorem readFile_join_dot (d : Disk) (cwd : Location) (path : String) :
    d.readFile cwd (Path.join "." path) = d.readFile cwd path ∨
      ((∃ e, d.readFile cwd (Path.join "." path) = .error e) ∧
        ∃ e, d.readFile cwd path = .error e) ∨
      (pathLimit < (Path.join "." path).utf8ByteSize ∧
        d.readFile cwd (Path.join "." path) = .error .nameTooLong) := by
  cases habs : Path.isAbsolute path with
  | true =>
    have hjoin : Path.join "." path = path := if_pos habs
    exact Or.inl (by rw [hjoin])
  | false =>
    by_cases hempty : path = ""
    · exact Or.inr (Or.inl (hempty ▸ readFile_join_dot_empty d cwd))
    by_cases hsize : (Path.join "." path).utf8ByteSize ≤ pathLimit
    · exact Or.inl (by rw [readFile, readFile, resolve_join_dot habs hempty hsize])
    have hlong := Nat.not_le.mp hsize
    have hjoin := Path.join_dot habs
    have hne : Path.join "." path ≠ "" := by simp [hjoin]
    by_cases hnul : '\x00' ∈ path.toList
    · -- such a path is refused whatever its length
      have hnul' : '\x00' ∈ (Path.join "." path).toList := by simp [hjoin, hnul]
      exact Or.inr (Or.inl ⟨⟨.nulInPath, readFile_of_checkPath (by simp [checkPath, hnul'])⟩,
        .nulInPath, readFile_of_checkPath (by simp [checkPath, hnul])⟩)
    · have hnul' : '\x00' ∉ (Path.join "." path).toList := by simp [hjoin, hnul]
      exact Or.inr (Or.inr ⟨hlong,
        readFile_of_checkPath (by simp [checkPath, hnul', hne, hlong])⟩)

end Disk

end TwinTypes
