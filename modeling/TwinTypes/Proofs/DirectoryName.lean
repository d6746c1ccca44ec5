import TwinTypes.Proofs.Disk.Pieces
import TwinTypes.Proofs.Stub.ReadBack

/-!
# Directories of pairs

The directory name of a pair is a segment whatever the two names are (`isSegment_dirName`), so the
directory is in the output directory and nowhere else.

Two pairs may have the same directory name, as a dot and an underscore become the same. Then their
stubs tell them apart (`MappingPair.eq_of_stubs_eq`). The reason is that a stub shows a name up to a
character that no directory name confuses with an underscore: the package ends at a semicolon or at
the end of a line, and the simple name at a blank. Flattened, the same name ends at an underscore or
at a dot. So if two names look alike in the directory name and in the stub, neither can go on where
the other one ends (`eq_of_marked`).
-/

namespace TwinTypes

/-! ### Directory names are segments -/

/-- The characters that no directory name has. -/
def replaced : List Char :=
  ['.', '$', '/', '\\']

theorem segmentChar_of_mem {c : Char} (h : c ∈ replaced) : segmentChar c = '_' := by
  refine if_pos ?_
  simpa [replaced] using h

theorem segmentChar_of_notMem {c : Char} (h : c ∉ replaced) : segmentChar c = c := by
  refine if_neg fun hc => h ?_
  simpa [replaced] using hc

theorem segmentChar_notMem (c : Char) : segmentChar c ∉ replaced := by
  by_cases h : c ∈ replaced
  · rw [segmentChar_of_mem h]
    decide
  · rwa [segmentChar_of_notMem h]

theorem toList_sanitizeSegment (name : String) :
    (sanitizeSegment name).toList = name.toList.map segmentChar :=
  String.toList_ofList

theorem notMem_sanitizeSegment (name : String) {c : Char} (h : c ∈ replaced) :
    c ∉ (sanitizeSegment name).toList := by
  rw [toList_sanitizeSegment]
  intro hmem
  obtain ⟨x, -, rfl⟩ := List.mem_map.mp hmem
  exact segmentChar_notMem x h

/-- **The directory name of a pair is a single name**, whatever the pair. -/
theorem MappingPair.isSegment_dirName (pair : MappingPair) : Path.IsSegment pair.dirName := by
  have hlist : pair.dirName.toList =
      (pair.kotlin ++ "_to_" ++ pair.java).toList.map segmentChar := toList_sanitizeSegment _
  have hmark : '_' ∈ pair.dirName.toList := by
    rw [hlist]
    exact List.mem_map.mpr ⟨'_', by simp, by decide⟩
  refine ⟨?_, ?_, ?_, notMem_sanitizeSegment _ (by decide)⟩
  · intro h
    simp [h] at hmark
  · intro h
    simp [h] at hmark
  · intro h
    simp [h] at hmark

/-! ### Names that look alike -/

section Alike

variable {xs ys r s u v : List Char} {c m m' x : Char}

/-- **Names that end alike are the same**: they end at one character in the one text, at others that
are flattened to an underscore in the other, and the former is not. -/
theorem eq_of_marked (h : xs ++ c :: r = ys ++ c :: s)
    (hmap : (xs ++ m :: u).map segmentChar = (ys ++ m' :: v).map segmentChar)
    (hm : segmentChar m = '_') (hm' : segmentChar m' = '_') (hc : segmentChar c ≠ '_') :
    xs = ys := by
  induction xs generalizing ys with
  | nil =>
    cases ys with
    | nil => rfl
    | cons y ys =>
      simp only [List.nil_append, List.cons_append, List.cons.injEq, List.map_cons] at h hmap
      rw [hm, ← h.1] at hmap
      exact absurd hmap.1.symm hc
  | cons a xs ih =>
    cases ys with
    | nil =>
      simp only [List.nil_append, List.cons_append, List.cons.injEq, List.map_cons] at h hmap
      rw [hm', h.1] at hmap
      exact absurd hmap.1 hc
    | cons y ys =>
      simp only [List.cons_append, List.cons.injEq, List.map_cons] at h hmap
      rw [h.1, ih h.2 hmap.2]

/-- A dot at the front of one of two names that are shown without it would go through the other one
as underscores, up to its end, and stop at nothing. -/
theorem not_shifted (h : xs ++ ' ' :: r = ys ++ ' ' :: s)
    (hmap : (xs ++ '_' :: u).map segmentChar = (x :: (ys ++ '_' :: v)).map segmentChar)
    (hx : segmentChar x = '_')
    (hu : ∀ c ∈ u.head?, segmentChar c ≠ '_' ∧ segmentChar c ≠ ' ') : False := by
  have hblank : segmentChar ' ' = ' ' := by decide
  -- the induction carries along that the character in front is flattened to an underscore
  induction xs generalizing x ys with
  | nil =>
    cases u with
    | nil => simp at hmap
    | cons a u =>
      obtain ⟨hmark, hblank'⟩ := hu a rfl
      cases ys with
      | nil =>
        simp only [List.nil_append, List.map_cons, List.cons.injEq] at hmap
        exact hmark (hmap.2.1.trans (by decide))
      | cons y ys =>
        simp only [List.nil_append, List.cons_append, List.map_cons, List.cons.injEq] at h hmap
        rw [← h.1, hblank] at hmap
        exact hblank' hmap.2.1
  | cons a xs ih =>
    simp only [List.cons_append, List.map_cons, List.cons.injEq] at hmap
    have ha : segmentChar a = '_' := hmap.1.trans hx
    cases ys with
    | nil =>
      simp only [List.nil_append, List.cons_append, List.cons.injEq] at h
      rw [h.1, hblank] at ha
      exact absurd ha (by decide)
    | cons y ys =>
      simp only [List.cons_append, List.cons.injEq] at h
      rw [h.1] at ha
      exact ih h.2 hmap.2 ha

end Alike

/-! ### How a stub shows a name -/

/-- **A text that shows a name**: with its package, if there is one, and in any case with its simple
name. A dot at the front does not make a package and is not shown. -/
inductive Shows (lead terminator : List Char) : (name text : List Char) → Prop
  /-- The package is shown on a line of its own. -/
  | packaged (package simple rest : List Char) (kind : Kind) : Shows lead terminator
      (package ++ '.' :: simple) ("package ".toList ++ (package ++ (terminator ++ '\n' :: '\n' ::
        (lead ++ (kind.keyword.toList ++ ' ' :: (simple ++ ' ' :: rest))))))
  /-- There is no package. -/
  | bare (dot simple rest : List Char) (kind : Kind) (h : dot = [] ∨ dot = ['.']) :
      Shows lead terminator (dot ++ simple)
        (lead ++ (kind.keyword.toList ++ ' ' :: (simple ++ ' ' :: rest)))

theorem shows_stub (terminator : String) {name header : String} {lead tail : List Char}
    {kind : Kind} (hheader : header.toList = lead ++ (kind.keyword.toList ++ ' ' ::
      ((simpleNameOf name).toList ++ ' ' :: tail))) (more : List String) :
    Shows lead terminator.toList name.toList
      (String.intercalate "\n" (packageLines terminator name ++ header :: more)).toList := by
  obtain ⟨rest, hrest⟩ := toList_intercalate_cons header more
  rcases splitAtLastDot_cases name.toList with ⟨hdot, hsplit⟩ | ⟨p, s, hs, hname, hsplit⟩
  · have hsimple : simpleNameOf name = name := by rw [simpleNameOf, hsplit]
    rw [packageLines, packageOf, hsplit, List.nil_append, hrest, hheader, hsimple]
    have hshows : Shows lead terminator.toList _ _ :=
      .bare [] name.toList (tail ++ rest) kind (Or.inl rfl)
    simpa using hshows
  · have hsimple : (simpleNameOf name).toList = s := by
      rw [simpleNameOf, hsplit]
      exact String.toList_ofList
    rw [hsimple] at hheader
    rw [packageLines, packageOf, hsplit, hname]
    by_cases hp : p = []
    -- before a dot at the front there is nothing to be called a package
    · rw [hp]
      simp only [List.isEmpty_nil, if_true, List.nil_append]
      rw [hrest, hheader]
      have hshows : Shows lead terminator.toList _ _ :=
        .bare ['.'] s (tail ++ rest) kind (Or.inr rfl)
      simpa using hshows
    · have hempty : p.isEmpty = false := by simpa using hp
      simp only [hempty, Bool.false_eq_true, if_false, List.cons_append, List.nil_append]
      rw [toList_intercalate_cons_cons, toList_intercalate_cons_cons, hrest, hheader]
      have hshows : Shows lead terminator.toList _ _ := .packaged p s (tail ++ rest) kind
      simpa using hshows

/-- **Names that are shown and flattened alike are the same.** Flattened, each name is followed by
an underscore, and after that by neither an underscore nor a blank. -/
theorem Shows.name_eq {lead terminator n n' text text' u v : List Char}
    (h : Shows lead terminator n text) (h' : Shows lead terminator n' text') (heq : text = text')
    (hmap : (n ++ '_' :: u).map segmentChar = (n' ++ '_' :: v).map segmentChar)
    (hu : ∀ c ∈ u.head?, segmentChar c ≠ '_' ∧ segmentChar c ≠ ' ')
    (hv : ∀ c ∈ v.head?, segmentChar c ≠ '_' ∧ segmentChar c ≠ ' ')
    (hterm : segmentChar (terminator.headD '\n') ≠ '_')
    (hlead : ∀ (kind : Kind) (x y : List Char),
      "package ".toList ++ x ≠ lead ++ (kind.keyword.toList ++ y)) : n = n' := by
  have hblank : segmentChar ' ' ≠ '_' := by decide
  cases h with
  | packaged p s rest kind =>
    cases h' with
    | packaged p' s' rest' kind' =>
      have htext := List.append_cancel_left heq
      rw [List.append_assoc, List.append_assoc, List.cons_append, List.cons_append] at hmap
      -- the packages end at the first character of what follows them
      have hp : p = p' := by
        cases terminator with
        | nil => exact eq_of_marked htext hmap (by decide) (by decide) (by decide)
        | cons c t => exact eq_of_marked htext hmap (by decide) (by decide) hterm
      subst hp
      have htail := List.append_cancel_left (List.append_cancel_left htext)
      simp only [List.cons.injEq, true_and] at htail
      have hsimple := (Kind.keyword_append_inj (List.append_cancel_left htail)).2
      rw [List.map_append, List.map_append, List.map_cons, List.map_cons] at hmap
      have hmap' := List.tail_eq_of_cons_eq (List.append_cancel_left hmap)
      rw [eq_of_marked hsimple hmap' (by decide) (by decide) hblank]
    | bare dot' s' rest' kind' hdot' => exact absurd heq (hlead kind' _ _)
  | bare dot s rest kind hdot =>
    cases h' with
    | packaged p' s' rest' kind' => exact absurd heq.symm (hlead kind _ _)
    | bare dot' s' rest' kind' hdot' =>
      have hsimple := (Kind.keyword_append_inj (List.append_cancel_left heq)).2
      -- a dot at the front of one of the names alone would shift it against the other
      rcases hdot with rfl | rfl <;> rcases hdot' with rfl | rfl
      · exact eq_of_marked hsimple hmap (by decide) (by decide) hblank
      · exact (not_shifted hsimple hmap (by decide) hu).elim
      · exact (not_shifted hsimple.symm hmap.symm (by decide) hv).elim
      · rw [eq_of_marked hsimple (List.tail_eq_of_cons_eq hmap) (by decide) (by decide) hblank]

theorem shows_kotlinStub (name : String) (d : Descriptor) :
    Shows [] [] name.toList (kotlinStub name d).toList := by
  obtain ⟨header, tail, more, hheader, hstub⟩ := exists_kotlinStub_eq name d
  rw [hstub]
  exact shows_stub "" hheader more

theorem shows_javaStub (name : String) (d : Descriptor) :
    Shows "public ".toList [';'] name.toList (javaStub name d).toList := by
  obtain ⟨header, tail, more, hheader, hstub⟩ := exists_javaStub_eq name d
  rw [hstub]
  exact shows_stub ";" hheader more

/-- **Pairs that share a directory have different stubs**, unless they are the same pair. -/
theorem MappingPair.eq_of_stubs_eq {p q : MappingPair} {d d' e e' : Descriptor}
    (hdir : p.dirName = q.dirName) (hkotlin : kotlinStub p.kotlin d = kotlinStub q.kotlin d')
    (hjava : javaStub p.java e = javaStub q.java e') : p = q := by
  have hmap : (p.kotlin.toList ++ '_' :: ("to_".toList ++ p.java.toList)).map segmentChar =
      (q.kotlin.toList ++ '_' :: ("to_".toList ++ q.java.toList)).map segmentChar := by
    have hlist := congrArg String.toList hdir
    rw [dirName, dirName, pairDirName, pairDirName, toList_sanitizeSegment,
      toList_sanitizeSegment] at hlist
    simpa using hlist
  have hto : ∀ (java : List Char), ∀ c ∈ ("to_".toList ++ java).head?,
      segmentChar c ≠ '_' ∧ segmentChar c ≠ ' ' := by
    intro java c hc
    obtain rfl : 't' = c := by simpa using hc
    decide
  have hk : p.kotlin.toList = q.kotlin.toList :=
    (shows_kotlinStub p.kotlin d).name_eq (shows_kotlinStub q.kotlin d')
      (congrArg String.toList hkotlin) hmap (hto _) (hto _) (by decide) (by
        intro kind x y h
        cases kind <;> simp [Kind.keyword] at h)
  -- what is left of the directory name is the Java name
  rw [hk, List.map_append, List.map_append] at hmap
  have hmap' : (p.java.toList ++ ['_']).map segmentChar =
      (q.java.toList ++ ['_']).map segmentChar := by
    have hcancel := List.append_cancel_left hmap
    simp only [List.map_cons, List.map_append, List.cons.injEq, true_and] at hcancel
    rw [List.map_append, List.map_append, List.append_cancel_left hcancel]
  have hj : p.java.toList = q.java.toList :=
    (shows_javaStub p.java e).name_eq (shows_javaStub q.java e')
      (congrArg String.toList hjava) hmap' (by simp) (by simp) (by decide) (by
        intro kind x y h
        cases kind <;> simp [Kind.keyword] at h)
  cases p
  cases q
  simp only [mk.injEq]
  exact ⟨String.toList_injective hk, String.toList_injective hj⟩

end TwinTypes
