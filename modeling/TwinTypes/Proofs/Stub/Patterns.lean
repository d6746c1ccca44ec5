import TwinTypes.Proofs.Stub.ReadBack

/-!
# The two patterns of a stub

The reader of stubs takes a line apart from the front. Here the two patterns that it looks for are
said as what a whole line is put together from: `TwinTypes.SetsPackage` of the line that sets the
package, and `TwinTypes.Declares` of the line that declares a type.

Both say at once what matches and what is found in it, since there is one way to take a line apart.
A run of blanks ends where there is no blank, and a name is the longest one that stands there
(`TwinTypes.Longest`). So the reader finds exactly what the patterns say
(`packageLine_eq_some_iff`, `declarationLine_eq_some_iff`), and no line matches both of them
(`SetsPackage.not_declares`): two letters of the first word tell them apart.
-/

namespace TwinTypes

open Text

/-! ### Runs -/

/-- **A gap**: blanks, at least one. -/
def IsGap (cs : List Char) : Prop :=
  cs ≠ [] ∧ ∀ c ∈ cs, isBlank c = true

/-- **The longest run** of characters of a class: there is at least one, and no more of them
follow. -/
structure Longest (inClass : Char → Bool) (run rest : List Char) : Prop where
  /-- There is something of it. -/
  ne_nil : run ≠ []
  /-- It is of the class. -/
  all : ∀ c ∈ run, inClass c = true
  /-- It goes no further. -/
  stops : ∀ c ∈ rest.head?, inClass c = false

theorem stops_dropWhile (inClass : Char → Bool) (cs : List Char) :
    ∀ c ∈ (cs.dropWhile inClass).head?, inClass c = false := by
  intro c hc
  have hnot := List.head?_dropWhile_not inClass cs
  rwa [Option.mem_def.mp hc] at hnot

theorem leadingRun_eq_some_iff {inClass : Char → Bool} {cs run : List Char} :
    leadingRun inClass cs = some run ↔ ∃ rest, cs = run ++ rest ∧ Longest inClass run rest := by
  constructor
  · intro h
    have hrun := of_leadingRun h
    unfold leadingRun at h
    split at h
    · cases h
    · rename_i hne
      cases h
      refine ⟨cs.dropWhile inClass, List.takeWhile_append_dropWhile.symm, hne, ?_,
        stops_dropWhile inClass cs⟩
      simpa using hrun.2
  · rintro ⟨rest, rfl, hrun⟩
    exact leadingRun_append hrun.ne_nil hrun.all hrun.stops

/-- **A word and a gap** stand before what is left of a line. -/
theorem afterWord_eq_some_iff {word line rest : List Char} :
    afterWord word line = some rest ↔
      (∃ gap, line = word ++ (gap ++ rest) ∧ IsGap gap) ∧ ∀ c ∈ rest.head?, isBlank c = false := by
  constructor
  · intro h
    unfold afterWord at h
    split at h
    · rename_i hprefix
      obtain ⟨more, rfl⟩ := List.isPrefixOf_iff_prefix.mp hprefix
      rw [List.drop_left] at h
      cases more with
      | nil => cases h
      | cons c more =>
        dsimp only at h
        split at h
        · rename_i hc
          cases h
          refine ⟨⟨c :: more.takeWhile isBlank, ?_, List.cons_ne_nil _ _, fun x hx => ?_⟩,
            stops_dropWhile isBlank more⟩
          · rw [List.cons_append, dropBlanks, List.takeWhile_append_dropWhile]
          · rcases List.mem_cons.mp hx with rfl | hx
            · exact hc
            · exact List.all_eq_true.mp List.all_takeWhile x hx
        · cases h
    · cases h
  · rintro ⟨⟨gap, rfl, hne, hgap⟩, hstop⟩
    obtain ⟨c, gap, rfl⟩ := List.exists_cons_of_ne_nil hne
    have hprefix : word.isPrefixOf (word ++ (c :: gap ++ rest)) = true :=
      List.isPrefixOf_iff_prefix.mpr (List.prefix_append _ _)
    have hdrop : dropBlanks (gap ++ rest) = rest := by
      rw [dropBlanks, List.dropWhile_append_of_pos fun x hx => hgap x (List.mem_cons_of_mem _ hx)]
      exact dropBlanks_eq_self hstop
    rw [afterWord, if_pos hprefix, List.drop_left, List.cons_append]
    simp [hgap c List.mem_cons_self, hdrop]

/-- What does not begin with a word does not go on after it. -/
theorem afterWord_eq_none {word line : List Char} (h : ¬word <+: line) :
    afterWord word line = none := by
  rw [afterWord, if_neg fun hp => h (List.isPrefixOf_iff_prefix.mp hp)]

/-- The characters of a run of another class than blanks are no blanks. -/
theorem Longest.not_blank {inClass : Char → Bool} {run rest : List Char}
    (h : Longest inClass run rest) (hclass : ∀ c, inClass c = true → isBlank c = false) :
    ∀ c ∈ (run ++ rest).head?, isBlank c = false := by
  intro c hc
  rw [List.head?_append_of_ne_nil run h.ne_nil] at hc
  exact hclass c (h.all c (List.mem_of_mem_head? hc))

/-! ### Package lines -/

/-- **A line that sets the package**: the word for it, a gap and the name of the package. -/
def SetsPackage (line package : List Char) : Prop :=
  ∃ gap rest, line = "package".toList ++ (gap ++ (package ++ rest)) ∧ IsGap gap ∧
    Longest isPackageChar package rest

theorem packageLine_eq_some_iff {line package : List Char} :
    packageLine line = some package ↔ SetsPackage line package := by
  rw [packageLine, Option.bind_eq_some_iff]
  constructor
  · rintro ⟨more, hafter, hrun⟩
    obtain ⟨⟨gap, hline, hgap⟩, -⟩ := afterWord_eq_some_iff.mp hafter
    obtain ⟨rest, rfl, hlongest⟩ := leadingRun_eq_some_iff.mp hrun
    exact ⟨gap, rest, hline, hgap, hlongest⟩
  · rintro ⟨gap, rest, hline, hgap, hlongest⟩
    exact ⟨package ++ rest, afterWord_eq_some_iff.mpr ⟨⟨gap, hline, hgap⟩,
      hlongest.not_blank fun _ => isBlank_of_isPackageChar⟩,
      leadingRun_eq_some_iff.mpr ⟨rest, rfl, hlongest⟩⟩

/-! ### Declaration lines -/

/-- **Words before a keyword**: modifiers in any order and number, each with a gap after it. -/
inductive Modified : List Char → Prop
  /-- There are none. -/
  | nil : Modified []
  /-- One more. -/
  | cons {word gap more : List Char} (hword : word ∈ modifiers) (hgap : IsGap gap)
      (hmore : Modified more) : Modified (word ++ (gap ++ more))

/-- **What may stand before a keyword**: modifiers, and before them the word for what is visible. -/
def Fronts (front : List Char) : Prop :=
  Modified front ∨ ∃ gap more, front = "public".toList ++ (gap ++ more) ∧ IsGap gap ∧ Modified more

/-- **A line that declares a type**: what may stand before a keyword, the keyword, a gap and the
simple name. -/
def Declares (line : List Char) (kind : Kind) (simple : List Char) : Prop :=
  ∃ front gap rest, line = front ++ (kind.keyword.toList ++ (gap ++ (simple ++ rest))) ∧
    Fronts front ∧ IsGap gap ∧ Longest isWord simple rest

/-- A keyword, a gap and a name, at the front of a line. -/
def OpensWith (line : List Char) (kind : Kind) (simple : List Char) : Prop :=
  ∃ gap rest, line = kind.keyword.toList ++ (gap ++ (simple ++ rest)) ∧ IsGap gap ∧
    Longest isWord simple rest

section Lines

variable {front line rest simple : List Char} {kind : Kind}

/-- **What goes before a keyword begins with one of five letters**, and so does the keyword. -/
theorem Modified.exists_cons (h : Modified front) (kind : Kind) (rest : List Char) :
    ∃ c more, front ++ (kind.keyword.toList ++ rest) = c :: more ∧
      c ∈ ['f', 'o', 'a', 'c', 'i'] := by
  cases h with
  | nil =>
    cases kind with
    | classKind => exact ⟨'c', "lass".toList ++ rest, rfl, by decide⟩
    | interfaceKind => exact ⟨'i', "nterface".toList ++ rest, rfl, by decide⟩
  | @cons word gap more hword =>
    have hne : ∀ w ∈ modifiers, ∃ c tail, w = c :: tail ∧ c ∈ ['f', 'o', 'a', 'c', 'i'] := by
      simp [modifiers]
    obtain ⟨c, tail, rfl, hc⟩ := hne word hword
    exact ⟨c, _, rfl, hc⟩

theorem Modified.not_blank (h : Modified front) (kind : Kind) (rest : List Char) :
    ∀ c ∈ (front ++ (kind.keyword.toList ++ rest)).head?, isBlank c = false := by
  obtain ⟨c, more, heq, hc⟩ := h.exists_cons kind rest
  have hblank : (['f', 'o', 'a', 'c', 'i'].all fun c => !isBlank c) = true := by decide
  rw [heq]
  simpa using List.all_eq_true.mp hblank c hc

/-- What one element of a list gives, and no other one gives anything. -/
theorem findSome?_eq_some_of_unique {α β : Type} {f : α → Option β} {l : List α} {a : α} {b : β}
    (ha : a ∈ l) (h : f a = some b) (hothers : ∀ x ∈ l, x ≠ a → f x = none) :
    l.findSome? f = some b := by
  obtain ⟨before, after, rfl, hfirst⟩ := List.eq_append_cons_of_mem ha
  refine List.findSome?_eq_some_iff.mpr ⟨before, a, after, rfl, h, fun x hx => ?_⟩
  exact hothers x (List.mem_append_left _ hx) fun heq => hfirst (heq ▸ hx)

/-- A modifier is taken off. -/
theorem findSome?_modifiers {word : List Char} (hword : word ∈ modifiers)
    (h : afterWord word line = some rest) :
    (modifiers.findSome? fun w => afterWord w line) = some rest := by
  obtain ⟨⟨gap, rfl, -⟩, -⟩ := afterWord_eq_some_iff.mp h
  -- no two modifiers begin with the same letter, so the others do not match
  have hothers : ∀ w ∈ modifiers, w ≠ word → afterWord w (word ++ (gap ++ rest)) = none := by
    intro w hw hne
    refine afterWord_eq_none fun hprefix => hne ?_
    simp only [modifiers, List.mem_cons, List.not_mem_nil, or_false] at hw hword
    rcases hw with rfl | rfl | rfl <;> rcases hword with rfl | rfl | rfl <;>
      first | rfl | simp at hprefix
  exact findSome?_eq_some_of_unique hword h hothers

theorem dropModifiers_of_some (h : (modifiers.findSome? fun w => afterWord w line) = some rest) :
    dropModifiers line = dropModifiers rest := by
  rw [dropModifiers]
  split
  · rename_i rest' hsome
    rw [h] at hsome
    cases hsome
    rfl
  · rename_i hnone
    rw [h] at hnone
    cases hnone

/-- **The modifiers before a keyword** are dropped. -/
theorem Modified.dropModifiers_append (h : Modified front) (kind : Kind) (rest : List Char) :
    dropModifiers (front ++ (kind.keyword.toList ++ rest)) = kind.keyword.toList ++ rest := by
  induction h with
  | nil => exact dropModifiers_keyword kind rest
  | @cons word gap more hword hgap hmore ih =>
    rw [List.append_assoc, List.append_assoc]
    rw [dropModifiers_of_some (findSome?_modifiers hword (afterWord_eq_some_iff.mpr
      ⟨⟨gap, rfl, hgap⟩, hmore.not_blank kind rest⟩)), ih]

/-- What is dropped are modifiers. -/
theorem exists_modified_append (line : List Char) :
    ∃ front, Modified front ∧ line = front ++ dropModifiers line := by
  induction line using dropModifiers.induct with
  | case1 line rest h ih =>
    obtain ⟨front, hfront, hrest⟩ := ih
    obtain ⟨word, hword, hafter⟩ := List.exists_of_findSome?_eq_some h
    obtain ⟨⟨gap, hline, hgap⟩, -⟩ := afterWord_eq_some_iff.mp hafter
    refine ⟨word ++ (gap ++ front), .cons hword hgap hfront, ?_⟩
    rw [dropModifiers_of_some h, List.append_assoc, List.append_assoc, ← hrest, hline]
  | case2 line h => exact ⟨[], .nil, by rw [dropModifiers_eq_self h, List.nil_append]⟩

/-- The keyword at the front of a line is found, whichever it is. -/
theorem findSome?_kinds :
    (Kind.all.findSome? fun kind =>
      ((afterWord kind.keyword.toList line).bind (leadingRun isWord)).map fun name =>
        (kind, name)) = some (kind, simple) ↔ OpensWith line kind simple := by
  have hmatch : ∀ k : Kind, (afterWord k.keyword.toList line).bind (leadingRun isWord) =
      some simple ↔ OpensWith line k simple := by
    intro k
    rw [Option.bind_eq_some_iff]
    constructor
    · rintro ⟨more, hafter, hrun⟩
      obtain ⟨⟨gap, hline, hgap⟩, -⟩ := afterWord_eq_some_iff.mp hafter
      obtain ⟨rest, rfl, hlongest⟩ := leadingRun_eq_some_iff.mp hrun
      exact ⟨gap, rest, hline, hgap, hlongest⟩
    · rintro ⟨gap, rest, hline, hgap, hlongest⟩
      exact ⟨simple ++ rest, afterWord_eq_some_iff.mpr ⟨⟨gap, hline, hgap⟩,
        hlongest.not_blank fun _ => isBlank_of_isWord⟩,
        leadingRun_eq_some_iff.mpr ⟨rest, rfl, hlongest⟩⟩
  constructor
  · intro h
    obtain ⟨k, -, hk⟩ := List.exists_of_findSome?_eq_some h
    obtain ⟨name, hname, hpair⟩ := Option.map_eq_some_iff.mp hk
    obtain ⟨rfl, rfl⟩ := Prod.mk.inj hpair
    exact (hmatch k).mp hname
  · intro h
    have hmem : kind ∈ Kind.all := by cases kind <;> decide
    refine findSome?_eq_some_of_unique hmem (by rw [(hmatch kind).mpr h, Option.map_some])
      fun k _ hne => ?_
    -- the other keyword begins with another letter
    obtain ⟨gap, rest, rfl, -⟩ := h
    have hother : afterWord k.keyword.toList
        (kind.keyword.toList ++ (gap ++ (simple ++ rest))) = none :=
      afterWord_eq_none (by cases k <;> cases kind <;> simp [Kind.keyword] at hne ⊢)
    rw [hother, Option.bind_none, Option.map_none]

/-- **The reader finds in a line what the pattern of declarations says.** -/
theorem declarationLine_eq_some_iff :
    declarationLine line = some (kind, simple) ↔ Declares line kind simple := by
  rw [declarationLine, findSome?_kinds]
  constructor
  · rintro ⟨gap, rest, hkeyword, hgap, hlongest⟩
    obtain ⟨front, hfront, hline⟩ :=
      exists_modified_append ((afterWord "public".toList line).getD line)
    rw [hkeyword] at hline
    cases hpublic : afterWord "public".toList line with
    | none =>
      rw [hpublic, Option.getD_none] at hline
      exact ⟨front, gap, rest, hline, Or.inl hfront, hgap, hlongest⟩
    | some more =>
      rw [hpublic, Option.getD_some] at hline
      obtain ⟨⟨between, hwhole, hbetween⟩, -⟩ := afterWord_eq_some_iff.mp hpublic
      refine ⟨"public".toList ++ (between ++ front), gap, rest, ?_,
        Or.inr ⟨between, front, rfl, hbetween, hfront⟩, hgap, hlongest⟩
      rw [hwhole, hline, List.append_assoc, List.append_assoc]
  · rintro ⟨front, gap, rest, rfl, hfront, hgap, hlongest⟩
    refine ⟨gap, rest, ?_, hgap, hlongest⟩
    rcases hfront with hfront | ⟨between, more, rfl, hbetween, hmore⟩
    · obtain ⟨c, tail, heq, hc⟩ := hfront.exists_cons kind (gap ++ (simple ++ rest))
      have hpublic : afterWord "public".toList
          (front ++ (kind.keyword.toList ++ (gap ++ (simple ++ rest)))) = none := by
        refine afterWord_eq_none fun hprefix => ?_
        rw [heq] at hprefix
        obtain rfl : 'p' = c := (List.cons_prefix_cons.mp hprefix).1
        exact absurd hc (by decide)
      rw [hpublic, Option.getD_none, hfront.dropModifiers_append]
    · have hpublic : afterWord "public".toList ("public".toList ++ (between ++ more) ++
          (kind.keyword.toList ++ (gap ++ (simple ++ rest)))) =
            some (more ++ (kind.keyword.toList ++ (gap ++ (simple ++ rest)))) := by
        rw [List.append_assoc, List.append_assoc]
        exact afterWord_eq_some_iff.mpr ⟨⟨between, rfl, hbetween⟩, hmore.not_blank kind _⟩
      rw [hpublic, Option.getD_some, hmore.dropModifiers_append]

/-- **No line does both.** -/
theorem SetsPackage.not_declares {package : List Char} (h : SetsPackage line package) (kind : Kind)
    (simple : List Char) : ¬Declares line kind simple := by
  rintro ⟨front, gap, rest, hline, hfront, -, -⟩
  obtain ⟨gap', rest', rfl, -, -⟩ := h
  rcases hfront with hfront | ⟨between, more, rfl, -, -⟩
  · obtain ⟨c, tail, heq, hc⟩ := hfront.exists_cons kind (gap ++ (simple ++ rest))
    rw [heq] at hline
    obtain rfl : 'p' = c := List.head_eq_of_cons_eq hline
    exact absurd hc (by decide)
  · simp at hline

end Lines

end TwinTypes
