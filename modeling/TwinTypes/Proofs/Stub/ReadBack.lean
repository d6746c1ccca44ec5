import TwinTypes.Proofs.Text.Trimming
import TwinTypes.Stub
import TwinTypes.StubReader

/-!
# Stubs read back

A stub says of a type what the stub reader looks for: a package line if there is a package, an empty
line, and the line that declares the type. This file settles for which names the reader finds in a
stub exactly the name that went into it, and that it does not depend on what else the stub shows.

Both directions are read off the shape of names (`TwinTypes.WellFormedName`).

* What the reader puts together is a run of word characters, or such a run after a package of word
  characters and dots (`wellFormedName_of_readTypeInfo`). So no other name comes back from any text,
  let alone from a stub.
* A stub of such a name opens with lines that leave the reader no choice. The two renderers differ
  in what stands before the simple name and after the package; `TwinTypes.Opens` names what they
  have in common, and `readTypeInfo_stub` uses nothing else.
-/

namespace TwinTypes

open Text

/-! ### The names that a stub can show -/

/-- A text that is a run of characters of a class, and not empty. -/
def IsRun (inClass : Char → Bool) (s : String) : Prop :=
  s ≠ "" ∧ ∀ c ∈ s.toList, inClass c = true

/-- **A name that a stub can show**: a word, or a word after a package of word characters and dots.
-/
def WellFormedName (name : String) : Prop :=
  IsRun isWord name ∨
    ∃ package simple, name = package ++ "." ++ simple ∧
      IsRun isPackageChar package ∧ IsRun isWord simple

theorem IsRun.toList_ne_nil {inClass : Char → Bool} {s : String} (h : IsRun inClass s) :
    s.toList ≠ [] := by
  rw [ne_eq, String.toList_eq_nil_iff]
  exact h.1

/-- No dot is in a word. -/
theorem isRun_singleton {inClass : Char → Bool} (c : Char) (h : inClass c = true) :
    IsRun inClass (String.singleton c) := by
  refine ⟨fun hempty => ?_, fun x hx => ?_⟩
  · have hlist := congrArg String.toList hempty
    simp at hlist
  · have hx' : x = c := by simpa using hx
    rw [hx', h]

theorem IsRun.dot_notMem {s : String} (h : IsRun isWord s) : '.' ∉ s.toList := by
  intro hdot
  have hc := h.2 '.' hdot
  rw [show isWord '.' = false by decide] at hc
  cases hc

/-- The characters of a package name are no blanks. -/
theorem isBlank_of_isPackageChar {c : Char} (h : isPackageChar c = true) : isBlank c = false := by
  rcases Bool.or_eq_true_iff.mp h with hc | hc
  · exact isBlank_of_isWord hc
  · rw [beq_iff_eq.mp hc]
    decide

theorem newline_notMem_of_isBlank {cs : List Char} (h : ∀ c ∈ cs, isBlank c = false) :
    '\n' ∉ cs := by
  intro hn
  have hc := h '\n' hn
  rw [show isBlank '\n' = true by decide] at hc
  cases hc

/-! ### Cutting a name at its last dot -/

theorem splitAtLastDot_eq_none {cs : List Char} (h : '.' ∉ cs) : splitAtLastDot cs = none := by
  induction cs with
  | nil => rfl
  | cons c cs ih =>
    have hc : c ≠ '.' := fun hc => h (by simp [hc])
    simp [splitAtLastDot, ih fun hcs => h (by simp [hcs]), hc]

theorem splitAtLastDot_append {p s : List Char} (h : '.' ∉ s) :
    splitAtLastDot (p ++ '.' :: s) = some (p, s) := by
  induction p with
  | nil => simp [splitAtLastDot, splitAtLastDot_eq_none h]
  | cons c p ih => simp [splitAtLastDot, ih]

/-- What is appended without a dot belongs to what stands after the last dot. -/
theorem splitAtLastDot_append_right {cs more : List Char} (h : '.' ∉ more) :
    splitAtLastDot (cs ++ more) =
      (splitAtLastDot cs).map fun parts => (parts.1, parts.2 ++ more) := by
  induction cs with
  | nil => rw [List.nil_append, splitAtLastDot_eq_none h]; rfl
  | cons c cs ih =>
    rw [List.cons_append, splitAtLastDot, splitAtLastDot, ih]
    cases splitAtLastDot cs with
    | none => by_cases hc : c = '.' <;> simp [hc]
    | some parts => rfl

/-- Cutting at the last dot, if there is one. -/
theorem splitAtLastDot_cases (cs : List Char) :
    ('.' ∉ cs ∧ splitAtLastDot cs = none) ∨
      ∃ p s, '.' ∉ s ∧ cs = p ++ '.' :: s ∧ splitAtLastDot cs = some (p, s) := by
  induction cs with
  | nil => exact Or.inl ⟨by simp, rfl⟩
  | cons c cs ih =>
    rcases ih with ⟨hdot, -⟩ | ⟨p, s, hs, rfl, -⟩
    · by_cases hc : c = '.'
      · exact Or.inr ⟨[], cs, hdot, by rw [hc, List.nil_append], by
          rw [hc, ← List.nil_append ('.' :: cs), splitAtLastDot_append hdot]⟩
      · have hdot' : '.' ∉ c :: cs := by simp [hdot, Ne.symm hc]
        exact Or.inl ⟨hdot', splitAtLastDot_eq_none hdot'⟩
    · exact Or.inr ⟨c :: p, s, hs, rfl, by
        rw [← List.cons_append, splitAtLastDot_append hs]⟩

section Names

variable {name package simple : String}

theorem packageOf_append {more : List Char} (h : '.' ∉ more) :
    packageOf (name ++ String.ofList more) = packageOf name := by
  rw [packageOf, packageOf, String.toList_append, String.toList_ofList,
    splitAtLastDot_append_right h]
  cases splitAtLastDot name.toList <;> rfl

theorem toList_simpleNameOf_append {more : List Char} (h : '.' ∉ more) :
    (simpleNameOf (name ++ String.ofList more)).toList = (simpleNameOf name).toList ++ more := by
  rw [simpleNameOf, simpleNameOf, String.toList_append, String.toList_ofList,
    splitAtLastDot_append_right h]
  cases splitAtLastDot name.toList <;> simp

theorem packageOf_of_isRun (h : IsRun isWord name) : packageOf name = none := by
  rw [packageOf, splitAtLastDot_eq_none h.dot_notMem]

theorem simpleNameOf_of_isRun (h : IsRun isWord name) : simpleNameOf name = name := by
  rw [simpleNameOf, splitAtLastDot_eq_none h.dot_notMem]

theorem splitAtLastDot_qualified (h : IsRun isWord simple) :
    splitAtLastDot (package ++ "." ++ simple).toList = some (package.toList, simple.toList) := by
  have hs : (package ++ "." ++ simple).toList = package.toList ++ '.' :: simple.toList := by simp
  rw [hs, splitAtLastDot_append h.dot_notMem]

theorem packageOf_qualified (hp : package ≠ "") (h : IsRun isWord simple) :
    packageOf (package ++ "." ++ simple) = some package := by
  rw [packageOf, splitAtLastDot_qualified h]
  simp [hp]

theorem simpleNameOf_qualified (h : IsRun isWord simple) :
    simpleNameOf (package ++ "." ++ simple) = simple := by
  rw [simpleNameOf, splitAtLastDot_qualified h]
  exact String.ofList_toList

end Names

/-- The characters of a package, and of a simple name, are characters of the name. -/
theorem mem_of_mem_packageOf {name package : String} (h : package ∈ packageOf name) {c : Char}
    (hc : c ∈ package.toList) : c ∈ name.toList := by
  rw [packageOf] at h
  rcases splitAtLastDot_cases name.toList with ⟨-, hsplit⟩ | ⟨p, s, -, hname, hsplit⟩
  · simp [hsplit] at h
  · by_cases hp : p = []
    · simp [hsplit, hp] at h
    · obtain rfl : String.ofList p = package := by simpa [hsplit, hp] using h
      rw [String.toList_ofList] at hc
      rw [hname]
      exact List.mem_append_left _ hc

theorem mem_of_mem_simpleNameOf {name : String} {c : Char} (hc : c ∈ (simpleNameOf name).toList) :
    c ∈ name.toList := by
  rw [simpleNameOf] at hc
  rcases splitAtLastDot_cases name.toList with ⟨-, hsplit⟩ | ⟨p, s, -, hname, hsplit⟩
  · rwa [hsplit] at hc
  · rw [hsplit, String.toList_ofList] at hc
    rw [hname]
    exact List.mem_append_right _ (List.mem_cons_of_mem _ hc)

/-- A keyword ends at the first blank. -/
theorem Kind.keyword_append_inj {k k' : Kind} {x y : List Char}
    (h : k.keyword.toList ++ ' ' :: x = k'.keyword.toList ++ ' ' :: y) : k = k' ∧ x = y := by
  cases k <;> cases k'
  · exact ⟨rfl, by simpa [Kind.keyword] using h⟩
  · simp [Kind.keyword] at h
  · simp [Kind.keyword] at h
  · exact ⟨rfl, by simpa [Kind.keyword] using h⟩

/-! ### Reading a line -/

theorem dropBlanks_append {s rest : List Char} (hne : s ≠ []) (h : ∀ c ∈ s, isBlank c = false) :
    dropBlanks (s ++ rest) = s ++ rest := by
  refine dropBlanks_eq_self fun c hc => ?_
  rw [List.head?_append_of_ne_nil s hne] at hc
  exact h c (List.mem_of_mem_head? hc)

/-- A word and a single blank are taken off. -/
theorem afterWord_append (word : List Char) {s : List Char} (hne : s ≠ [])
    (h : ∀ c ∈ s, isBlank c = false) (rest : List Char) :
    afterWord word (word ++ ' ' :: (s ++ rest)) = some (s ++ rest) := by
  have hblank : isBlank ' ' = true := by decide
  have hp : word.isPrefixOf (word ++ ' ' :: (s ++ rest)) = true :=
    List.isPrefixOf_iff_prefix.mpr (List.prefix_append _ _)
  rw [afterWord, if_pos hp, List.drop_left]
  simp [hblank, dropBlanks_append hne h]

/-- The first run ends where the class does. -/
theorem leadingRun_append {inClass : Char → Bool} {s rest : List Char} (hne : s ≠ [])
    (hs : ∀ c ∈ s, inClass c = true) (hrest : ∀ c ∈ rest.head?, inClass c = false) :
    leadingRun inClass (s ++ rest) = some s := by
  have htake : (s ++ rest).takeWhile inClass = s := by
    rw [List.takeWhile_append_of_pos hs]
    cases rest with
    | nil => simp
    | cons c rest => simp [hrest c (by simp)]
  rw [leadingRun, htake]
  cases s with
  | nil => exact absurd rfl hne
  | cons c s => rfl

/-- What the first run of a class consists of. -/
theorem of_leadingRun {inClass : Char → Bool} {cs word : List Char}
    (h : leadingRun inClass cs = some word) : IsRun inClass (String.ofList word) := by
  unfold leadingRun at h
  split at h
  · cases h
  · rename_i word' hne
    cases h
    refine ⟨fun hw => hne (String.ofList_eq_empty_iff.mp hw), fun c hc => ?_⟩
    rw [String.toList_ofList] at hc
    exact List.all_eq_true.mp List.all_takeWhile c hc

/-- A line that begins with no modifier is left as it is. -/
theorem dropModifiers_eq_self {line : List Char}
    (h : (modifiers.findSome? fun word => afterWord word line) = none) :
    dropModifiers line = line := by
  rw [dropModifiers]
  split
  · rename_i hsome
    rw [h] at hsome
    cases hsome
  · rfl

/-- A declaration line without modifiers is read from its keyword on. -/
theorem dropModifiers_keyword (kind : Kind) (rest : List Char) :
    dropModifiers (kind.keyword.toList ++ rest) = kind.keyword.toList ++ rest :=
  dropModifiers_eq_self (by cases kind <;> simp [modifiers, afterWord, Kind.keyword])

/-- An empty line declares nothing. -/
theorem declarationLine_nil : declarationLine [] = none := by
  have hpublic : (afterWord "public".toList []).getD [] = [] := by decide
  rw [declarationLine, hpublic, dropModifiers_eq_self (by decide)]
  decide

/-- A line that goes on with a keyword, a blank and a word once its visibility is taken off
declares a type of that name. -/
theorem declarationLine_keyword {kind : Kind} {line s rest : List Char}
    (hline : (afterWord "public".toList line).getD line = kind.keyword.toList ++ ' ' :: (s ++ rest))
    (hne : s ≠ []) (hs : ∀ c ∈ s, isWord c = true) (hrest : ∀ c ∈ rest.head?, isWord c = false) :
    declarationLine line = some (kind, s) := by
  have hafter := afterWord_append kind.keyword.toList hne
    (fun c hc => isBlank_of_isWord (hs c hc)) rest
  have hrun := leadingRun_append hne hs hrest
  rw [declarationLine, hline, dropModifiers_keyword]
  cases kind with
  | classKind => simp [Kind.all, hafter, hrun]
  | interfaceKind =>
    -- the keywords are tried in turn, and the other one does not match
    have hother : afterWord Kind.classKind.keyword.toList
        (Kind.interfaceKind.keyword.toList ++ ' ' :: (s ++ rest)) = none := by
      simp [afterWord, Kind.keyword]
    simp [Kind.all, hafter, hrun, hother]

/-! ### The lines of a stub -/

/-- **The beginning of a declaration line**: whatever stands after it, unless it goes on with the
name, the line declares a type of this kind and simple name. -/
structure Opens (front : List Char) (kind : Kind) (simple : List Char) : Prop where
  /-- It begins with something to be seen. -/
  head : ∀ c ∈ front.head?, isBlank c = false
  /-- It ends with something to be seen. -/
  last : ∀ c ∈ front.getLast?, isBlank c = false
  /-- There is something of it. -/
  ne_nil : front ≠ []
  /-- It does not go over a line end. -/
  newline : '\n' ∉ front
  /-- It is no package line. -/
  package : ∀ rest, packageLine (front ++ rest) = none
  /-- It declares the type. -/
  declaration : ∀ rest, (∀ c ∈ rest.head?, isWord c = false) →
    declarationLine (front ++ rest) = some (kind, simple)

section Fronts

variable {s : List Char}

theorem last_of_word (front : List Char) (hne : s ≠ []) (hs : ∀ c ∈ s, isWord c = true) :
    ∀ c ∈ (front ++ s).getLast?, isBlank c = false := by
  intro c hc
  rw [List.getLast?_append_of_ne_nil front hne] at hc
  exact isBlank_of_isWord (hs c (List.mem_of_getLast? hc))

theorem newline_notMem_of_word (hs : ∀ c ∈ s, isWord c = true) : '\n' ∉ s :=
  newline_notMem_of_isBlank fun c hc => isBlank_of_isWord (hs c hc)

/-- A Kotlin declaration opens with the keyword. -/
theorem opens_kotlin (kind : Kind) (hne : s ≠ []) (hs : ∀ c ∈ s, isWord c = true) :
    Opens (kind.keyword.toList ++ ' ' :: s) kind s where
  head := by cases kind <;> simp [Kind.keyword] <;> decide
  last := by
    have := last_of_word (kind.keyword.toList ++ [' ']) hne hs
    simpa using this
  ne_nil := by simp
  newline := by
    have := newline_notMem_of_word hs
    cases kind <;> simp [Kind.keyword, this]
  package rest := by cases kind <;> simp [packageLine, afterWord, Kind.keyword]
  declaration rest hrest := by
    have hpublic :
        afterWord "public".toList (kind.keyword.toList ++ ' ' :: (s ++ rest)) = none := by
      cases kind <;> simp [afterWord, Kind.keyword]
    rw [List.append_assoc, List.cons_append]
    exact declarationLine_keyword (by rw [hpublic, Option.getD_none]) hne hs hrest

/-- A Java declaration opens with its visibility and the keyword. -/
theorem opens_java (kind : Kind) (hne : s ≠ []) (hs : ∀ c ∈ s, isWord c = true) :
    Opens ("public".toList ++ ' ' :: (kind.keyword.toList ++ ' ' :: s)) kind s where
  head := by simp; decide
  last := by
    have := last_of_word ("public".toList ++ ' ' :: (kind.keyword.toList ++ [' '])) hne hs
    simpa using this
  ne_nil := by simp
  newline := by
    have := newline_notMem_of_word hs
    cases kind <;> simp [Kind.keyword, this]
  package rest := by simp [packageLine, afterWord]
  declaration rest hrest := by
    have hpublic : afterWord "public".toList
        ("public".toList ++ ' ' :: (kind.keyword.toList ++ ' ' :: (s ++ rest))) =
        some (kind.keyword.toList ++ ' ' :: (s ++ rest)) := by
      refine afterWord_append _ ?_ ?_ _
      all_goals cases kind <;> simp [Kind.keyword] <;> decide
    have hassoc : "public".toList ++ ' ' :: (kind.keyword.toList ++ ' ' :: s) ++ rest =
        "public".toList ++ ' ' :: (kind.keyword.toList ++ ' ' :: (s ++ rest)) := by simp
    rw [hassoc]
    exact declarationLine_keyword (by rw [hpublic, Option.getD_some]) hne hs hrest

end Fronts

/-! ### The text of a stub -/

theorem toList_intercalate_cons (line : String) (more : List String) :
    ∃ rest, (String.intercalate "\n" (line :: more)).toList = line.toList ++ rest := by
  cases more with
  | nil => exact ⟨[], by simp⟩
  | cons next more => exact ⟨_, by rw [String.intercalate_cons_cons, String.toList_append,
      String.toList_append, List.append_assoc]⟩

theorem toList_intercalate_cons_cons (line next : String) (more : List String) :
    (String.intercalate "\n" (line :: next :: more)).toList =
      line.toList ++ '\n' :: (String.intercalate "\n" (next :: more)).toList := by
  rw [String.intercalate_cons_cons, String.toList_append, String.toList_append, List.append_assoc]
  rfl

/-- **What the reader finds at a declaration line**: the type that it declares, in the package that
the lines before it have set. The name ends where the word does, whatever stands there. -/
theorem readLines_opens {front : List Char} {kind : Kind} {simple : List Char}
    (ho : Opens front kind simple) {header : String} {c : Char} {tail : List Char}
    (hc : isWord c = false) (hheader : header.toList = front ++ c :: tail)
    (package : Option (List Char)) (more : List String) :
    readLines package ((lines (String.intercalate "\n" (header :: more)).toList).map trim) =
      some ⟨kind, qualify (package.map String.ofList) (String.ofList simple)⟩ := by
  obtain ⟨text, htext⟩ := toList_intercalate_cons header more
  rw [htext, hheader, List.append_assoc]
  obtain ⟨rest, others, hrest, hlines⟩ := exists_trimmed_lines_append ho.newline ho.ne_nil ho.head
    ho.last (c :: tail ++ text)
  -- what is left of the line after the simple name begins with that character, if there is any
  have hword : ∀ x ∈ rest.head?, isWord x = false := by
    intro x hx
    cases rest with
    | nil => simp at hx
    | cons b rest =>
      obtain ⟨rfl, -⟩ := List.cons_prefix_cons.mp hrest
      cases hx
      exact hc
  rw [hlines, readLines, ho.package, ho.declaration rest hword]

section PackageLine

variable {package terminator : String}

/-- The package line of a stub sets the package, whatever it ends with that could not belong to
it. -/
theorem packageLine_append (hp : IsRun isPackageChar package)
    (ht : ∀ c ∈ terminator.toList, isPackageChar c = false) :
    packageLine ("package " ++ package ++ terminator).toList = some package.toList := by
  have hafter : afterWord "package".toList ("package " ++ package ++ terminator).toList =
      some (package.toList ++ terminator.toList) := by
    have hword := afterWord_append "package".toList hp.toList_ne_nil
      (fun c hc => isBlank_of_isPackageChar (hp.2 c hc)) terminator.toList
    simpa using hword
  rw [packageLine, hafter, Option.bind_some]
  exact leadingRun_append hp.toList_ne_nil hp.2 fun c hc => ht c (List.mem_of_mem_head? hc)

/-- The package line of a stub is a line of its own, without blanks at its ends. -/
theorem packageText_trimmed (hp : IsRun isPackageChar package)
    (ht : ∀ c ∈ terminator.toList, isBlank c = false) :
    '\n' ∉ ("package " ++ package ++ terminator).toList ∧
      trim ("package " ++ package ++ terminator).toList =
        ("package " ++ package ++ terminator).toList := by
  have hb : ∀ c ∈ package.toList ++ terminator.toList, isBlank c = false := by
    intro c hc
    rcases List.mem_append.mp hc with hc | hc
    · exact isBlank_of_isPackageChar (hp.2 c hc)
    · exact ht c hc
  have htext : ("package " ++ package ++ terminator).toList =
      "package ".toList ++ (package.toList ++ terminator.toList) := by simp
  rw [htext]
  refine ⟨?_, trim_eq_self ?_ fun c hc => ?_⟩
  · rw [List.mem_append, not_or]
    exact ⟨by decide, newline_notMem_of_isBlank hb⟩
  · simp
    decide
  · rw [List.getLast?_append_of_ne_nil _ (by simp [hp.toList_ne_nil])] at hc
    exact hb c (List.mem_of_getLast? hc)

end PackageLine

/-- **What the reader finds in a stub.** The lines of a stub are the lines of its package, a line
that opens with the declaration of a simple name, and more. -/
theorem readTypeInfo_lines {name terminator header : String} {kind : Kind}
    {front simple tail : List Char} {c : Char} (ho : Opens front kind simple)
    (hc : isWord c = false) (hheader : header.toList = front ++ c :: tail)
    (hp : ∀ package ∈ packageOf name, IsRun isPackageChar package)
    (ht : ∀ c ∈ terminator.toList, isPackageChar c = false ∧ isBlank c = false)
    (more : List String) :
    readTypeInfo (String.intercalate "\n" (packageLines terminator name ++ header :: more)) =
      some ⟨kind, qualify (packageOf name) (String.ofList simple)⟩ := by
  rw [packageLines]
  cases hname : packageOf name with
  | none =>
    rw [readTypeInfo, List.nil_append, readLines_opens ho hc hheader]
    rfl
  | some package =>
    have hrun := hp package hname
    obtain ⟨hnewline, htrim⟩ := packageText_trimmed hrun fun c hc => (ht c hc).2
    rw [readTypeInfo, List.cons_append, List.cons_append, List.nil_append,
      toList_intercalate_cons_cons, lines_append_newline hnewline, List.map_cons, trim_dropReturn,
      htrim, readLines, packageLine_append hrun fun c hc => (ht c hc).1,
      toList_intercalate_cons_cons]
    -- the empty line between the package and the declaration says nothing
    have hempty := lines_append_newline (l := []) (by simp)
      (String.intercalate "\n" (header :: more)).toList
    rw [String.toList_empty, hempty, List.map_cons]
    have hblank : trim (dropReturn []) = [] := by decide
    have hnone : packageLine [] = none := by decide
    simp only [hblank, readLines, hnone, declarationLine_nil]
    rw [readLines_opens ho hc hheader]
    simp

/-- A well-formed name is its simple name in its package. -/
theorem qualify_of_wellFormedName {name : String} (h : WellFormedName name) :
    (∀ package ∈ packageOf name, IsRun isPackageChar package) ∧
      IsRun isWord (simpleNameOf name) ∧ qualify (packageOf name) (simpleNameOf name) = name := by
  rcases h with hword | ⟨package, simple, rfl, hp, hs⟩
  · rw [packageOf_of_isRun hword, simpleNameOf_of_isRun hword]
    exact ⟨nofun, hword, rfl⟩
  · rw [packageOf_qualified hp.1 hs, simpleNameOf_qualified hs]
    exact ⟨fun p hmem => by cases hmem; exact hp, hs, rfl⟩

/-- **A stub reads back** with its whole name, if that is well-formed. -/
theorem readTypeInfo_stub {name terminator header : String} {kind : Kind} {tail : List Char}
    (front : List Char → List Char) (hname : WellFormedName name)
    (ht : ∀ c ∈ terminator.toList, isPackageChar c = false ∧ isBlank c = false)
    (hopens : ∀ s, s ≠ [] → (∀ c ∈ s, isWord c = true) → Opens (front s) kind s)
    (hheader : header.toList = front (simpleNameOf name).toList ++ ' ' :: tail)
    (more : List String) :
    readTypeInfo (String.intercalate "\n" (packageLines terminator name ++ header :: more)) =
      some ⟨kind, name⟩ := by
  obtain ⟨hp, hs, hqualify⟩ := qualify_of_wellFormedName hname
  rw [readTypeInfo_lines (hopens _ hs.toList_ne_nil hs.2) (by decide) hheader hp ht,
    String.ofList_toList, hqualify]

/-! ### What the reader can find -/

/-- What a declaration line declares is a word. -/
theorem isRun_of_declarationLine {line simple : List Char} {kind : Kind}
    (h : declarationLine line = some (kind, simple)) : IsRun isWord (String.ofList simple) := by
  obtain ⟨k, _, hk⟩ := List.exists_of_findSome?_eq_some h
  obtain ⟨word, hword, hpair⟩ := Option.map_eq_some_iff.mp hk
  obtain ⟨rest, _, hrun⟩ := Option.bind_eq_some_iff.mp hword
  cases hpair
  exact of_leadingRun hrun

/-- What a package line sets is a run of word characters and dots. -/
theorem isRun_of_packageLine {line package : List Char} (h : packageLine line = some package) :
    IsRun isPackageChar (String.ofList package) := by
  obtain ⟨rest, _, hrun⟩ := Option.bind_eq_some_iff.mp h
  exact of_leadingRun hrun

/-- **The names that the reader can find**: whatever text it reads, the name is well-formed. -/
theorem wellFormedName_of_readLines {package : Option (List Char)} {ls : List (List Char)}
    {info : TypeInfo} (hp : ∀ p ∈ package, IsRun isPackageChar (String.ofList p))
    (h : readLines package ls = some info) : WellFormedName info.name := by
  -- a later package line replaces the package, so the induction is for every package
  induction ls generalizing package with
  | nil => cases h
  | cons line rest ih =>
    rw [readLines] at h
    split at h
    · rename_i found hfound
      exact ih (fun p hmem => by cases hmem; exact isRun_of_packageLine hfound) h
    · split at h
      · rename_i kind simple hdecl
        cases h
        have hs := isRun_of_declarationLine hdecl
        cases package with
        | none => exact Or.inl hs
        | some p => exact Or.inr ⟨_, _, rfl, hp p rfl, hs⟩
      · exact ih hp h

theorem wellFormedName_of_readTypeInfo {source : String} {info : TypeInfo}
    (h : readTypeInfo source = some info) : WellFormedName info.name :=
  wellFormedName_of_readLines (fun _ hp => by cases hp) h

/-! ### Both stubs -/

/-- What follows the simple name on its line begins with a blank. -/
theorem exists_supertypeClause_eq {lead : String} (hlead : lead.toList.head? = some ' ')
    (d : Descriptor) : ∃ tail, (supertypeClause lead d ++ " \x7b").toList = ' ' :: tail := by
  rw [supertypeClause]
  cases d.supertype with
  | none => exact ⟨['\x7b'], by simp⟩
  | some supertype =>
    obtain ⟨tail, htail⟩ := List.head?_eq_some_iff.mp hlead
    exact ⟨tail ++ supertype.toList ++ [' ', '\x7b'], by simp [htail]⟩

/-- **What a Java stub is made of**: the lines of the package, a line that declares the simple name,
and more. -/
theorem exists_javaStub_eq (name : String) (d : Descriptor) : ∃ header tail more,
    header.toList = "public ".toList ++ (d.kind.keyword.toList ++ ' ' ::
      ((simpleNameOf name).toList ++ ' ' :: tail)) ∧
    javaStub name d = String.intercalate "\n" (packageLines ";" name ++ header :: more) := by
  obtain ⟨tail, htail⟩ := exists_supertypeClause_eq (by decide : " extends ".toList.head? = _) d
  refine ⟨javaHeader name d, tail, d.methods.map javaMethodLine ++ ["\x7d"], ?_, ?_⟩
  · rw [← htail]
    simp [javaHeader]
  · simp [javaStub, javaLines]

/-- **What a Kotlin stub is made of.** -/
theorem exists_kotlinStub_eq (name : String) (d : Descriptor) : ∃ header tail more,
    header.toList = d.kind.keyword.toList ++ ' ' :: ((simpleNameOf name).toList ++ ' ' :: tail) ∧
    kotlinStub name d = String.intercalate "\n" (packageLines "" name ++ header :: more) := by
  obtain ⟨tail, htail⟩ := exists_supertypeClause_eq (by decide : " : ".toList.head? = _) d
  refine ⟨kotlinHeader name d, tail,
    d.propertyList.map kotlinPropertyLine ++ d.methods.map kotlinMethodLine ++ ["\x7d"], ?_, ?_⟩
  · rw [← htail]
    simp [kotlinHeader]
  · simp [kotlinStub, kotlinLines]

theorem readTypeInfo_javaStub {name : String} (h : WellFormedName name) (d : Descriptor) :
    readTypeInfo (javaStub name d) = some ⟨d.kind, name⟩ := by
  obtain ⟨header, tail, more, hheader, hstub⟩ := exists_javaStub_eq name d
  rw [hstub]
  have hfront : header.toList = "public".toList ++ ' ' :: (d.kind.keyword.toList ++ ' ' ::
      (simpleNameOf name).toList) ++ ' ' :: tail := by simpa using hheader
  have hterminator : ∀ c ∈ ";".toList, isPackageChar c = false ∧ isBlank c = false := by
    intro c hc
    obtain rfl : c = ';' := by simpa using hc
    decide
  exact readTypeInfo_stub (fun s => "public".toList ++ ' ' :: (d.kind.keyword.toList ++ ' ' :: s)) h
    hterminator (fun s => opens_java d.kind) hfront more

theorem readTypeInfo_kotlinStub {name : String} (h : WellFormedName name) (d : Descriptor) :
    readTypeInfo (kotlinStub name d) = some ⟨d.kind, name⟩ := by
  obtain ⟨header, tail, more, hheader, hstub⟩ := exists_kotlinStub_eq name d
  rw [hstub]
  have hfront : header.toList =
      d.kind.keyword.toList ++ ' ' :: (simpleNameOf name).toList ++ ' ' :: tail := by
    simpa using hheader
  exact readTypeInfo_stub (fun s => d.kind.keyword.toList ++ ' ' :: s) h (by simp)
    (fun s => opens_kotlin d.kind) hfront more

/-- **A name is cut where it goes on with what is no part of a word**, such as the dollar sign of a
nested binary name: the reader finds what stands before. -/
theorem readTypeInfo_stub_cut {outer : String} {c : Char} {rest : List Char}
    (h : WellFormedName outer) (hc : isWord c = false) (hdot : '.' ∉ c :: rest) (d : Descriptor) :
    readTypeInfo (javaStub (outer ++ String.ofList (c :: rest)) d) = some ⟨d.kind, outer⟩ ∧
      readTypeInfo (kotlinStub (outer ++ String.ofList (c :: rest)) d) = some ⟨d.kind, outer⟩ := by
  obtain ⟨hp, hs, hqualify⟩ := qualify_of_wellFormedName h
  have hp' : ∀ package ∈ packageOf (outer ++ String.ofList (c :: rest)),
      IsRun isPackageChar package := by rwa [packageOf_append hdot]
  have hsimple : (simpleNameOf (outer ++ String.ofList (c :: rest))).toList =
      (simpleNameOf outer).toList ++ c :: rest := toList_simpleNameOf_append hdot
  have hname : qualify (packageOf (outer ++ String.ofList (c :: rest)))
      (String.ofList (simpleNameOf outer).toList) = outer := by
    rw [packageOf_append hdot, String.ofList_toList, hqualify]
  constructor
  · obtain ⟨header, tail, more, hheader, hstub⟩ :=
      exists_javaStub_eq (outer ++ String.ofList (c :: rest)) d
    have hfront : header.toList = "public".toList ++ ' ' :: (d.kind.keyword.toList ++ ' ' ::
        (simpleNameOf outer).toList) ++ c :: (rest ++ ' ' :: tail) := by
      rw [hheader, hsimple]
      simp
    rw [hstub, readTypeInfo_lines (opens_java d.kind hs.toList_ne_nil hs.2) hc hfront hp'
      (by simp; decide) more, hname]
  · obtain ⟨header, tail, more, hheader, hstub⟩ :=
      exists_kotlinStub_eq (outer ++ String.ofList (c :: rest)) d
    have hfront : header.toList = d.kind.keyword.toList ++ ' ' :: (simpleNameOf outer).toList ++
        c :: (rest ++ ' ' :: tail) := by
      rw [hheader, hsimple]
      simp
    rw [hstub, readTypeInfo_lines (opens_kotlin d.kind hs.toList_ne_nil hs.2) hc hfront hp'
      (by simp) more, hname]

/-- **A stub gives back the name that went into it exactly if the name is well-formed**, whatever
the shape of the type: its supertype and its members may be any texts, line ends included. -/
theorem readTypeInfo_stub_iff (name : String) (d : Descriptor) :
    (readTypeInfo (javaStub name d) = some ⟨d.kind, name⟩ ↔ WellFormedName name) ∧
      (readTypeInfo (kotlinStub name d) = some ⟨d.kind, name⟩ ↔ WellFormedName name) :=
  ⟨⟨wellFormedName_of_readTypeInfo, fun h => readTypeInfo_javaStub h d⟩,
    ⟨wellFormedName_of_readTypeInfo, fun h => readTypeInfo_kotlinStub h d⟩⟩

end TwinTypes
