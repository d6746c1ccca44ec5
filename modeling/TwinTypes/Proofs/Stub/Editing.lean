import Mathlib.Logic.Relation
import TwinTypes.Proofs.Stub.Patterns
import TwinTypes.Proofs.Text.LineEnds

/-!
# Stubs edited by hand

Of a text the reader of stubs sees its package lines and its first declaration line, and nothing
else. This file says so in two ways.

* What a text is read as can be told from its trimmed lines: none of them declares a type, or the
  first that does gives the kind and the simple name, and the last package line before it the
  package.
* What a text is read as stays the same under every edit that these lines do not see
  (`TwinTypes.StubEdit`), and under any number of them.

Both come from one fact about the reading of lines: lines that match neither pattern can be left out
(`readLines_filter`), as no line matches both. The one thing that is not about lines as such is how
a text is cut into them, and `readTypeInfo_eq` settles it once for all edits: the reader may as well
cut at the line feeds alone.
-/

namespace TwinTypes

open Text

/-! ### Reading lines -/

/-- Whether a line matches one of the two patterns. -/
def speaks (line : List Char) : Bool :=
  (packageLine line).isSome || (declarationLine line).isSome

/-- **A line that says nothing**: it matches neither pattern. -/
def Silent (line : List Char) : Prop :=
  (∀ package, ¬SetsPackage line package) ∧ ∀ kind simple, ¬Declares line kind simple

/-- The package that is set after some lines, given the one that was set before them. -/
def packageAfter (package : Option (List Char)) (ls : List (List Char)) : Option (List Char) :=
  ls.foldl (fun p line => (packageLine line).or p) package

section Reading

variable {line simple : List Char} {kind : Kind} {package : Option (List Char)}
  {ls before after : List (List Char)}

theorem packageLine_eq_none_iff :
    packageLine line = none ↔ ∀ package, ¬SetsPackage line package := by
  rw [Option.eq_none_iff_forall_ne_some]
  exact forall_congr' fun package => not_congr packageLine_eq_some_iff

theorem declarationLine_eq_none_iff :
    declarationLine line = none ↔ ∀ kind simple, ¬Declares line kind simple := by
  rw [Option.eq_none_iff_forall_ne_some]
  constructor
  · intro h kind simple hdeclares
    exact h (kind, simple) (declarationLine_eq_some_iff.mpr hdeclares)
  · rintro h ⟨kind, simple⟩ heq
    exact h kind simple (declarationLine_eq_some_iff.mp heq)

theorem speaks_eq_false_iff : speaks line = false ↔ Silent line := by
  rw [speaks, Bool.or_eq_false_iff, Option.isSome_eq_false_iff, Option.isSome_eq_false_iff,
    Option.isNone_iff_eq_none, Option.isNone_iff_eq_none, packageLine_eq_none_iff,
    declarationLine_eq_none_iff, Silent]

theorem Declares.packageLine_eq_none (h : Declares line kind simple) : packageLine line = none :=
  packageLine_eq_none_iff.mpr fun _ hpackage => hpackage.not_declares kind simple h

/-- A line that declares a type ends the reading. -/
theorem readLines_declares (h : Declares line kind simple) (package : Option (List Char))
    (rest : List (List Char)) : readLines package (line :: rest) =
      some ⟨kind, qualify (package.map String.ofList) (String.ofList simple)⟩ := by
  rw [readLines, h.packageLine_eq_none, declarationLine_eq_some_iff.mpr h]

/-- Any other line may set the package, and the reading goes on. -/
theorem readLines_cons (h : ∀ kind simple, ¬Declares line kind simple)
    (package : Option (List Char)) (rest : List (List Char)) :
    readLines package (line :: rest) = readLines ((packageLine line).or package) rest := by
  rw [readLines, declarationLine_eq_none_iff.mpr h]
  cases packageLine line <;> rfl

/-- **Lines that say nothing can be left out.** -/
theorem readLines_filter (package : Option (List Char)) (ls : List (List Char)) :
    readLines package (ls.filter speaks) = readLines package ls := by
  induction ls generalizing package with
  | nil => rfl
  | cons line rest ih =>
    by_cases hdeclares : ∃ kind simple, Declares line kind simple
    · obtain ⟨kind, simple, hdeclares⟩ := hdeclares
      have hspeaks : speaks line = true := by
        simp [speaks, declarationLine_eq_some_iff.mpr hdeclares]
      rw [List.filter_cons_of_pos hspeaks, readLines_declares hdeclares,
        readLines_declares hdeclares]
    · have hnot : ∀ kind simple, ¬Declares line kind simple := fun kind simple h =>
        hdeclares ⟨kind, simple, h⟩
      rw [readLines_cons hnot]
      cases hspeaks : speaks line with
      | true => rw [List.filter_cons_of_pos hspeaks, readLines_cons hnot, ih]
      | false =>
        have hsilent := speaks_eq_false_iff.mp hspeaks
        rw [List.filter_cons_of_neg (by simp [hspeaks]), ih,
          packageLine_eq_none_iff.mpr hsilent.1, Option.none_or]

/-- So one more of them makes no difference. -/
theorem readLines_silent (h : Silent line) :
    readLines package (before ++ line :: after) = readLines package (before ++ after) := by
  rw [← readLines_filter, List.filter_append,
    List.filter_cons_of_neg (by simp [speaks_eq_false_iff.mpr h]), ← List.filter_append,
    readLines_filter]

/-- **What stands after a declaration is not read.** -/
theorem readLines_after (h : Declares line kind simple) (after' : List (List Char)) :
    readLines package (before ++ line :: after) = readLines package (before ++ line :: after') := by
  induction before generalizing package with
  | nil => rw [List.nil_append, List.nil_append, readLines_declares h, readLines_declares h]
  | cons first before ih =>
    rw [List.cons_append, List.cons_append, readLines, readLines]
    split
    · exact ih
    · split
      · rfl
      · exact ih

/-- **The reading of lines up to the first declaration.** -/
theorem readLines_append (hbefore : ∀ l ∈ before, ∀ kind simple, ¬Declares l kind simple) :
    readLines package (before ++ after) = readLines (packageAfter package before) after := by
  induction before generalizing package with
  | nil => rfl
  | cons first before ih =>
    rw [List.cons_append, readLines_cons (hbefore first List.mem_cons_self),
      ih fun l hl => hbefore l (List.mem_cons_of_mem _ hl), packageAfter, packageAfter,
      List.foldl_cons]

theorem readLines_eq_none_iff :
    readLines package ls = none ↔ ∀ l ∈ ls, ∀ kind simple, ¬Declares l kind simple := by
  induction ls generalizing package with
  | nil => simp [readLines]
  | cons line rest ih =>
    rw [List.forall_mem_cons]
    constructor
    · intro h
      have hnot : ∀ kind simple, ¬Declares line kind simple := by
        intro kind simple hdeclares
        rw [readLines_declares hdeclares] at h
        cases h
      rw [readLines_cons hnot] at h
      exact ⟨hnot, ih.mp h⟩
    · rintro ⟨hnot, hrest⟩
      rw [readLines_cons hnot]
      exact ih.mpr hrest

theorem packageAfter_of_forall (h : ∀ l ∈ ls, ∀ package, ¬SetsPackage l package) :
    packageAfter package ls = package := by
  induction ls generalizing package with
  | nil => rfl
  | cons line rest ih =>
    rw [packageAfter, List.foldl_cons, packageLine_eq_none_iff.mpr (h line List.mem_cons_self),
      Option.none_or]
    exact ih fun l hl => h l (List.mem_cons_of_mem _ hl)

/-- **The last package line** sets the package. -/
theorem packageAfter_last {name : List Char} (hline : SetsPackage line name)
    (hafter : ∀ l ∈ after, ∀ package, ¬SetsPackage l package) :
    packageAfter package (before ++ line :: after) = some name := by
  rw [packageAfter, List.foldl_append, List.foldl_cons, packageLine_eq_some_iff.mpr hline,
    Option.some_or]
  exact packageAfter_of_forall hafter

end Reading

/-! ### Texts of lines -/

/-- **The text of some lines.** -/
def textOf (ls : List String) : String :=
  String.intercalate "\n" ls

/-- The text of some lines is cut where these are, and between them. -/
theorem splitOn_textOf {ls : List String} (hne : ls ≠ []) :
    (textOf ls).toList.splitOn '\n' = ls.flatMap fun l => l.toList.splitOn '\n' := by
  induction ls with
  | nil => exact absurd rfl hne
  | cons l more ih =>
    cases more with
    | nil => simp [textOf]
    | cons next more =>
      rw [textOf, toList_intercalate_cons_cons, List.splitOn_append_cons_self, List.flatMap_cons,
        ← ih (List.cons_ne_nil _ _), textOf]

theorem silent_nil : Silent [] := by
  rw [← speaks_eq_false_iff, speaks, declarationLine_nil]
  decide

/-- **What the reader sees of a text**: its lines, cut at the line feeds alone. -/
theorem readTypeInfo_eq (source : String) :
    readTypeInfo source = readLines none ((source.toList.splitOn '\n').map trim) := by
  rcases splitOn_map_trim source.toList with h | h
  · rw [h]
    rfl
  · rw [h, readLines_silent silent_nil, List.append_nil]
    rfl

/-- The lines that the reader sees in the text of some lines. -/
theorem readTypeInfo_textOf (ls : List String) : readTypeInfo (textOf ls) =
    readLines none ((ls.flatMap fun l => l.toList.splitOn '\n').map trim) := by
  by_cases hne : ls = []
  -- the text of no lines is one empty line
  · subst hne
    have hsplit : ((textOf []).toList.splitOn '\n').map trim = [] ++ [] :: [] := by decide
    rw [readTypeInfo_eq, hsplit, readLines_silent silent_nil]
    rfl
  · rw [readTypeInfo_eq, splitOn_textOf hne]

/-! ### Edits -/

/-- Blanks that end no line. -/
def Blank (s : String) : Prop :=
  ∀ c ∈ s.toList, isBlank c = true ∧ c ≠ '\n'

instance (s : String) : Decidable (Blank s) :=
  List.decidableBAll _ s.toList

/-- **An edit of a stub** that its package lines and its first declaration line do not notice. -/
inductive StubEdit : String → String → Prop
  /-- Every line feed becomes a carriage return and a line feed. -/
  | returns (source : String) : StubEdit source (withReturns source)
  /-- Blanks are added at the start and at the end of a line, before or after the blanks that stand
  there, such as a carriage return. -/
  | blanks (before after : List String) {front line back ending : String}
      (hline : '\n' ∉ line.toList) (hfront : Blank front) (hback : Blank back)
      (hending : Blank ending) :
      StubEdit (textOf (before ++ (line ++ ending) :: after))
        (textOf (before ++ (front ++ line ++ back ++ ending) :: after))
  /-- A line is inserted that says nothing. -/
  | insert (before after : List String) {line : String} (hline : '\n' ∉ line.toList)
      (hsilent : Silent (trim line.toList)) :
      StubEdit (textOf (before ++ after)) (textOf (before ++ line :: after))
  /-- The lines after a declaration are exchanged for others. -/
  | rest (before after after' : List String) {line : String} {kind : Kind} {simple : List Char}
      (hline : '\n' ∉ line.toList) (hdeclares : Declares (trim line.toList) kind simple) :
      StubEdit (textOf (before ++ line :: after)) (textOf (before ++ line :: after'))

theorem Blank.newline_notMem {s : String} (h : Blank s) : '\n' ∉ s.toList :=
  fun hn => (h '\n' hn).2 rfl

theorem trim_blanks {front line back ending : String} (hfront : Blank front) (hback : Blank back)
    (hending : Blank ending) :
    trim (front ++ line ++ back ++ ending).toList = trim (line ++ ending).toList := by
  simp only [String.toList_append]
  rw [trim_append_blanks fun c hc => (hending c hc).1,
    trim_append_blanks fun c hc => (hback c hc).1,
    trim_blanks_append fun c hc => (hfront c hc).1,
    trim_append_blanks fun c hc => (hending c hc).1]

/-- **No edit changes what a stub is read as.** -/
theorem StubEdit.readTypeInfo_eq {source source' : String} (h : StubEdit source source') :
    readTypeInfo source' = readTypeInfo source := by
  cases h with
  | returns source =>
    rw [TwinTypes.readTypeInfo_eq, splitOn_withReturns_map_trim, TwinTypes.readTypeInfo_eq]
  | @blanks before after front line back ending hline hfront hback hending =>
    have hold : '\n' ∉ (line ++ ending).toList := by
      simp [hline, hending.newline_notMem]
    have hnew : '\n' ∉ (front ++ line ++ back ++ ending).toList := by
      simp [hline, hfront.newline_notMem, hback.newline_notMem, hending.newline_notMem]
    rw [readTypeInfo_textOf, readTypeInfo_textOf]
    simp only [List.flatMap_append, List.flatMap_cons, List.splitOn_eq_singleton hold,
      List.splitOn_eq_singleton hnew, List.map_append, List.map_cons, List.map_nil,
      trim_blanks hfront hback hending]
  | @insert before after line hline hsilent =>
    rw [readTypeInfo_textOf, readTypeInfo_textOf]
    simp only [List.flatMap_append, List.flatMap_cons, List.splitOn_eq_singleton hline,
      List.singleton_append, List.map_append, List.map_cons]
    exact readLines_silent hsilent
  | @rest before after after' line kind simple hline hdeclares =>
    rw [readTypeInfo_textOf, readTypeInfo_textOf]
    simp only [List.flatMap_append, List.flatMap_cons, List.splitOn_eq_singleton hline,
      List.singleton_append, List.map_append, List.map_cons]
    exact readLines_after hdeclares _

/-- **The reader of stubs sees package lines and the first declaration line**, and these by their
patterns alone. Edits that they do not notice change nothing, in any number. A text in which no line
declares a type is read as none; of any other the first such line gives the kind and the simple
name, and the last package line before it, if there is one, the package. -/
theorem readTypeInfo_sees :
    (∀ source source', Relation.ReflTransGen StubEdit source source' →
      readTypeInfo source' = readTypeInfo source) ∧
    ∀ source : String,
      (readTypeInfo source = none ↔
        ∀ l ∈ trimmedLines source.toList, ∀ kind simple, ¬Declares l kind simple) ∧
      ∀ before line after kind simple,
        trimmedLines source.toList = before ++ line :: after →
        (∀ l ∈ before, ∀ kind simple, ¬Declares l kind simple) → Declares line kind simple →
        ((∀ l ∈ before, ∀ package, ¬SetsPackage l package) →
          readTypeInfo source = some ⟨kind, String.ofList simple⟩) ∧
        ∀ earlier l later package, before = earlier ++ l :: later → SetsPackage l package →
          (∀ l ∈ later, ∀ package, ¬SetsPackage l package) →
          readTypeInfo source =
            some ⟨kind, String.ofList package ++ "." ++ String.ofList simple⟩ := by
  constructor
  · intro source source' h
    induction h with
    | refl => rfl
    | tail _ hedit ih => rw [hedit.readTypeInfo_eq, ih]
  · intro source
    refine ⟨readLines_eq_none_iff, fun before line after kind simple hlines hbefore hline => ?_⟩
    have hread : readTypeInfo source = some ⟨kind,
        qualify ((packageAfter none before).map String.ofList) (String.ofList simple)⟩ := by
      have hlines' : (lines source.toList).map trim = before ++ line :: after := hlines
      rw [readTypeInfo, hlines', readLines_append hbefore, readLines_declares hline]
    refine ⟨fun hnone => ?_, fun earlier l later package hsplit hset hlater => ?_⟩
    · rw [hread, packageAfter_of_forall hnone]
      rfl
    · rw [hread, hsplit, packageAfter_last hset hlater]
      rfl

/-- A stub. -/
def plainStub : List String :=
  ["package a.b;", "public final class K \x7b", "\x7d"]

/-- The same stub with a note in it, an indented declaration, members and the other line ends. -/
def editedStub : String :=
  withReturns (textOf ["package a.b;", "// class X", "\tpublic final class K \x7b\u2003",
    "package c;", "interface L"])

/-- The edited stub is read as the plain one, by its package line and its declaration. -/
theorem readTypeInfo_sees_edited :
    Relation.ReflTransGen StubEdit (textOf plainStub) editedStub ∧
      readTypeInfo editedStub = readTypeInfo (textOf plainStub) ∧
      readTypeInfo (textOf plainStub) = some ⟨.classKind, "a.b.K"⟩ := by
  have hsilent : Silent (trim "// class X".toList) := speaks_eq_false_iff.mp (by decide +kernel)
  have hdeclares : Declares "public final class K \x7b".toList .classKind "K".toList :=
    declarationLine_eq_some_iff.mp (by decide +kernel)
  have hnote : StubEdit (textOf plainStub) (textOf ["package a.b;", "// class X",
      "public final class K \x7b", "\x7d"]) :=
    .insert ["package a.b;"] ["public final class K \x7b", "\x7d"] (by decide) hsilent
  have hindent : StubEdit
      (textOf ["package a.b;", "// class X", "public final class K \x7b", "\x7d"])
      (textOf ["package a.b;", "// class X", "\tpublic final class K \x7b\u2003", "\x7d"]) :=
    @StubEdit.blanks ["package a.b;", "// class X"] ["\x7d"] "\t" "public final class K \x7b"
      "\u2003" "" (by decide) (by decide) (by decide) (by decide)
  have hrest : StubEdit (textOf ["package a.b;", "// class X",
      "\tpublic final class K \x7b\u2003", "\x7d"]) (textOf ["package a.b;", "// class X",
      "\tpublic final class K \x7b\u2003", "package c;", "interface L"]) :=
    .rest ["package a.b;", "// class X"] ["\x7d"] ["package c;", "interface L"] (by decide)
      hdeclares
  have hedits : Relation.ReflTransGen StubEdit (textOf plainStub) editedStub :=
    .tail (.tail (.tail (.single hnote) hindent) hrest) (.returns _)
  obtain ⟨hedited, hplain⟩ := readTypeInfo_sees
  refine ⟨hedits, hedited _ _ hedits, ?_⟩
  obtain ⟨-, hread⟩ := hplain (textOf plainStub)
  have hlines : trimmedLines (textOf plainStub).toList = ["package a.b;".toList] ++
      "public final class K \x7b".toList :: ["\x7d".toList] := by decide +kernel
  have hpackage : SetsPackage "package a.b;".toList "a.b".toList :=
    packageLine_eq_some_iff.mp (by decide +kernel)
  have hbefore : ∀ l ∈ ["package a.b;".toList], ∀ kind simple, ¬Declares l kind simple := by
    intro l hl kind simple
    rw [List.mem_singleton.mp hl]
    exact hpackage.not_declares kind simple
  exact (hread _ _ _ _ _ hlines hbefore hdeclares).2 [] _ [] _ rfl hpackage (by simp)

end TwinTypes
