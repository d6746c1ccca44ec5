import Mathlib.Data.List.Infix
import Mathlib.Data.List.TakeWhile
import TwinTypes.Text.Class
import TwinTypes.Text.Lines

/-!
# Lines and blanks

What the stub reader sees of a text whose beginning is known. Two facts carry everything:

* a line that ends with a line feed is cut off as it stands (`lines_append_newline`), and the
  carriage return that `dropReturn` may take from it is a blank, so trimming does not notice
  (`trim_dropReturn`);
* a line whose beginning shows on both sides – its first and its last character are no blanks –
  keeps that beginning when it is trimmed, whatever follows it (`exists_trim_append`).

Blanks and word characters are apart (`isWord_of_isBlank`), which is what makes the end of a word
visible to a reader of blanks.
-/

namespace TwinTypes.Text

/-! ### Blanks and word characters -/

/-- Every code point of a table, one by one. -/
def codePoints (ranges : List (Nat × Nat)) : List Nat :=
  ranges.flatMap fun r => List.range' r.1 (r.2 + 1 - r.1)

theorem mem_codePoints {ranges : List (Nat × Nat)} {n : Nat} (h : inRanges ranges n = true) :
    n ∈ codePoints ranges := by
  obtain ⟨r, hr, hn⟩ := List.any_eq_true.mp h
  simp only [Bool.and_eq_true, decide_eq_true_eq] at hn
  refine List.mem_flatMap.mpr ⟨r, hr, List.mem_range'_1.mpr ?_⟩
  omega

/-- None of the 25 blanks is a character of a word. -/
theorem isWord_of_mem_whiteSpace :
    ∀ n ∈ codePoints Property.whiteSpace, isWord (Char.ofNat n) = false := by
  decide +kernel

/-- **Blanks and word characters are apart.** -/
theorem isWord_of_isBlank {c : Char} (h : isBlank c = true) : isWord c = false := by
  have hc := isWord_of_mem_whiteSpace c.toNat (mem_codePoints h)
  rwa [Char.ofNat_toNat] at hc

theorem isBlank_of_isWord {c : Char} (h : isWord c = true) : isBlank c = false := by
  cases hb : isBlank c with
  | false => rfl
  | true => simp [isWord_of_isBlank hb] at h

/-! ### Cutting off a line -/

/-- A text that holds no line feed is a line of its own. -/
theorem splitLine_append_newline {l rest : List Char} (h : '\n' ∉ l) :
    splitLine (l ++ '\n' :: rest) = (l, some rest) := by
  induction l with
  | nil => simp [splitLine]
  | cons c l ih =>
    have hc : c ≠ '\n' := fun hc => h (by simp [hc])
    have hl : '\n' ∉ l := fun hl => h (by simp [hl])
    simp [splitLine, hc, ih hl]

/-- The text up to the first line feed goes on from a beginning without one. -/
theorem splitLine_append {l cs : List Char} (h : '\n' ∉ l) :
    splitLine (l ++ cs) = (l ++ (splitLine cs).1, (splitLine cs).2) := by
  induction l with
  | nil => simp
  | cons c l ih =>
    have hc : c ≠ '\n' := fun hc => h (by simp [hc])
    have hl : '\n' ∉ l := fun hl => h (by simp [hl])
    simp [splitLine, hc, ih hl]

/-- The text up to the first line feed is a beginning of the text. -/
theorem isPrefix_splitLine (cs : List Char) : (splitLine cs).1 <+: cs := by
  induction cs with
  | nil => simp [splitLine]
  | cons c cs ih =>
    unfold splitLine
    split
    · simp
    · exact (List.cons_prefix_cons).mpr ⟨rfl, ih⟩

theorem lines_append_newline {l : List Char} (h : '\n' ∉ l) (rest : List Char) :
    lines (l ++ '\n' :: rest) = dropReturn l :: lines rest := by
  rw [lines]
  split
  · rename_i heq
    simp [splitLine_append_newline h] at heq
  · rename_i line more heq
    rw [splitLine_append_newline h] at heq
    cases heq
    rfl

/-! ### Trimming -/

theorem dropBlanks_eq_self {cs : List Char} (h : ∀ c ∈ cs.head?, isBlank c = false) :
    dropBlanks cs = cs := by
  cases cs with
  | nil => rfl
  | cons c cs => exact List.dropWhile_cons_of_neg (by simpa using h c)

/-- A text without blanks at either end is as it is when trimmed. -/
theorem trim_eq_self {cs : List Char} (hhead : ∀ c ∈ cs.head?, isBlank c = false)
    (hlast : ∀ c ∈ cs.getLast?, isBlank c = false) : trim cs = cs := by
  have hr : dropBlanks cs.reverse = cs.reverse :=
    dropBlanks_eq_self (by rw [List.head?_reverse]; exact hlast)
  rw [trim, dropBlanks_eq_self hhead, hr, List.reverse_reverse]

/-- Blanks at the end of a text do not show once it is trimmed. -/
theorem trim_append_blank {cs : List Char} {c : Char} (h : isBlank c = true) :
    trim (cs ++ [c]) = trim cs := by
  have hd : dropBlanks (cs ++ [c]) =
      if (dropBlanks cs).isEmpty then [] else dropBlanks cs ++ [c] := by
    rw [dropBlanks, List.dropWhile_append]
    simp [dropBlanks, h]
  unfold trim
  rw [hd]
  split
  · rename_i he
    rw [List.isEmpty_iff.mp he]
  · have hb : dropBlanks (c :: (dropBlanks cs).reverse) = dropBlanks (dropBlanks cs).reverse :=
      List.dropWhile_cons_of_pos h
    rw [List.reverse_append, List.reverse_singleton, List.singleton_append, hb]

/-- What is left once the blanks in front are gone begins with none. -/
theorem isBlank_head?_dropBlanks (cs : List Char) :
    ∀ c ∈ (dropBlanks cs).head?, isBlank c = false := by
  intro c hc
  have hfirst := List.head?_dropWhile_not isBlank cs
  rw [show (cs.dropWhile isBlank).head? = some c from hc] at hfirst
  exact hfirst

/-- What is left once the blanks at the end are gone is a beginning. -/
theorem isPrefix_dropBlanks_reverse (cs : List Char) : (dropBlanks cs.reverse).reverse <+: cs := by
  have hs : dropBlanks cs.reverse <:+ cs.reverse := List.dropWhile_suffix _
  simpa using List.reverse_prefix.mpr hs

/-- Only of a text of blanks nothing is left. -/
theorem trim_eq_nil_iff {cs : List Char} : trim cs = [] ↔ ∀ c ∈ cs, isBlank c = true := by
  rw [trim, List.reverse_eq_nil_iff, dropBlanks, List.dropWhile_eq_nil_iff]
  simp only [List.mem_reverse]
  constructor
  · intro h
    rw [← List.dropWhile_eq_nil_iff]
    cases hd : dropBlanks cs with
    | nil => exact hd
    | cons c rest =>
      have hfirst := isBlank_head?_dropBlanks cs c (by rw [hd]; rfl)
      rw [h c (by rw [hd]; exact List.mem_cons_self)] at hfirst
      cases hfirst
  · intro h c hc
    exact h c ((List.dropWhile_suffix isBlank).subset hc)

/-- **A trimmed text has no blanks at either end**, so it is as it is when trimmed again. -/
theorem trim_trim (cs : List Char) : trim (trim cs) = trim cs := by
  refine trim_eq_self (fun c hc => ?_) fun c hc => ?_
  · obtain ⟨rest, hrest⟩ : trim cs <+: dropBlanks cs := isPrefix_dropBlanks_reverse _
    refine isBlank_head?_dropBlanks cs c ?_
    rw [← hrest, List.head?_append, hc]
    rfl
  · rw [trim, List.getLast?_reverse] at hc
    exact isBlank_head?_dropBlanks _ c hc

/-- A change of characters that keeps blanks and the others apart goes through trimming. -/
theorem trim_map {f : Char → Char} (h : ∀ c, isBlank (f c) = isBlank c) (cs : List Char) :
    trim (cs.map f) = (trim cs).map f := by
  have hdrop : ∀ ds : List Char, dropBlanks (ds.map f) = (dropBlanks ds).map f := fun ds => by
    rw [dropBlanks, List.dropWhile_map, show isBlank ∘ f = isBlank from funext h]
    rfl
  rw [trim, hdrop, ← List.map_reverse, hdrop, ← List.map_reverse, trim]

/-- The carriage return of a line end is a blank. -/
theorem trim_dropReturn (l : List Char) : trim (dropReturn l) = trim l := by
  unfold dropReturn
  split
  · rename_i h
    obtain ⟨ys, rfl⟩ := List.getLast?_eq_some_iff.mp h
    rw [List.dropLast_concat, trim_append_blank (by decide)]
  · rfl

/-- **A beginning that shows on both sides survives trimming**, whatever follows it. -/
theorem exists_trim_append {l : List Char} (hne : l ≠ []) (hhead : ∀ c ∈ l.head?, isBlank c = false)
    (hlast : ∀ c ∈ l.getLast?, isBlank c = false) (cs : List Char) :
    ∃ rest, rest <+: cs ∧ trim (l ++ cs) = l ++ rest := by
  have hfront : dropBlanks (l ++ cs) = l ++ cs :=
    dropBlanks_eq_self (by rwa [List.head?_append_of_ne_nil l hne])
  have hback : dropBlanks (l ++ cs).reverse = dropBlanks cs.reverse ++ l.reverse := by
    rw [List.reverse_append, dropBlanks, List.dropWhile_append]
    split
    · rename_i he
      have hl : dropBlanks l.reverse = l.reverse :=
        dropBlanks_eq_self (by rwa [List.head?_reverse])
      rw [dropBlanks, List.isEmpty_iff.mp he, List.nil_append]
      exact hl
    · rfl
  refine ⟨(dropBlanks cs.reverse).reverse, isPrefix_dropBlanks_reverse cs, ?_⟩
  rw [trim, hfront, hback, List.reverse_append, List.reverse_reverse]

/-! ### The first line -/

/-- The first line of a text that begins without a line feed, up to the carriage return of its
end. -/
theorem exists_lines_append {l : List Char} (h : '\n' ∉ l) (hne : l ≠ []) (cs : List Char) :
    ∃ line more, lines (l ++ cs) = line :: more ∧ trim line = trim (l ++ (splitLine cs).1) := by
  rw [lines]
  split
  · rename_i line heq
    rw [splitLine_append h, Prod.mk.injEq] at heq
    obtain ⟨rfl, -⟩ := heq
    exact ⟨l ++ (splitLine cs).1, [], by simp [hne], rfl⟩
  · rename_i line rest heq
    rw [splitLine_append h, Prod.mk.injEq] at heq
    obtain ⟨rfl, -⟩ := heq
    exact ⟨_, lines rest, rfl, trim_dropReturn _⟩

/-- **The first line of a text whose beginning is known**, as a reader of trimmed lines sees it:
the beginning, and some of what follows it. -/
theorem exists_trimmed_lines_append {l : List Char} (h : '\n' ∉ l) (hne : l ≠ [])
    (hhead : ∀ c ∈ l.head?, isBlank c = false) (hlast : ∀ c ∈ l.getLast?, isBlank c = false)
    (cs : List Char) :
    ∃ rest more, rest <+: cs ∧ (lines (l ++ cs)).map trim = (l ++ rest) :: more := by
  obtain ⟨line, more, hlines, htrim⟩ := exists_lines_append h hne cs
  obtain ⟨rest, hrest, htrim'⟩ := exists_trim_append hne hhead hlast (splitLine cs).1
  refine ⟨rest, more.map trim, hrest.trans (isPrefix_splitLine cs), ?_⟩
  rw [hlines, List.map_cons, htrim, htrim']

end TwinTypes.Text
