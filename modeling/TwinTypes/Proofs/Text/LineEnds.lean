import Mathlib.Data.List.Basic
import TwinTypes.Proofs.Text.Trimming

/-!
# Line ends

A text is cut into lines in two ways: `lines` knows of carriage returns and of the line feed at the
very end, and `List.splitOn` knows of line feeds only, which makes it the easier one to compute with
where texts are put together. To a reader of trimmed lines they are almost the same
(`splitOn_map_trim`): a carriage return is trimmed away, and what follows the last line feed is an
empty line or none at all.

A text is either a line or goes on with a line feed after one, and everything here is by induction
along that (`line_induction`).
-/

namespace TwinTypes.Text

/-- **Line by line**: what holds of a single line, and of a line before a text of which it holds,
holds of every text. -/
theorem line_induction {P : List Char → Prop} (last : ∀ l, '\n' ∉ l → P l)
    (step : ∀ l rest, '\n' ∉ l → P rest → P (l ++ '\n' :: rest)) (cs : List Char) : P cs := by
  -- by its length, since what follows a line is shorter than the whole
  induction hn : cs.length using Nat.strong_induction_on generalizing cs with
  | _ n ih =>
    by_cases h : '\n' ∈ cs
    · obtain ⟨l, rest, rfl, hl⟩ := List.eq_append_cons_of_mem h
      exact step l rest hl (ih rest.length (by simp at hn; omega) rest rfl)
    · exact last cs h

/-- The lines of a text, trimmed. -/
def trimmedLines (cs : List Char) : List (List Char) :=
  (lines cs).map trim

section Cutting

variable {l rest cs : List Char}

theorem lines_of_newline_notMem (h : '\n' ∉ l) : lines l = if l.isEmpty then [] else [l] := by
  have hsplit : splitLine l = (l, none) := by
    have happend : splitLine (l ++ []) = (l ++ (splitLine []).1, (splitLine []).2) :=
      splitLine_append h
    simpa [splitLine] using happend
  rw [lines]
  split
  · rename_i line heq
    rw [hsplit] at heq
    cases heq
    rfl
  · rename_i heq
    rw [hsplit] at heq
    cases heq

theorem trimmedLines_append_newline (h : '\n' ∉ l) :
    trimmedLines (l ++ '\n' :: rest) = trim l :: trimmedLines rest := by
  rw [trimmedLines, lines_append_newline h, List.map_cons, trim_dropReturn, trimmedLines]

theorem splitOn_append_newline (h : '\n' ∉ l) :
    (l ++ '\n' :: rest).splitOn '\n' = l :: rest.splitOn '\n' := by
  rw [List.splitOn_append_cons_self, List.splitOn_eq_singleton h, List.singleton_append]

/-- **Cut at its line feeds**, a text has its trimmed lines, and perhaps an empty one after them. -/
theorem splitOn_map_trim (cs : List Char) :
    (cs.splitOn '\n').map trim = trimmedLines cs ∨
      (cs.splitOn '\n').map trim = trimmedLines cs ++ [[]] := by
  induction cs using line_induction with
  | last l h =>
    rw [trimmedLines, lines_of_newline_notMem h, List.splitOn_eq_singleton h]
    cases l with
    | nil => exact Or.inr rfl
    | cons c l => exact Or.inl rfl
  | step l rest h ih =>
    rw [splitOn_append_newline h, trimmedLines_append_newline h, List.map_cons]
    exact ih.imp (congrArg _) (congrArg _)

end Cutting

/-! ### Blanks around a line -/

section Blanks

variable {front back cs : List Char}

theorem trim_blanks_append (h : ∀ c ∈ front, isBlank c = true) : trim (front ++ cs) = trim cs := by
  have hdrop : dropBlanks (front ++ cs) = dropBlanks cs := List.dropWhile_append_of_pos h
  rw [trim, hdrop, trim]

theorem trim_append_blanks (h : ∀ c ∈ back, isBlank c = true) : trim (cs ++ back) = trim cs := by
  induction back using List.reverseRecOn with
  | nil => rw [List.append_nil]
  | append_singleton back c ih =>
    rw [← List.append_assoc, trim_append_blank (h c (by simp)), ih fun x hx => h x (by simp [hx])]

end Blanks

/-! ### Two conventions for line ends -/

/-- A character, with a carriage return before it if it is a line feed. -/
def withReturn (c : Char) : List Char :=
  if c = '\n' then ['\r', '\n'] else [c]

/-- **A text with a carriage return before each line feed.** -/
def withReturns (s : String) : String :=
  String.ofList (s.toList.flatMap withReturn)

theorem flatMap_withReturn {l : List Char} (h : '\n' ∉ l) : l.flatMap withReturn = l := by
  induction l with
  | nil => rfl
  | cons c l ih =>
    have hc : c ≠ '\n' := fun hc => h (by simp [hc])
    rw [List.flatMap_cons, withReturn, if_neg hc, ih fun hl => h (List.mem_cons_of_mem _ hl),
      List.singleton_append]

/-- The carriage returns are trimmed away. -/
theorem splitOn_withReturns_map_trim (s : String) :
    ((withReturns s).toList.splitOn '\n').map trim = (s.toList.splitOn '\n').map trim := by
  rw [withReturns, String.toList_ofList]
  induction s.toList using line_induction with
  | last l h => rw [flatMap_withReturn h]
  | step l rest h ih =>
    have hreturn : '\n' ∉ l ++ ['\r'] := by simp [h]
    have htext : (l ++ '\n' :: rest).flatMap withReturn =
        (l ++ ['\r']) ++ '\n' :: rest.flatMap withReturn := by
      rw [List.flatMap_append, flatMap_withReturn h, List.flatMap_cons, withReturn, if_pos rfl]
      simp
    rw [htext, splitOn_append_newline hreturn, splitOn_append_newline h, List.map_cons,
      List.map_cons, trim_append_blank (by decide), ih]

end TwinTypes.Text
