import Mathlib.Data.List.Basic

/-!
# Cutting texts where they were joined

A text that is put together with a mark between its parts is cut into the same parts again, if no
part has the mark in it. So the parts can be read off the text (`intercalate_inj`), and that is how
everything that is written line by line, or piece by piece, is told apart.

The mark need not be the same in the parts and in the text: where characters are exchanged one by
one, the text is cut at the new mark where it was cut at the old one (`splitOn_map`).
-/

namespace TwinTypes.Text

/-- **What stands before the first mark of a list, and what stands after it**, is read off the
list. -/
theorem append_cons_inj {α : Type} {mark : α} {xs ys us vs : List α} (hxs : mark ∉ xs)
    (hys : mark ∉ ys) (h : xs ++ mark :: us = ys ++ mark :: vs) : xs = ys ∧ us = vs := by
  induction xs generalizing ys with
  | nil =>
    cases ys with
    | nil => exact ⟨rfl, List.tail_eq_of_cons_eq h⟩
    | cons y ys => exact absurd (List.head_eq_of_cons_eq h) fun hmark => hys (by simp [hmark])
  | cons x xs ih =>
    cases ys with
    | nil => exact absurd (List.head_eq_of_cons_eq h) fun hmark => hxs (by simp [hmark])
    | cons y ys =>
      simp only [List.cons_append, List.cons.injEq] at h
      obtain ⟨rfl, hus⟩ := ih (fun hmem => hxs (List.mem_cons_of_mem _ hmem))
        (fun hmem => hys (List.mem_cons_of_mem _ hmem)) h.2
      exact ⟨by rw [h.1], hus⟩

section Joined

variable {sep : String} {mark : Char} {xs ys : List String}

/-- **A joined text is cut into the parts that it was joined of.** -/
theorem splitOn_toList_intercalate (hsep : sep.toList = [mark]) (hne : xs ≠ [])
    (h : ∀ x ∈ xs, mark ∉ x.toList) :
    (String.intercalate sep xs).toList.splitOn mark = xs.map String.toList := by
  have hmark : ∀ l ∈ xs.map String.toList, mark ∉ l := by
    intro l hl
    obtain ⟨x, hx, rfl⟩ := List.mem_map.mp hl
    exact h x hx
  rw [String.toList_intercalate, hsep]
  exact List.splitOn_intercalate mark hmark (by simpa using hne)

/-- **Joined texts that are the same** were joined of the same parts. -/
theorem intercalate_inj (hsep : sep.toList = [mark]) (hxs : xs ≠ []) (hys : ys ≠ [])
    (hx : ∀ x ∈ xs, mark ∉ x.toList) (hy : ∀ y ∈ ys, mark ∉ y.toList)
    (h : String.intercalate sep xs = String.intercalate sep ys) : xs = ys := by
  have hcut := splitOn_toList_intercalate hsep hxs hx
  rw [h, splitOn_toList_intercalate hsep hys hy] at hcut
  exact (List.map_injective_iff.mpr (fun _ _ => String.toList_injective) hcut).symm

end Joined

/-- **A text whose characters are exchanged** is cut at the new mark where it was cut at the old
one, if no other character becomes the new mark. -/
theorem splitOn_map {f : Char → Char} {old new : Char} (hold : f old = new) {cs : List Char}
    (h : ∀ c ∈ cs, c ≠ old → f c = c ∧ c ≠ new) : (cs.map f).splitOn new = cs.splitOn old := by
  induction cs with
  | nil => rfl
  | cons c cs ih =>
    rw [List.map_cons, List.splitOn_cons_eq_if_modifyHead, List.splitOn_cons_eq_if_modifyHead,
      ih fun x hx => h x (List.mem_cons_of_mem _ hx)]
    by_cases hc : c = old
    · simp [hc, hold]
    · obtain ⟨hkept, hnew⟩ := h c List.mem_cons_self hc
      simp [hkept, hnew, hc]

end TwinTypes.Text
