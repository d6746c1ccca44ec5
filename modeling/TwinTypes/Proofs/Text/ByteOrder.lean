import Mathlib.Data.List.Lex
import Mathlib.Data.String.Basic
import Mathlib.Data.UInt

/-!
# Texts in the order of their bytes

Texts are compared character by character. A listing of a directory, or any other comparison of
texts by their bytes, puts them in the same order: `TwinTypes.Text.lt_iff_utf8Bytes_lt`.

The load-bearing statement is `utf8EncodeChar_append_lt`. Where two characters differ, the bytes of
the smaller one fall below those of the greater one at some byte that both have, whatever follows
them: a character that takes more bytes has a greater first byte, and among characters of one size
the bytes are digits of the code point, the most significant ones first.
-/

namespace TwinTypes.Text

/-- The bytes of a text. -/
def utf8Bytes (s : String) : List UInt8 :=
  s.toUTF8.data.toList

theorem utf8Bytes_eq (s : String) : utf8Bytes s = s.toList.flatMap String.utf8EncodeChar := by
  rw [utf8Bytes, String.toUTF8_eq_toByteArray, ← String.utf8Encode_toList, List.utf8Encode,
    List.toList_data_toByteArray]

/-- Bytes are compared at the front, and further on only if those at the front are the same. -/
theorem cons_lt_cons {a b : Nat} {s t : List UInt8} (hb : b < 256) (hle : a ≤ b)
    (hst : a = b → s < t) : UInt8.ofNat a :: s < UInt8.ofNat b :: t := by
  rw [List.cons_lt_cons_iff]
  rcases Nat.lt_or_eq_of_le hle with hlt | heq
  · left
    rw [UInt8.lt_iff_toNat_lt, UInt8.toNat_ofNat', UInt8.toNat_ofNat']
    omega
  · exact Or.inr ⟨by rw [heq], hst heq⟩

/-- **The bytes of the smaller of two characters come first**, whatever follows either. -/
theorem utf8EncodeChar_append_lt {c d : Char} (h : c < d) (r r' : List UInt8) :
    String.utf8EncodeChar c ++ r < String.utf8EncodeChar d ++ r' := by
  have hlt : c.val.toNat < d.val.toNat := h
  have hd : d.val.toNat < 0x110000 :=
    d.valid.elim (fun h => lt_of_lt_of_le h (by decide)) And.right
  unfold String.utf8EncodeChar
  dsimp only
  generalize c.val.toNat = m at hlt
  generalize d.val.toNat = n at hlt hd
  by_cases hsize : m ≤ 0x7f ∧ 0x7f < n ∨ m ≤ 0x7ff ∧ 0x7ff < n ∨ m ≤ 0xffff ∧ 0xffff < n
  -- a character that takes more bytes has the greater first byte
  · split_ifs
    all_goals first | omega | exact cons_lt_cons (by omega) (by omega) (by omega)
  -- among those of one size it is the first different digit that counts
  · split_ifs
    any_goals omega
    · exact cons_lt_cons (by omega) (by omega) (by omega)
    · exact cons_lt_cons (by omega) (by omega) fun _ =>
        cons_lt_cons (by omega) (by omega) (by omega)
    · exact cons_lt_cons (by omega) (by omega) fun _ =>
        cons_lt_cons (by omega) (by omega) fun _ =>
          cons_lt_cons (by omega) (by omega) (by omega)
    · exact cons_lt_cons (by omega) (by omega) fun _ =>
        cons_lt_cons (by omega) (by omega) fun _ =>
          cons_lt_cons (by omega) (by omega) fun _ =>
            cons_lt_cons (by omega) (by omega) (by omega)

theorem flatMap_utf8EncodeChar_lt {cs ds : List Char} (h : cs < ds) :
    cs.flatMap String.utf8EncodeChar < ds.flatMap String.utf8EncodeChar := by
  induction cs generalizing ds with
  | nil =>
    cases ds with
    | nil => exact absurd h (lt_irrefl _)
    | cons d ds =>
      obtain ⟨b, bs, hbytes⟩ :=
        List.exists_cons_of_ne_nil (String.utf8EncodeChar_ne_nil (c := d))
      rw [List.flatMap_nil, List.flatMap_cons, hbytes]
      exact List.nil_lt_cons b _
  | cons c cs ih =>
    cases ds with
    | nil => exact absurd h (List.not_lt_nil _)
    | cons d ds =>
      rw [List.flatMap_cons, List.flatMap_cons]
      rcases List.cons_lt_cons_iff.mp h with hlt | ⟨rfl, hlt⟩
      · exact utf8EncodeChar_append_lt hlt _ _
      · exact List.append_left_lt (ih hlt)

/-- **Texts are in the order of their bytes.** -/
theorem lt_iff_utf8Bytes_lt {s t : String} : s < t ↔ utf8Bytes s < utf8Bytes t := by
  have hmono : ∀ {a b : String}, a < b → utf8Bytes a < utf8Bytes b := by
    intro a b h
    rw [utf8Bytes_eq, utf8Bytes_eq]
    exact flatMap_utf8EncodeChar_lt (String.lt_iff_toList_lt.mp h)
  refine ⟨hmono, fun h => ?_⟩
  -- the order of texts is total, so the converse is the same law the other way round
  rcases lt_trichotomy s t with hlt | rfl | hlt
  · exact hlt
  · exact absurd h (List.lt_irrefl _)
  · exact absurd h (List.lt_asymm (hmono hlt))

end TwinTypes.Text
