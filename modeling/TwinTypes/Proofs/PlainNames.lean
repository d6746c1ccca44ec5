import TwinTypes.Builtin
import TwinTypes.Proofs.DirectoryName
import TwinTypes.Proofs.Text.Joining

/-!
# Plain names have directories of their own

A directory name does not say where the names end that it was made of: the dots within them become
underscores, and underscores stand between them. For names in general it is lossy. For *plain* names
(`TwinTypes.PlainName`), and those of the standard types are plain, it is not
(`pairDirName_inj_of_plain`).

The reason is that a plain name has no underscores of its own. So the directory name, cut at its
underscores, is the dotted segments of the one name, then `to`, then those of the other one
(`splitOn_pairDirName`), and the first `to` is the one between the names, as it is no segment of the
first of them. How many segments a name has, and whether some are empty, does not matter.
-/

namespace TwinTypes

/-- What stands between the dots of a name. -/
def dottedSegments (name : String) : List (List Char) :=
  name.toList.splitOn '.'

/-- **A plain name**: of the characters that a directory name replaces, or has in their place, it
has dots only, and none of its segments is the word that stands between two names. -/
structure PlainName (name : String) : Prop where
  /-- It has no underscore, which is what the others become. -/
  underscore : '_' ∉ name.toList
  /-- It has no dollar sign. -/
  dollar : '$' ∉ name.toList
  /-- It has no slash. -/
  slash : '/' ∉ name.toList
  /-- It has no backslash. -/
  backslash : '\\' ∉ name.toList
  /-- No segment is the word in between. -/
  segments : "to".toList ∉ dottedSegments name

instance (name : String) : Decidable (PlainName name) :=
  decidable_of_iff ('_' ∉ name.toList ∧ '$' ∉ name.toList ∧ '/' ∉ name.toList ∧
      '\\' ∉ name.toList ∧ "to".toList ∉ dottedSegments name)
    ⟨fun ⟨h₁, h₂, h₃, h₄, h₅⟩ => ⟨h₁, h₂, h₃, h₄, h₅⟩,
      fun ⟨h₁, h₂, h₃, h₄, h₅⟩ => ⟨h₁, h₂, h₃, h₄, h₅⟩⟩

/-- A name is known by its segments. -/
theorem dottedSegments_injective : Function.Injective dottedSegments := by
  have hjoin : ∀ s : String, ['.'].intercalate (dottedSegments s) = s.toList :=
    fun s => List.intercalate_splitOn '.'
  intro a b h
  apply String.toList_injective
  rw [← hjoin a, ← hjoin b, h]

/-- Flattened, a plain name is cut at its underscores where it was cut at its dots. -/
theorem PlainName.splitOn_map {name : String} (h : PlainName name) :
    (name.toList.map segmentChar).splitOn '_' = dottedSegments name := by
  refine Text.splitOn_map (by decide) fun c hc hdot => ⟨segmentChar_of_notMem ?_, ?_⟩
  · simp only [replaced, List.mem_cons, List.not_mem_nil, or_false, not_or]
    exact ⟨hdot, ne_of_mem_of_not_mem hc h.dollar, ne_of_mem_of_not_mem hc h.slash,
      ne_of_mem_of_not_mem hc h.backslash⟩
  · exact ne_of_mem_of_not_mem hc h.underscore

/-- **The pieces of a directory name** of two plain names. -/
theorem splitOn_pairDirName {kotlin java : String} (hkotlin : PlainName kotlin)
    (hjava : PlainName java) : (pairDirName kotlin java).toList.splitOn '_' =
      dottedSegments kotlin ++ "to".toList :: dottedSegments java := by
  have htext : (pairDirName kotlin java).toList = kotlin.toList.map segmentChar ++
      '_' :: ("to".toList ++ '_' :: java.toList.map segmentChar) := by
    rw [pairDirName, toList_sanitizeSegment]
    simp [segmentChar]
  have hto : "to".toList.splitOn '_' = ["to".toList] := by decide
  rw [htext, List.splitOn_append_cons_self, List.splitOn_append_cons_self, hkotlin.splitOn_map,
    hjava.splitOn_map, hto, List.singleton_append]

/-- **Pairs of plain names share no directory.** -/
theorem pairDirName_inj_of_plain {kotlin java kotlin' java' : String} (hkotlin : PlainName kotlin)
    (hjava : PlainName java) (hkotlin' : PlainName kotlin') (hjava' : PlainName java') :
    pairDirName kotlin java = pairDirName kotlin' java' ↔ kotlin = kotlin' ∧ java = java' := by
  constructor
  · intro h
    have hpieces := splitOn_pairDirName hkotlin hjava
    rw [h, splitOn_pairDirName hkotlin' hjava'] at hpieces
    obtain ⟨hk, hj⟩ := Text.append_cons_inj hkotlin'.segments hkotlin.segments hpieces
    exact ⟨dottedSegments_injective hk.symm, dottedSegments_injective hj.symm⟩
  · rintro ⟨rfl, rfl⟩
    rfl

/-- An empty segment at the end of the one name is told apart from one at the front of the other:
the directory names are `a__to_b` and `a_to__b`. -/
theorem pairDirName_inj_of_plain_empty :
    PlainName "a." ∧ PlainName "b" ∧ PlainName "a" ∧ PlainName ".b" ∧
      pairDirName "a." "b" ≠ pairDirName "a" ".b" := by
  have hend : PlainName "a." := by decide
  have hb : PlainName "b" := by decide
  have ha : PlainName "a" := by decide
  have hfront : PlainName ".b" := by decide
  refine ⟨hend, hb, ha, hfront, fun h => ?_⟩
  have hnames := (pairDirName_inj_of_plain hend hb ha hfront).mp h
  exact absurd hnames.1 (by decide)

/-- The standard types have plain names. -/
example : ∀ d ∈ Builtin.types, PlainName d.name := by decide +kernel

/-- With the word in between as a segment, two pairs of names share a directory. -/
example : pairDirName "a" "b.to.c" = pairDirName "a.to.b" "c" := by decide

end TwinTypes
