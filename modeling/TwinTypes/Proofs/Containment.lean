import Mathlib.Data.List.Forall2
import TwinTypes.Proofs.DirectoryName
import TwinTypes.Proofs.Disk.Trail

/-!
# No name leaves the output directory

The names of a pair come from documents that anybody may have written, and a name may be a path: it
may begin at the root, or lead up. `components_join_pairDirName` says that the directory of a pair
is in the output directory all the same, and one level below it, whatever the two names and whatever
the output path.

It is two facts. Joining a segment to a path adds one component, a name, to its components and
rewrites none of them (`Path.components_join`); this holds for every path, also where the path is
empty, ends with a slash, or is a dot. And the directory name is a segment because no character of
`TwinTypes.replaced` is left in it (`segmentChar_notMem`). What else the directory name is, is the
text it was made of, character by character (`sanitizeSegment_differs`).
-/

namespace TwinTypes

/-! ### Components of a joined path -/

namespace Path

/-- Pieces that are not the first ones have components of their own. -/
theorem componentsOf_append (absolute : Bool) {xs : List String} (hne : xs ≠ [])
    (more : List String) : componentsOf absolute (xs ++ more) =
      componentsOf absolute xs ++ more.filterMap (componentOf false) := by
  obtain ⟨first, rest, rfl⟩ := List.exists_cons_of_ne_nil hne
  rw [List.cons_append, componentsOf, componentsOf, List.filterMap_append, List.append_assoc,
    List.append_assoc, List.append_assoc]

/-- A segment is a name wherever it stands. -/
theorem IsSegment.componentOf {name : String} (h : IsSegment name) (first : Bool) :
    componentOf first name = some (.normal name) := by
  simp [Path.componentOf, isIdle, h.ne_empty, h.ne_dot, h.ne_up]

/-- **Joining a segment adds one component**, the name, to those of the path. -/
theorem components_join (path : String) {name : String} (h : IsSegment name) :
    components (join path name) = components path ++ [.normal name] := by
  have habs := isAbsolute_join (a := path) h.isAbsolute
  have hpieces := pieces_of_notMem h.slash
  have hcomponent : [name].filterMap (Path.componentOf false) = [.normal name] := by
    rw [List.filterMap_cons_some (h.componentOf false), List.filterMap_nil]
  rw [components_eq, components_eq path, habs]
  rcases join_cases (a := path) h.isAbsolute with ⟨rfl, hj⟩ | ⟨path', rfl, hj⟩ | ⟨-, -, hj⟩
  · have hempty : componentsOf (isAbsolute "") (pieces "") = [] := by decide
    have hroot : isAbsolute "" = false := by decide
    rw [hj, hpieces, hempty, hroot, componentsOf, h.componentOf]
    rfl
  · -- the slash at the end of the path puts an empty piece there, which is no component
    have hempty : [""].filterMap (Path.componentOf false) = [] := by decide
    rw [hj, pieces_append_slash, hpieces, pieces_append_slash_end,
      componentsOf_append _ (pieces_ne_nil path'), componentsOf_append _ (pieces_ne_nil path'),
      hcomponent, hempty, List.append_nil]
  · rw [hj, pieces_append_slash, hpieces, componentsOf_append _ (pieces_ne_nil path), hcomponent]

end Path

/-! ### Characters of a directory name -/

/-- The character `c'` may stand in a directory name where `c` stands in the text that it was made
of: the same character, or an underscore for one of those that are replaced. -/
def Replaces (c' c : Char) : Prop :=
  c' = c ∨ c ∈ replaced ∧ c' = '_'

/-- **A directory name differs from its text only where it must.** -/
theorem sanitizeSegment_differs (name : String) :
    List.Forall₂ Replaces (sanitizeSegment name).toList name.toList := by
  rw [toList_sanitizeSegment, List.forall₂_map_left_iff, List.forall₂_same]
  intro c _
  by_cases h : c ∈ replaced
  · exact Or.inr ⟨h, segmentChar_of_mem h⟩
  · exact Or.inl (segmentChar_of_notMem h)

theorem length_sanitizeSegment (name : String) : (sanitizeSegment name).length = name.length := by
  rw [← String.length_toList, toList_sanitizeSegment, List.length_map, String.length_toList]

/-- Where there is nothing to replace, nothing is. -/
theorem sanitizeSegment_eq_self {name : String} (h : ∀ c ∈ replaced, c ∉ name.toList) :
    sanitizeSegment name = name := by
  have hkept : name.toList.map segmentChar = name.toList.map id :=
    List.map_congr_left fun c hc => segmentChar_of_notMem fun hmem => h c hmem hc
  apply String.toList_injective
  rw [toList_sanitizeSegment, hkept, List.map_id]

/-- **No name leaves the output directory.** The path of the directory of a pair is that of the
output directory and one name more, whatever the three texts are; the name is not empty and leads
nowhere else, as it has no character of those that are replaced. It is as long as the two names and
what stands between them, and differs from that text in the replaced characters only; and nothing of
it would be replaced once more. -/
theorem components_join_pairDirName (outputDir kotlin java : String) :
    Path.components (Path.join outputDir (pairDirName kotlin java)) =
        Path.components outputDir ++ [.normal (pairDirName kotlin java)] ∧
      Path.IsSegment (pairDirName kotlin java) ∧
      (∀ c ∈ replaced, c ∉ (pairDirName kotlin java).toList) ∧
      (pairDirName kotlin java).length = kotlin.length + "_to_".length + java.length ∧
      List.Forall₂ Replaces (pairDirName kotlin java).toList (kotlin ++ "_to_" ++ java).toList ∧
      ∀ name, sanitizeSegment (sanitizeSegment name) = sanitizeSegment name := by
  have hsegment := MappingPair.isSegment_dirName ⟨kotlin, java⟩
  refine ⟨Path.components_join outputDir hsegment, hsegment,
    fun c hc => notMem_sanitizeSegment _ hc, ?_, sanitizeSegment_differs _,
    fun name => sanitizeSegment_eq_self fun c hc => notMem_sanitizeSegment name hc⟩
  rw [pairDirName, length_sanitizeSegment, String.length_append, String.length_append]

end TwinTypes
