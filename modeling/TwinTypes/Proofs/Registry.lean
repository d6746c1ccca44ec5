import Mathlib.Data.List.Induction
import TwinTypes.Run.Generate

/-!
# Looking shapes up

A table keeps its shapes in order, but what a name leads to does not depend on that: it is the shape
of that name that was inserted last. Generating asks a table for the shapes of the names of its pairs
and for nothing else, so two tables that agree on these are the same to it.
-/

namespace TwinTypes

namespace Registry

variable {r r' : Registry} {d : Descriptor} {name : String} {entries : List Descriptor}

theorem find?_insertEntry_self (d : Descriptor) (entries : List Descriptor) :
    ((insertEntry d entries).find? fun e => e.name == d.name) = some d := by
  induction entries with
  | nil => simp [insertEntry]
  | cons e rest ih =>
    rw [insertEntry]
    split
    · simp
    · split
      · simp
      · rename_i hne
        rw [List.find?_cons_of_neg (by simpa using Ne.symm hne), ih]

theorem find?_insertEntry_ne (h : d.name ≠ name) (entries : List Descriptor) :
    ((insertEntry d entries).find? fun e => e.name == name) =
      entries.find? fun e => e.name == name := by
  have hbeq : (d.name == name) = false := by simpa using h
  induction entries with
  | nil => simp [insertEntry, hbeq]
  | cons e rest ih =>
    rw [insertEntry]
    split
    · simp [hbeq]
    · split
      · -- the shape that is replaced has the name of the new one
        rename_i heq
        simp [hbeq, ← heq]
      · simp only [List.find?_cons, ih]

/-- **One shape more** is found under its name; under another name nothing changes. -/
theorem get_insert (r : Registry) (d : Descriptor) (name : String) :
    (r.insert d).get name = if d.name = name then some d else r.get name := by
  split
  · rename_i heq
    subst heq
    exact find?_insertEntry_self d r.entries
  · rename_i hne
    exact find?_insertEntry_ne hne r.entries

/-- **The shape of a name** in the table of a list is the last one of that name in the list. -/
theorem get_ofDescriptors (ds : List Descriptor) (name : String) :
    (ofDescriptors ds).get name = ds.reverse.find? fun d => d.name == name := by
  induction ds using List.reverseRecOn with
  | nil => rfl
  | append_singleton ds d ih =>
    have hlast : ofDescriptors (ds ++ [d]) = (ofDescriptors ds).insert d := by
      simp [ofDescriptors]
    rw [hlast, get_insert, ih, List.reverse_append]
    by_cases h : d.name = name <;> simp [h]

/-- A name that no shape of the list has is not known. -/
theorem get_ofDescriptors_eq_none {ds : List Descriptor} (h : name ∉ ds.map (·.name)) :
    (ofDescriptors ds).get name = none := by
  rw [get_ofDescriptors, List.find?_eq_none]
  intro d hd heq
  exact h (List.mem_map.mpr ⟨d, List.mem_reverse.mp hd, by simpa using heq⟩)

/-- A name is known exactly if there is a shape of that name. -/
theorem contains_eq_isSome (r : Registry) (name : String) : r.contains name = (r.get name).isSome := by
  rw [contains, get, Bool.eq_iff_iff, List.any_eq_true, List.find?_isSome]

/-- **Two tables agree on a pair**: they have the same shapes for its names. -/
structure AgreeOn (r r' : Registry) (pair : MappingPair) : Prop where
  /-- The shapes of the Kotlin name are the same. -/
  kotlin : r.get pair.kotlin = r'.get pair.kotlin
  /-- The shapes of the Java name are the same. -/
  java : r.get pair.java = r'.get pair.java

theorem lookup_congr {r r' : Registry} {name : String} (h : r.get name = r'.get name) :
    r.lookup name = r'.lookup name := by
  rw [lookup, h, lookup]

/-- Then they have the same report for it. -/
theorem AgreeOn.infer {r r' : Registry} {pair : MappingPair} (h : r.AgreeOn r' pair) :
    r.infer pair.kotlin pair.java = r'.infer pair.kotlin pair.java := by
  rw [Registry.infer, lookup_congr h.kotlin, lookup_congr h.java, Registry.infer]

end Registry

/-! ### What generating asks a table -/

variable {r r' : Registry} {pair : MappingPair} {pairs : List MappingPair} {out : String}
  {onPair : GeneratedPair → Program Unit}

theorem renderPair_congr (h : r.AgreeOn r' pair) : renderPair r pair = renderPair r' pair := by
  rw [renderPair, Registry.lookup_congr h.kotlin, Registry.lookup_congr h.java, h.infer, renderPair]

theorem generatePair_congr (h : r.AgreeOn r' pair) :
    generatePair r out onPair pair = generatePair r' out onPair pair := by
  have hunknown : reportUnknown r pair = reportUnknown r' pair := by
    simp only [reportUnknown, Registry.contains_eq_isSome, h.kotlin, h.java]
  have hunmapped : reportUnmapped r pair = reportUnmapped r' pair := by
    rw [reportUnmapped, h.infer, reportUnmapped]
  rw [generatePair, hunknown, hunmapped, renderPair_congr h, generatePair]

/-- **Generating asks a table for the shapes of the names of its pairs** and for nothing else. -/
theorem generate_congr (h : ∀ p ∈ pairs, r.AgreeOn r' p) :
    generate r pairs out onPair = generate r' pairs out onPair := by
  have hall : generateAll r out onPair pairs = generateAll r' out onPair pairs := by
    induction pairs with
    | nil => rfl
    | cons p rest ih =>
      rw [generateAll, generatePair_congr (h p List.mem_cons_self),
        ih fun q hq => h q (List.mem_cons_of_mem _ hq), generateAll]
  rw [generate, hall, generate]

end TwinTypes
