import TwinTypes.Proofs.Registry
import TwinTypes.Proofs.Text.ByteOrder

/-!
# The last shape of a name

A list may have several shapes of one name, and a table made of it has the last of them. What "last"
means is said of the list alone (`TwinTypes.Descriptor.LastIn`), and `TwinTypes.Registry.Tabulates`
says what a table of the list is then: every name leads to a shape of that name, and the names that
are known come once each, in the order of their bytes.

Two lists that agree on the last shapes of two names are the same to the artifacts of the two
(`renderPair_ofDescriptors_congr`). Nothing else in a list counts, least of all what a supertype
names: with the shapes of all other names taken out the artifacts stay as they are, and the
supertypes may be exchanged throughout without the report on members noticing. Both are settled in
`ofDescriptors_tabulates`.
-/

namespace TwinTypes

open Text (utf8Bytes lt_iff_utf8Bytes_lt)

/-! ### Last in a list -/

/-- **The last shape of its name** in a list. -/
def Descriptor.LastIn (d : Descriptor) (ds : List Descriptor) : Prop :=
  ∃ before after, ds = before ++ d :: after ∧ ∀ e ∈ after, e.name ≠ d.name

/-- **Two lists agree on a name**: they have the same last shape of it, or neither has one. -/
def Descriptor.SameLast (ds ds' : List Descriptor) (name : String) : Prop :=
  ∀ d : Descriptor, d.name = name → (d.LastIn ds ↔ d.LastIn ds')

namespace Registry

variable {r : Registry} {d : Descriptor} {ds ds' : List Descriptor} {name : String}

/-- **A table has the last shape of each name** in the list that it was made of, and no other. -/
theorem get_ofDescriptors_eq_some_iff :
    (ofDescriptors ds).get name = some d ↔ d.name = name ∧ d.LastIn ds := by
  rw [get_ofDescriptors, List.find?_eq_some_iff_append, beq_iff_eq]
  refine and_congr_right fun hname => ?_
  constructor
  · rintro ⟨after, before, hds, hafter⟩
    refine ⟨before.reverse, after.reverse, ?_, fun e he => ?_⟩
    · rw [← List.reverse_reverse ds, hds]
      simp
    · rw [hname]
      simpa using hafter e (List.mem_reverse.mp he)
  · rintro ⟨before, after, rfl, hafter⟩
    refine ⟨after.reverse, before.reverse, by simp, fun e he => ?_⟩
    rw [← hname]
    simpa using hafter e (List.mem_reverse.mp he)

/-- Two lists agree on a name exactly if their tables have the same shape of it. -/
theorem sameLast_iff : Descriptor.SameLast ds ds' name ↔
    (ofDescriptors ds).get name = (ofDescriptors ds').get name := by
  constructor
  · intro h
    refine Option.ext fun d => ?_
    rw [get_ofDescriptors_eq_some_iff, get_ofDescriptors_eq_some_iff]
    exact and_congr_right (h d)
  · intro h d hname
    have hsome : (ofDescriptors ds).get name = some d ↔ (ofDescriptors ds').get name = some d := by
      rw [h]
    rw [get_ofDescriptors_eq_some_iff, get_ofDescriptors_eq_some_iff] at hsome
    simpa [hname] using hsome

/-! ### Tables of a list -/

theorem name_of_get (h : r.get name = some d) : d.name = name := by
  simpa using List.find?_some h

theorem lookup_of_get (h : r.get name = some d) : r.lookup name = d := by
  rw [lookup, h, Option.getD_some]

/-- **What a name leads to has that name**, known or not. -/
theorem name_lookup (r : Registry) (name : String) : (r.lookup name).name = name := by
  cases h : r.get name with
  | none =>
    rw [lookup, h]
    rfl
  | some d => rw [lookup_of_get h, name_of_get h]

theorem mem_names_iff : name ∈ r.names ↔ ∃ d ∈ r.entries, d.name = name := by
  rw [names, List.mem_map]

theorem contains_iff_mem_names : r.contains name = true ↔ name ∈ r.names := by
  rw [contains, List.any_eq_true, mem_names_iff]
  simp

theorem eq_or_mem_of_mem_insertEntry {e : Descriptor} {entries : List Descriptor}
    (h : e ∈ insertEntry d entries) : e = d ∨ e ∈ entries := by
  induction entries with
  | nil => exact Or.inl (by simpa [insertEntry] using h)
  | cons a rest ih =>
    rw [insertEntry] at h
    split at h
    · exact List.mem_cons.mp h
    · split at h
      · rcases List.mem_cons.mp h with rfl | h
        · exact Or.inl rfl
        · exact Or.inr (List.mem_cons_of_mem _ h)
      · rcases List.mem_cons.mp h with rfl | h
        · exact Or.inr List.mem_cons_self
        · exact (ih h).imp_right (List.mem_cons_of_mem _)

/-- **One shape more** keeps the shapes in increasing order of names. -/
theorem pairwise_insertEntry (d : Descriptor) {entries : List Descriptor}
    (h : entries.Pairwise fun a b => a.name < b.name) :
    (insertEntry d entries).Pairwise fun a b => a.name < b.name := by
  induction entries with
  | nil => exact List.pairwise_singleton _ _
  | cons e rest ih =>
    obtain ⟨hfirst, hrest⟩ := List.pairwise_cons.mp h
    rw [insertEntry]
    split
    · rename_i hlt
      refine List.pairwise_cons.mpr ⟨fun a ha => ?_, h⟩
      rcases List.mem_cons.mp ha with rfl | ha
      · exact hlt
      · exact hlt.trans (hfirst a ha)
    · rename_i hle
      split
      · rename_i heq
        exact List.pairwise_cons.mpr ⟨fun a ha => by rw [heq]; exact hfirst a ha, hrest⟩
      · rename_i hne
        refine List.pairwise_cons.mpr ⟨fun a ha => ?_, ih hrest⟩
        rcases eq_or_mem_of_mem_insertEntry ha with rfl | ha
        · exact lt_of_le_of_ne (not_lt.mp hle) (Ne.symm hne)
        · exact hfirst a ha

theorem pairwise_entries_ofDescriptors (ds : List Descriptor) :
    (ofDescriptors ds).entries.Pairwise fun a b => a.name < b.name := by
  induction ds using List.reverseRecOn with
  | nil => exact List.Pairwise.nil
  | append_singleton ds d ih =>
    rw [ofDescriptors, List.foldl_append]
    exact pairwise_insertEntry d ih

/-- **A table of a list of shapes.** -/
structure Tabulates (r : Registry) (ds : List Descriptor) : Prop where
  /-- A name leads to the last shape of that name. -/
  last : ∀ d : Descriptor, d.LastIn ds → r.get d.name = some d ∧ r.lookup d.name = d
  /-- A name that no shape has leads to an empty class. -/
  unknown : ∀ name, (∀ d ∈ ds, d.name ≠ name) →
    r.get name = none ∧ r.lookup name = Descriptor.empty name
  /-- What a name leads to has that name. -/
  named : ∀ name, (r.lookup name).name = name
  /-- A report has the two names that were asked for. -/
  reported : ∀ kotlin java,
    (r.infer kotlin java).kotlinType = kotlin ∧ (r.infer kotlin java).javaType = java
  /-- The names that are known are those of which there is a shape. -/
  known : ∀ name, ((r.get name).isSome = true ↔ r.contains name = true) ∧
    (r.contains name = true ↔ name ∈ r.names)
  /-- The names come in increasing order of their bytes. -/
  sorted : r.names.Pairwise fun a b => utf8Bytes a < utf8Bytes b
  /-- They are counted once each. -/
  size : r.size = r.names.length

theorem tabulates_ofDescriptors (ds : List Descriptor) : (ofDescriptors ds).Tabulates ds where
  last d hlast := by
    have hget := get_ofDescriptors_eq_some_iff.mpr ⟨rfl, hlast⟩
    exact ⟨hget, lookup_of_get hget⟩
  unknown name hname := by
    have hget : (ofDescriptors ds).get name = none :=
      get_ofDescriptors_eq_none fun hmem => by
        obtain ⟨d, hd, rfl⟩ := List.mem_map.mp hmem
        exact hname d hd rfl
    exact ⟨hget, by rw [lookup, hget, Option.getD_none]⟩
  named := name_lookup _
  reported kotlin java := ⟨name_lookup _ kotlin, name_lookup _ java⟩
  known name := ⟨by rw [contains_eq_isSome], contains_iff_mem_names⟩
  sorted := by
    rw [names, List.pairwise_map]
    exact (pairwise_entries_ofDescriptors ds).imp lt_iff_utf8Bytes_lt.mp
  size := by rw [size, names, List.length_map]

end Registry

/-! ### What the artifacts of a pair depend on -/

open Registry (ofDescriptors)

variable {ds ds' : List Descriptor} {kotlin java name : String}

/-- **The artifacts of a pair** depend on the last shapes of its two names. -/
theorem renderPair_ofDescriptors_congr (hkotlin : Descriptor.SameLast ds ds' kotlin)
    (hjava : Descriptor.SameLast ds ds' java) :
    renderPair (ofDescriptors ds) ⟨kotlin, java⟩ = renderPair (ofDescriptors ds') ⟨kotlin, java⟩ :=
  renderPair_congr ⟨Registry.sameLast_iff.mp hkotlin, Registry.sameLast_iff.mp hjava⟩

/-- Shapes of other names may be taken out. -/
theorem Descriptor.sameLast_filter {keep : Descriptor → Bool}
    (h : ∀ d : Descriptor, d.name = name → keep d = true) :
    Descriptor.SameLast ds (ds.filter keep) name := by
  have hboth : (fun d : Descriptor => decide (keep d = true ∧ (d.name == name) = true)) =
      fun d => d.name == name := by
    funext d
    by_cases hname : d.name = name <;> simp [hname, h d]
  rw [Registry.sameLast_iff, Registry.get_ofDescriptors, Registry.get_ofDescriptors,
    ← List.filter_reverse, List.find?_filter, hboth]

/-- A shape with another supertype. -/
def Descriptor.withSupertype (d : Descriptor) (supertype : Option String) : Descriptor :=
  { d with supertype := supertype }

/-- **Where supertypes are exchanged**, a name leads to the same shape but for its supertype. -/
theorem exists_lookup_withSupertype (change : Descriptor → Option String) (ds : List Descriptor)
    (name : String) : ∃ supertype,
      (ofDescriptors (ds.map fun d => d.withSupertype (change d))).lookup name =
        ((ofDescriptors ds).lookup name).withSupertype supertype := by
  rw [Registry.lookup, Registry.lookup, Registry.get_ofDescriptors, Registry.get_ofDescriptors,
    ← List.map_reverse, List.find?_map]
  have hname : (fun d : Descriptor => d.name == name) ∘ (fun d => d.withSupertype (change d)) =
      fun d : Descriptor => d.name == name := rfl
  rw [hname]
  cases ds.reverse.find? fun d : Descriptor => d.name == name with
  | none => exact ⟨none, rfl⟩
  | some d => exact ⟨change d, rfl⟩

/-- The supertypes have no part in a report. -/
theorem correspond_withSupertype (kotlin java : Descriptor) (s t : Option String) :
    correspond (kotlin.withSupertype s) (java.withSupertype t) = correspond kotlin java := rfl

/-- **A table of known types is what a list said last.** It is a table of the list. Lists that agree
on two names give the same artifacts for the two, so the shapes of all other names can be taken out,
those that supertypes name among them; and the report is the same whatever supertypes the shapes
have. -/
theorem ofDescriptors_tabulates (ds : List Descriptor) :
    (ofDescriptors ds).Tabulates ds ∧
      ∀ kotlin java,
        (∀ ds', Descriptor.SameLast ds ds' kotlin → Descriptor.SameLast ds ds' java →
          renderPair (ofDescriptors ds) ⟨kotlin, java⟩ =
            renderPair (ofDescriptors ds') ⟨kotlin, java⟩) ∧
        renderPair (ofDescriptors ds) ⟨kotlin, java⟩ =
          renderPair (ofDescriptors (ds.filter fun d => d.name == kotlin || d.name == java))
            ⟨kotlin, java⟩ ∧
        ∀ change : Descriptor → Option String,
          (renderPair (ofDescriptors (ds.map fun d => d.withSupertype (change d)))
            ⟨kotlin, java⟩).details = (renderPair (ofDescriptors ds) ⟨kotlin, java⟩).details := by
  refine ⟨Registry.tabulates_ofDescriptors ds, fun kotlin java => ⟨fun ds' =>
    renderPair_ofDescriptors_congr, ?_, fun change => ?_⟩⟩
  · refine renderPair_ofDescriptors_congr (Descriptor.sameLast_filter ?_)
      (Descriptor.sameLast_filter ?_)
    · rintro d rfl
      simp
    · rintro d rfl
      simp
  · obtain ⟨s, hkotlin⟩ := exists_lookup_withSupertype change ds kotlin
    obtain ⟨t, hjava⟩ := exists_lookup_withSupertype change ds java
    have hreport : (ofDescriptors (ds.map fun d => d.withSupertype (change d))).infer kotlin java =
        (ofDescriptors ds).infer kotlin java := by
      rw [Registry.infer, hkotlin, hjava, correspond_withSupertype, Registry.infer]
    rw [renderPair, renderPair, hreport]

/-- A list with two shapes of one name, and a supertype that is a shape of the list. -/
def twiceNamed : List Descriptor :=
  [⟨"K", .classKind, none, ["a"], none⟩, ⟨"S", .classKind, none, ["b"], none⟩,
    ⟨"K", .interfaceKind, some "S", ["c"], none⟩, ⟨"J", .classKind, none, ["b", "c"], none⟩]

/-- The second shape of the name counts, whatever comes before or after it, and so does the list
with the two names in another order and without the supertype. -/
theorem ofDescriptors_tabulates_twice :
    Descriptor.LastIn ⟨"K", .interfaceKind, some "S", ["c"], none⟩ twiceNamed ∧
      (ofDescriptors twiceNamed).lookup "K" = ⟨"K", .interfaceKind, some "S", ["c"], none⟩ ∧
      (∀ d ∈ twiceNamed, d.name ≠ "T") ∧
      (ofDescriptors twiceNamed).lookup "T" = Descriptor.empty "T" ∧
      Descriptor.SameLast twiceNamed [twiceNamed[3], twiceNamed[2]] "K" ∧
      Descriptor.SameLast twiceNamed [twiceNamed[3], twiceNamed[2]] "J" ∧
      renderPair (ofDescriptors twiceNamed) ⟨"K", "J"⟩ =
        renderPair (ofDescriptors [twiceNamed[3], twiceNamed[2]]) ⟨"K", "J"⟩ := by
  have hlast : Descriptor.LastIn ⟨"K", .interfaceKind, some "S", ["c"], none⟩ twiceNamed :=
    ⟨twiceNamed.take 2, twiceNamed.drop 3, rfl, by decide⟩
  have hunknown : ∀ d ∈ twiceNamed, d.name ≠ "T" := by decide
  have hkotlin : Descriptor.SameLast twiceNamed [twiceNamed[3], twiceNamed[2]] "K" :=
    Registry.sameLast_iff.mpr (by decide)
  have hjava : Descriptor.SameLast twiceNamed [twiceNamed[3], twiceNamed[2]] "J" :=
    Registry.sameLast_iff.mpr (by decide)
  obtain ⟨htable, hpairs⟩ := ofDescriptors_tabulates twiceNamed
  exact ⟨hlast, (htable.last _ hlast).2, hunknown, (htable.unknown _ hunknown).2, hkotlin, hjava,
    (hpairs "K" "J").1 _ hkotlin hjava⟩

end TwinTypes
