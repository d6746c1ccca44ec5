import TwinTypes.Config.Settings
import TwinTypes.Proofs.Toml.Distinct

/-!
# Strict records of a table

A record type of which nothing must be there, and which takes no key but its own, is read from a
table whatever the table leaves out. What `TwinTypes.Proofs.Document.Records` says of records in
general is put here in terms of the entries of a table. A table is read exactly if the field of each
key can read its value (`TwinTypes.RecordShape.Exact.readRecord_isOk`), and a component that a field
governs is what the value under its key means, or without the key the one of the blank record
(`TwinTypes.RecordShape.Governs.readRecord`).

That keys differ is what makes membership in `TwinTypes.Toml.Table.values` say all there is to say
of a table. It is so for every table that a document has.
-/

namespace TwinTypes

open TwinTypes.Toml

/-! ### What a table holds -/

/-- The keys of a table and their values, as a reader of records finds them. -/
def Toml.Table.values (t : Table) : List (String × Value) :=
  t.entries.map fun e => (e.1, e.2.toValue)

/-- The table that an entry is. -/
def Toml.Item.table? : Item → Option Table
  | .inline t => some t
  | .table t => some t
  | _ => none

namespace Toml

variable {t : Table}

theorem entryValues_eq (entries : List (String × Item)) :
    entryValues entries = entries.map fun e => (.text e.1, e.2.toValue) := by
  induction entries with
  | nil => rfl
  | cons e rest ih => rw [entryValues, ih, List.map_cons, entryValue]

theorem Table.toValue_eq (t : Table) : t.toValue = .fields t.values := by
  cases t with
  | mk implicit dotted entries =>
    rw [Table.toValue, entryValues_eq, Value.fields, Table.values, List.map_map]
    rfl

theorem Item.toValue_of_table? {item : Item} (h : item.table? = some t) :
    item.toValue = t.toValue := by
  cases item <;> cases h <;> rw [Item.toValue]

theorem Table.map_fst_values (t : Table) : t.values.map Prod.fst = t.entries.map Prod.fst := by
  rw [Table.values, List.map_map]
  rfl

theorem Table.Distinct.nodup_values (h : t.Distinct) : (t.values.map Prod.fst).Nodup := by
  rw [t.map_fst_values]
  exact (Table.distinct_iff.mp h).1

theorem entrySource_frank : entrySource.Frank where
  fail _ _ := rfl
  skip _ := rfl

end Toml

/-! ### Strict records -/

namespace RecordShape

variable {α β : Type} {shape : RecordShape Value (Except Cause) α}

/-- **A record type of which nothing must be there**, and whose keys are the only ones. -/
structure Exact (shape : RecordShape Value (Except Cause) α) : Prop where
  /-- Another key is an error. -/
  strict : shape.strict = true
  /-- No field must be there. -/
  optional : ∀ f ∈ shape.fields, f.required = false
  /-- A key belongs to one field. -/
  names : shape.names.Nodup

variable {t : Table} {r : α}

/-- **A table is read** entry by entry, from a blank record. -/
theorem readRecord_toValue (t : Table) : Toml.readRecord shape t.toValue =
    shape.readRest entrySource t.toValue ⟨shape.blank, []⟩ t.values := by
  rw [t.toValue_eq]
  unfold Value.fields readRecord
  refine readNamed_fields ?_
  exact fun _ => rfl

/-- **A table is read** exactly if the field of each key can read its value. -/
theorem Exact.readRecord_isOk (h : shape.Exact) (ht : t.Distinct) :
    (∃ r, Toml.readRecord shape t.toValue = .ok r) ↔ ∀ e ∈ t.values, shape.Reads e.1 e.2 := by
  rw [readRecord_toValue, readRest_isOk_iff entrySource_frank h.names]
  constructor
  · rintro ⟨hstrict, hserves⟩ ⟨key, v⟩ he
    obtain ⟨f, hf, rfl⟩ := List.mem_map.mp (hstrict h.strict _ he)
    have hvalues := valuesAt_of_nodup ht.nodup_values he
    rcases hserves f hf with ⟨hnone, -⟩ | ⟨-, w, hw, hreads⟩
    · rw [hvalues] at hnone
      cases hnone
    · rw [hvalues] at hw
      cases hw
      exact hreads
  · intro hreads
    refine ⟨fun _ e he => (hreads e he).mem_names, fun f hf => ?_⟩
    by_cases hgiven : ∃ v, (f.name, v) ∈ t.values
    · obtain ⟨v, hv⟩ := hgiven
      exact .inr ⟨by simp, v, valuesAt_of_nodup ht.nodup_values hv, hreads _ hv⟩
    · refine .inl ⟨valuesAt_eq_nil ?_, fun hrequired => ?_⟩
      · intro e he hname
        exact hgiven ⟨e.2, hname ▸ he⟩
      · rw [h.optional f hf] at hrequired
        cases hrequired

/-- **A component of what a table is read as.** -/
theorem Governs.readRecord {key : String} {means : Value → β → Prop} {component : α → β}
    (hgoverns : shape.Governs key means component) (h : shape.Exact) (hkey : key ∈ shape.names)
    (hread : Toml.readRecord shape t.toValue = .ok r) :
    (∀ v, (key, v) ∈ t.values → means v (component r)) ∧
      ((∀ v, (key, v) ∉ t.values) → component r = component shape.blank) := by
  rw [readRecord_toValue] at hread
  rcases hgoverns.readRest hkey entrySource_frank h.names hread with
    ⟨hnone, hcomponent⟩ | ⟨-, v, hv, hmeans⟩
  · refine ⟨fun v hmem => ?_, fun _ => hcomponent⟩
    rw [← mem_valuesAt, hnone] at hmem
    cases hmem
  · refine ⟨fun w hmem => ?_, fun hno => absurd (mem_valuesAt.mp ?_) (hno v)⟩
    · rw [← mem_valuesAt, hv, List.mem_singleton] at hmem
      rwa [hmem]
    · rw [hv]
      exact List.mem_singleton_self v

end RecordShape

end TwinTypes
