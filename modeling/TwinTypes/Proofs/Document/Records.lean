import Mathlib.Data.List.Nodup
import TwinTypes.Data.Record

/-!
# Records read by their keys

A record is read entry by entry, and what is read of an entry may depend on all that stands before
it: a key must be new, and each field changes a draft that others have changed. This file says what
comes of it without any order. A record is read exactly if every field that must be there is, and
none is given twice or given what it cannot read (`TwinTypes.RecordShape.readRest_isOk_iff`). And a
field governs a component of the record if it sets the component to what its value means and no
other field touches it (`TwinTypes.RecordShape.Governs`); the component is then what the one value
under its key means, or without the key the one of the blank record
(`TwinTypes.RecordShape.Governs.of_readRest`).

So all that matters of a record is what stands under each key of its type, in `TwinTypes.valuesAt`.
-/

namespace TwinTypes

/-- **One thing and then another** succeed if both do. -/
theorem bind_eq_ok {ε α β : Type} {x : Except ε α} {f : α → Except ε β} {b : β} :
    (x >>= f) = .ok b ↔ ∃ a, x = .ok a ∧ f a = .ok b := by
  cases x with
  | error e => simp [bind, Except.bind]
  | ok a => simp [bind, Except.bind]

/-- A field that sets a component changes a record if its value is read. -/
theorem change_eq_ok {α β : Type} {x : Except Cause β} {set : β → α → α} {change : α → α} :
    (do
      let b ← x
      pure (set b)) = Except.ok change ↔ ∃ b, x = .ok b ∧ change = set b := by
  rw [bind_eq_ok]
  exact exists_congr fun b => and_congr_right fun _ =>
    ⟨fun h => (Except.ok.inj h).symm, fun h => congrArg Except.ok h.symm⟩

/-! ### Looking keys up -/

/-- The values that the fields of a record give to a key, in order. -/
def valuesAt (key : String) (entries : List (String × Value)) : List Value :=
  entries.filterMap fun e => if e.1 = key then some e.2 else none

@[simp] theorem valuesAt_nil (key : String) : valuesAt key [] = [] := rfl

theorem valuesAt_cons_self (key : String) (v : Value) (entries : List (String × Value)) :
    valuesAt key ((key, v) :: entries) = v :: valuesAt key entries := by
  simp [valuesAt]

theorem valuesAt_cons_ne {key other : String} (h : other ≠ key) (v : Value)
    (entries : List (String × Value)) :
    valuesAt key ((other, v) :: entries) = valuesAt key entries := by
  simp [valuesAt, h]

theorem valuesAt_append (key : String) (entries more : List (String × Value)) :
    valuesAt key (entries ++ more) = valuesAt key entries ++ valuesAt key more :=
  List.filterMap_append

theorem mem_valuesAt {key : String} {v : Value} {entries : List (String × Value)} :
    v ∈ valuesAt key entries ↔ (key, v) ∈ entries := by
  simp [valuesAt]

theorem valuesAt_eq_nil {key : String} {entries : List (String × Value)}
    (h : ∀ e ∈ entries, e.1 ≠ key) : valuesAt key entries = [] := by
  rw [List.eq_nil_iff_forall_not_mem]
  intro v hv
  exact h _ (mem_valuesAt.mp hv) rfl

/-- **The order of the fields says nothing**: a value that stands alone under its key does so in any
order. -/
theorem valuesAt_eq_singleton {key : String} {v : Value} {entries extras : List (String × Value)}
    (hperm : entries.Perm ((key, v) :: extras)) (hextras : ∀ e ∈ extras, e.1 ≠ key) :
    valuesAt key entries = [v] := by
  have hvalues : (valuesAt key entries).Perm (valuesAt key ((key, v) :: extras)) :=
    hperm.filterMap _
  rw [valuesAt_cons_self, valuesAt_eq_nil hextras] at hvalues
  exact List.perm_singleton.mp hvalues

/-- Where no key stands twice every value stands alone under its key. -/
theorem valuesAt_of_nodup {key : String} {v : Value} {entries : List (String × Value)}
    (hkeys : (entries.map Prod.fst).Nodup) (h : (key, v) ∈ entries) :
    valuesAt key entries = [v] := by
  obtain ⟨before, after, rfl⟩ := List.append_of_mem h
  have hperm : (before ++ (key, v) :: after).Perm ((key, v) :: (before ++ after)) :=
    List.perm_middle
  have hkeys' := (hperm.map Prod.fst).nodup_iff.mp hkeys
  rw [List.map_cons, List.nodup_cons] at hkeys'
  refine valuesAt_eq_singleton hperm ?_
  rintro e he rfl
  exact hkeys'.1 (List.mem_map.mpr ⟨e, he, rfl⟩)

/-- **A notation that complains where it is told to**, and passes over anything. -/
structure Source.Frank (src : Source Value (Except Cause)) : Prop where
  /-- A complaint is an error. -/
  fail : ∀ {α : Type} (v : Value) (cause : Cause),
    (src.fail v cause : Except Cause α) = .error cause
  /-- What says nothing is no error. -/
  skip : ∀ v, src.skip v = .ok ()

namespace RecordShape

variable {α β : Type} {shape : RecordShape Value (Except Cause) α} {key : String} {v : Value}

/-! ### What an entry does -/

/-- **What an entry makes of a record**, by the field of its key. -/
def Changes (shape : RecordShape Value (Except Cause) α) (key : String) (v : Value)
    (change : α → α) : Prop :=
  ∃ f ∈ shape.fields, f.name = key ∧ f.read v = .ok change

/-- The field of a key can read a value. -/
def Reads (shape : RecordShape Value (Except Cause) α) (key : String) (v : Value) : Prop :=
  ∃ change, shape.Changes key v change

/-- **The field of a key governs a component**: it sets the component to what the value means, and
no other field touches it. -/
def Governs (shape : RecordShape Value (Except Cause) α) (key : String) (means : Value → β → Prop)
    (component : α → β) : Prop :=
  ∀ ⦃name v change⦄, shape.Changes name v change → ∀ r,
    if name = key then means v (component (change r)) else component (change r) = component r

theorem Reads.mem_names (h : shape.Reads key v) : key ∈ shape.names := by
  obtain ⟨change, f, hf, rfl, -⟩ := h
  exact List.mem_map_of_mem hf

/-- Where a key belongs to one field, it is looked up. -/
theorem find?_fields_eq_some_iff (hnames : shape.names.Nodup)
    {f : Field Value (Except Cause) α} :
    shape.fields.find? (fun f => f.name == key) = some f ↔ f ∈ shape.fields ∧ f.name = key := by
  constructor
  · intro hfind
    exact ⟨List.mem_of_find?_eq_some hfind, by simpa using List.find?_some hfind⟩
  · rintro ⟨hf, rfl⟩
    obtain ⟨g, hg⟩ : ∃ g, shape.fields.find? (fun g => g.name == f.name) = some g :=
      Option.isSome_iff_exists.mp (List.find?_isSome.mpr ⟨f, hf, by simp⟩)
    have hname : g.name = f.name := by simpa using List.find?_some hg
    rw [hg, List.inj_on_of_nodup_map hnames (List.mem_of_find?_eq_some hg) hf hname]

/-! ### What a record gives to the key of a field -/

/-- **A record serves a field**, after entries with some keys: it gives its key no value, if it may,
or a single one, which is the first and which the field can read. -/
def Serves (shape : RecordShape Value (Except Cause) α) (seen : List String)
    (f : Field Value (Except Cause) α) (values : List Value) : Prop :=
  (values = [] ∧ (f.required = true → f.name ∈ seen)) ∨
    f.name ∉ seen ∧ ∃ v, values = [v] ∧ shape.Reads f.name v

/-- An entry serves the field of its key if it is the first to do so, and then no other one may
follow. -/
theorem serves_valuesAt_cons {seen : List String} {f : Field Value (Except Cause) α}
    {rest : List (String × Value)} :
    shape.Serves seen f (valuesAt f.name ((key, v) :: rest)) ↔
      (f.name = key → key ∉ seen ∧ shape.Reads key v) ∧
        shape.Serves (key :: seen) f (valuesAt f.name rest) := by
  by_cases hname : f.name = key
  · subst hname
    rw [valuesAt_cons_self]
    constructor
    · rintro (⟨hnil, -⟩ | ⟨hnew, w, hvalues, hreads⟩)
      · cases hnil
      · obtain ⟨rfl, hnil⟩ := List.cons_eq_cons.mp hvalues
        exact ⟨fun _ => ⟨hnew, hreads⟩, .inl ⟨hnil, fun _ => List.mem_cons_self⟩⟩
    · rintro ⟨hfirst, hrest⟩
      obtain ⟨hnew, hreads⟩ := hfirst rfl
      rcases hrest with ⟨hnil, -⟩ | ⟨hagain, -⟩
      · exact .inr ⟨hnew, v, by rw [hnil], hreads⟩
      · exact absurd List.mem_cons_self hagain
  · rw [valuesAt_cons_ne (Ne.symm hname)]
    simp [Serves, hname]

/-! ### Reading the rest of a record -/

/-- Reads the entries of a record after those that led to a draft, where keys are texts. -/
def readRest (shape : RecordShape Value (Except Cause) α) (src : Source Value (Except Cause))
    (whole : Value) (p : Progress α) (entries : List (String × Value)) : Except Cause α := do
  let p ← entries.foldlM (fun p e => shape.readEntry src whole p e.1 e.2) p
  shape.finish src whole p .missingField

section Rest

variable {src : Source Value (Except Cause)} {whole : Value} {p p' : Progress α}
  {entries : List (String × Value)} {r : α}

/-- **One entry** is read if its key is new and its field can read the value; and if no field has
the key and the type is not strict. -/
theorem readEntry_eq_ok_iff (hsrc : src.Frank) (hnames : shape.names.Nodup) :
    shape.readEntry src whole p key v = .ok p' ↔
      (key ∉ p.seen ∧ ∃ change, shape.Changes key v change ∧
        p' = ⟨change p.draft, key :: p.seen⟩) ∨
      (key ∉ shape.names ∧ shape.strict = false ∧ p' = p) := by
  unfold readEntry
  split
  · rename_i f hfind
    obtain ⟨hf, rfl⟩ := (find?_fields_eq_some_iff hnames).mp hfind
    have hmem : f.name ∈ shape.names := List.mem_map_of_mem hf
    split
    · rename_i hseen
      rw [hsrc.fail]
      refine iff_of_false nofun ?_
      rintro (⟨hnew, -⟩ | ⟨hno, -⟩)
      · exact hnew (by simpa using hseen)
      · exact hno hmem
    · rename_i hseen
      rw [bind_eq_ok]
      constructor
      · rintro ⟨change, hchange, hpure⟩
        cases hpure
        exact .inl ⟨by simpa using hseen, change, ⟨f, hf, rfl, hchange⟩, rfl⟩
      · rintro (⟨-, change, ⟨g, hg, hname, hchange⟩, rfl⟩ | ⟨hno, -⟩)
        · rw [List.inj_on_of_nodup_map hnames hg hf hname] at hchange
          exact ⟨change, hchange, rfl⟩
        · exact absurd hmem hno
  · rename_i hfind
    have hno : key ∉ shape.names := by
      intro hmem
      obtain ⟨f, hf, hname⟩ := List.mem_map.mp hmem
      rw [(find?_fields_eq_some_iff hnames).mpr ⟨hf, hname⟩] at hfind
      cases hfind
    have hchanges : ¬∃ change, shape.Changes key v change := fun h => hno (Reads.mem_names h)
    split
    · rename_i hstrict
      rw [hsrc.fail]
      refine iff_of_false nofun ?_
      rintro (⟨-, change, hchange, -⟩ | ⟨-, hloose, -⟩)
      · exact hchanges ⟨change, hchange⟩
      · simp [hstrict] at hloose
    · rename_i hloose
      rw [hsrc.skip]
      constructor
      · intro hpure
        cases hpure
        exact .inr ⟨hno, by simpa using hloose, rfl⟩
      · rintro (⟨-, change, hchange, -⟩ | ⟨-, -, rfl⟩)
        · exact absurd ⟨change, hchange⟩ hchanges
        · rfl

/-- A record is finished if each field that must be there has been read. -/
theorem finish_eq_ok_iff (hsrc : src.Frank) {complaint : String → Cause} :
    shape.finish src whole p complaint = .ok r ↔
      (∀ f ∈ shape.fields, f.required = true → f.name ∈ p.seen) ∧ p.draft = r := by
  have hmissing : shape.missing p.seen = none ↔
      ∀ f ∈ shape.fields, f.required = true → f.name ∈ p.seen := by
    simp [missing]
  rw [finish, ← hmissing]
  cases shape.missing p.seen with
  | none => exact ⟨fun h => ⟨rfl, Except.ok.inj h⟩, fun h => congrArg Except.ok h.2⟩
  | some name =>
    dsimp only
    rw [hsrc.fail]
    exact iff_of_false nofun nofun

theorem readRest_nil_eq_ok_iff (hsrc : src.Frank) : shape.readRest src whole p [] = .ok r ↔
    (∀ f ∈ shape.fields, f.required = true → f.name ∈ p.seen) ∧ p.draft = r :=
  finish_eq_ok_iff hsrc

theorem readRest_cons_eq_ok_iff {e : String × Value} :
    shape.readRest src whole p (e :: entries) = .ok r ↔
      ∃ next, shape.readEntry src whole p e.1 e.2 = .ok next ∧
        shape.readRest src whole next entries = .ok r := by
  rw [readRest, List.foldlM_cons, bind_assoc, bind_eq_ok]
  rfl

/-- **The rest of a record is read** exactly if it serves every field, and if the type is strict
gives values to no other key. -/
theorem readRest_isOk_iff (hsrc : src.Frank) (hnames : shape.names.Nodup) :
    (∃ r, shape.readRest src whole p entries = .ok r) ↔
      (shape.strict = true → ∀ e ∈ entries, e.1 ∈ shape.names) ∧
        ∀ f ∈ shape.fields, shape.Serves p.seen f (valuesAt f.name entries) := by
  induction entries generalizing p with
  | nil =>
    simp only [readRest_nil_eq_ok_iff hsrc]
    simp [Serves]
  | cons e rest ih =>
    obtain ⟨key, v⟩ := e
    have hcons : (∃ r, shape.readRest src whole p ((key, v) :: rest) = .ok r) ↔
        ∃ next, shape.readEntry src whole p key v = .ok next ∧
          ∃ r, shape.readRest src whole next rest = .ok r := by
      simp only [readRest_cons_eq_ok_iff]
      rw [exists_comm]
      simp only [exists_and_left]
    rw [hcons, List.forall_mem_cons]
    by_cases hkey : key ∈ shape.names
    · simp only [serves_valuesAt_cons]
      constructor
      · rintro ⟨next, hfirst, hrest⟩
        rcases (readEntry_eq_ok_iff hsrc hnames).mp hfirst with
          ⟨hnew, change, hchange, rfl⟩ | ⟨hno, -⟩
        · obtain ⟨hstrict, hserves⟩ := ih.mp hrest
          exact ⟨fun h => ⟨hkey, hstrict h⟩,
            fun f hf => ⟨fun _ => ⟨hnew, change, hchange⟩, hserves f hf⟩⟩
        · exact absurd hkey hno
      · rintro ⟨hstrict, hserves⟩
        obtain ⟨f, hf, hname⟩ := List.mem_map.mp hkey
        obtain ⟨hnew, change, hchange⟩ := (hserves f hf).1 hname
        exact ⟨_, (readEntry_eq_ok_iff hsrc hnames).mpr (.inl ⟨hnew, change, hchange, rfl⟩),
          ih.mpr ⟨fun h => (hstrict h).2, fun f hf => (hserves f hf).2⟩⟩
    · -- no field looks at the value
      have hvalues : ∀ f ∈ shape.fields, valuesAt f.name ((key, v) :: rest) =
          valuesAt f.name rest := fun f hf =>
        valuesAt_cons_ne (by rintro rfl; exact hkey (List.mem_map_of_mem hf)) v rest
      constructor
      · rintro ⟨next, hfirst, hrest⟩
        rcases (readEntry_eq_ok_iff hsrc hnames).mp hfirst with
          ⟨-, change, hchange, -⟩ | ⟨-, hloose, rfl⟩
        · exact absurd (Reads.mem_names ⟨change, hchange⟩) hkey
        · refine ⟨fun h => by simp [hloose] at h, fun f hf => ?_⟩
          rw [hvalues f hf]
          exact (ih.mp hrest).2 f hf
      · rintro ⟨hstrict, hserves⟩
        have hloose : shape.strict = false := by
          rw [Bool.eq_false_iff]
          exact fun h => hkey (hstrict h).1
        refine ⟨p, (readEntry_eq_ok_iff hsrc hnames).mpr (.inr ⟨hkey, hloose, rfl⟩),
          ih.mpr ⟨fun h => by simp [hloose] at h, fun f hf => ?_⟩⟩
        rw [← hvalues f hf]
        exact hserves f hf

/-- **What becomes of a component**: it is what the only value under its key means, and without the
key it stays. -/
theorem Governs.readRest {means : Value → β → Prop} {component : α → β}
    (hgoverns : shape.Governs key means component) (hkey : key ∈ shape.names) (hsrc : src.Frank)
    (hnames : shape.names.Nodup) (hread : shape.readRest src whole p entries = .ok r) :
    (valuesAt key entries = [] ∧ component r = component p.draft) ∨
      key ∉ p.seen ∧ ∃ v, valuesAt key entries = [v] ∧ means v (component r) := by
  induction entries generalizing p with
  | nil =>
    obtain ⟨-, rfl⟩ := (readRest_nil_eq_ok_iff hsrc).mp hread
    exact .inl ⟨rfl, rfl⟩
  | cons e rest ih =>
    obtain ⟨name, w⟩ := e
    obtain ⟨next, hfirst, hrest⟩ := readRest_cons_eq_ok_iff.mp hread
    rcases (readEntry_eq_ok_iff hsrc hnames).mp hfirst with
      ⟨hnew, change, hchange, rfl⟩ | ⟨hother, -, rfl⟩
    · have hstep := hgoverns hchange p.draft
      by_cases hname : name = key
      · subst hname
        rw [if_pos rfl] at hstep
        rw [valuesAt_cons_self]
        -- the key has been seen now, so it stands under no later value
        rcases ih hrest with ⟨hnone, hcomponent⟩ | ⟨hagain, -⟩
        · exact .inr ⟨hnew, w, by rw [hnone], by rwa [hcomponent]⟩
        · exact absurd List.mem_cons_self hagain
      · rw [if_neg hname] at hstep
        rw [valuesAt_cons_ne hname]
        rcases ih hrest with ⟨hnone, hcomponent⟩ | ⟨hseen, hgiven⟩
        · exact .inl ⟨hnone, hcomponent.trans hstep⟩
        · exact .inr ⟨fun h => hseen (List.mem_cons_of_mem _ h), hgiven⟩
    · rw [valuesAt_cons_ne (by rintro rfl; exact hother hkey)]
      exact ih hrest

/-! ### Reading a record -/

/-- **A component of a record**, read from a blank one: it is what the only value under its key
means. The key is left out only if its field need not be there, and then the component is the one of
the blank record. -/
theorem Governs.of_readRest {means : Value → β → Prop} {component : α → β} {required : Bool}
    (hgoverns : shape.Governs key means component)
    (hfield : ∃ f ∈ shape.fields, f.name = key ∧ f.required = required) (hsrc : src.Frank)
    (hnames : shape.names.Nodup)
    (hread : shape.readRest src whole ⟨shape.blank, []⟩ entries = .ok r) :
    (valuesAt key entries = [] ∧ required = false ∧ component r = component shape.blank) ∨
      ∃ v, valuesAt key entries = [v] ∧ means v (component r) := by
  obtain ⟨f, hf, rfl, rfl⟩ := hfield
  rcases hgoverns.readRest (List.mem_map_of_mem hf) hsrc hnames hread with
    ⟨hnone, hcomponent⟩ | ⟨-, hgiven⟩
  · refine .inl ⟨hnone, Bool.eq_false_iff.mpr fun hrequired => ?_, hcomponent⟩
    rcases ((readRest_isOk_iff hsrc hnames).mp ⟨r, hread⟩).2 f hf with ⟨-, hseen⟩ | ⟨-, v, hv, -⟩
    · cases hseen hrequired
    · rw [hnone] at hv
      cases hv
  · exact .inr hgiven

/-- **A record whose keys are texts** is read from a blank one. -/
theorem readNamed_fields {readKey : Value → Except Cause String}
    (hkey : ∀ name, readKey (.text name) = .ok name) :
    shape.readNamed src readKey whole (entries.map fun e => (.text e.1, e.2)) =
      shape.readRest src whole ⟨shape.blank, []⟩ entries := by
  simp only [readNamed, readRest, List.foldlM_map, hkey]
  rfl

end Rest

end RecordShape

end TwinTypes
