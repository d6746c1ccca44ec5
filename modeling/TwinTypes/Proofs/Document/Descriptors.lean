import Mathlib.Logic.Relation
import TwinTypes.Document.Encode
import TwinTypes.Document.Json
import TwinTypes.Proofs.Document.ReadsBack
import TwinTypes.Proofs.Document.Records

/-!
# Descriptors as JSON objects

A descriptor is five features, and its JSON object gives each of them under a key of its own. Three
of them have a rule for the object that leaves them out: there is then no supertype, there are no
methods, and there is no property list. A `TwinTypes.Feature` names one of the five, and what is
said here is said of all five at once.

What an object says of a feature is that the value under its key is the one the feature is written
as, or that there is none and the feature is what its rule says (`TwinTypes.Feature.Told`). An
object is read as a descriptor exactly if it tells each feature of it
(`TwinTypes.Json.readDescriptor_eq_ok_iff`). Everything else follows by looking at the values under
the five keys: the object that a descriptor is written as tells its features, and no respelling of
an object (`TwinTypes.Respelling`) changes what it tells.

Nothing at all and an empty list are two values, and so are the property lists that they stand for.
-/

namespace TwinTypes

/-! ### The five features -/

/-- What is known of a type. -/
inductive Feature where
  /-- Its name. -/
  | name
  /-- Its kind. -/
  | kind
  /-- The supertype it declares, if any. -/
  | supertype
  /-- Its methods. -/
  | methods
  /-- Its properties, if it declares a list of them. -/
  | properties
  deriving DecidableEq, Repr

/-- A value that may be absent. -/
def optionValue {α : Type} (toValue : α → Value) : Option α → Value
  | none => .null
  | some a => toValue a

namespace Feature

/-- The key of a feature. -/
def key : Feature → String
  | name => "name"
  | kind => "kind"
  | supertype => "supertype"
  | methods => "methods"
  | properties => "properties"

/-- The value that a feature of a descriptor is written as. -/
def valueIn : Feature → Descriptor → Value
  | name, d => .text d.name
  | kind, d => d.kind.toValue
  | supertype, d => optionValue .text d.supertype
  | methods, d => .texts d.methods
  | properties, d => optionValue .texts d.properties

/-- The value that holds where an object leaves a feature out, if it may. -/
def absent : Feature → Option Value
  | name | kind => none
  | supertype | properties => some .null
  | methods => some (.list [])

/-- **A value says what another one says** of a feature: it is the same, or a kind in the form of a
record with nothing under it. -/
def Says (feature : Feature) (v w : Value) : Prop :=
  v = w ∨ feature = kind ∧ v = .record [(w, .null)]

/-- **An object tells a feature** by the values under its key: there is one that says it, or else it
is what holds without any. -/
def Told (feature : Feature) (d : Descriptor) (values : List Value) : Prop :=
  (values = [] ∧ feature.absent = some (feature.valueIn d)) ∨
    ∃ v, values = [v] ∧ feature.Says v (feature.valueIn d)

/-- A descriptor with a feature of another one. -/
def put : Feature → Descriptor → Descriptor → Descriptor
  | name, d, r => { r with name := d.name }
  | kind, d, r => { r with kind := d.kind }
  | supertype, d, r => { r with supertype := d.supertype }
  | methods, d, r => { r with methods := d.methods }
  | properties, d, r => { r with properties := d.properties }

variable {feature other : Feature} {d d' r : Descriptor} {v : Value} {values : List Value}

theorem key_injective : Function.Injective key := by
  intro feature other h
  cases feature <;> cases other <;> first | rfl | simp [key] at h

/-- A kind may be said in two ways. -/
theorem says_kind {w : Value} : kind.Says v w ↔ v = w ∨ v = .record [(w, .null)] := by
  simp [Says]

/-- Any other feature in one. -/
theorem Says.eq {w : Value} (h : feature.Says v w) (hkind : feature ≠ kind) : v = w :=
  h.resolve_right fun hrecord => hkind hrecord.1

/-- A value says no two things of a feature. -/
theorem Says.unique (h : feature.Says v (feature.valueIn d))
    (h' : feature.Says v (feature.valueIn d')) : feature.valueIn d = feature.valueIn d' := by
  by_cases hkind : feature = kind
  · subst hkind
    rcases says_kind.mp h with rfl | rfl <;> rcases says_kind.mp h' with heq | heq
    · exact heq
    · cases heq
    · cases heq
    · simpa using heq
  · rw [← h.eq hkind, ← h'.eq hkind]

/-- **The values under a key tell one thing at most.** -/
theorem Told.unique (h : feature.Told d values) (h' : feature.Told d' values) :
    feature.valueIn d = feature.valueIn d' := by
  rcases h with ⟨rfl, habsent⟩ | ⟨v, rfl, hsays⟩
  · rcases h' with ⟨-, habsent'⟩ | ⟨v, hv, -⟩
    · exact Option.some.inj (habsent.symm.trans habsent')
    · cases hv
  · rcases h' with ⟨hv, -⟩ | ⟨w, hw, hsays'⟩
    · cases hv
    · cases hw
      exact hsays.unique hsays'

theorem valueIn_put_self : feature.valueIn (feature.put d r) = feature.valueIn d := by
  cases feature <;> rfl

theorem valueIn_put_ne (h : other ≠ feature) :
    feature.valueIn (other.put d r) = feature.valueIn r := by
  cases feature <;> cases other <;> first | rfl | exact absurd rfl h

end Feature

theorem Value.text_injective : Function.Injective Value.text :=
  fun _ _ => Value.text.inj

theorem Value.text_ne_null (s : String) : Value.text s ≠ .null :=
  nofun

theorem Value.texts_ne_null (ss : List String) : Value.texts ss ≠ .null :=
  nofun

/-- A list of texts is read back from its value. -/
theorem Value.texts_injective : Function.Injective Value.texts := by
  intro ss ss' h
  rw [Value.texts, Value.texts, Value.list.injEq] at h
  exact List.map_injective_iff.mpr Value.text_injective h

theorem optionValue_injective {α : Type} {toValue : α → Value} (hnull : ∀ a, toValue a ≠ .null)
    (h : Function.Injective toValue) : Function.Injective (optionValue toValue) := by
  intro o o' heq
  cases o with
  | none =>
    cases o' with
    | none => rfl
    | some a => exact absurd heq.symm (hnull a)
  | some a =>
    cases o' with
    | none => exact absurd heq (hnull a)
    | some a' => exact congrArg some (h heq)

theorem Kind.toValue_injective : Function.Injective Kind.toValue := by
  intro k k' h
  cases k <;> cases k' <;> first | rfl | simp [Kind.toValue, Kind.keyword] at h

/-- **A descriptor is its five features.** -/
theorem Descriptor.eq_of_valueIn {d d' : Descriptor}
    (h : ∀ feature : Feature, feature.valueIn d = feature.valueIn d') : d = d' := by
  obtain ⟨name, kind, supertype, methods, properties⟩ := d
  obtain ⟨name', kind', supertype', methods', properties'⟩ := d'
  have hname : name = name' := Value.text.inj (h .name)
  have hkind : kind = kind' := Kind.toValue_injective (h .kind)
  have hsupertype : supertype = supertype' :=
    optionValue_injective Value.text_ne_null Value.text_injective (h .supertype)
  have hmethods : methods = methods' := Value.texts_injective (h .methods)
  have hproperties : properties = properties' :=
    optionValue_injective Value.texts_ne_null Value.texts_injective (h .properties)
  rw [hname, hkind, hsupertype, hmethods, hproperties]

/-! ### Reading one value -/

namespace Json

variable {v : Value}

theorem readText_eq_ok {expected s : String} : readText v expected = .ok s ↔ v = .text s := by
  cases v <;> simp [readText]

theorem mapM_readText_eq_ok {items : List Value} {ss : List String} :
    items.mapM (fun item => readText item "a string") = .ok ss ↔ items = ss.map .text := by
  induction items generalizing ss with
  | nil => cases ss <;> simp [pure, Except.pure]
  | cons v rest ih =>
    rw [List.mapM_cons, bind_eq_ok]
    constructor
    · rintro ⟨s, hs, hrest⟩
      obtain ⟨more, hmore, hpure⟩ := bind_eq_ok.mp hrest
      cases hpure
      rw [readText_eq_ok.mp hs, ih.mp hmore, List.map_cons]
    · intro h
      cases ss with
      | nil => cases h
      | cons s more =>
        obtain ⟨rfl, hmore⟩ := List.cons_eq_cons.mp h
        exact ⟨s, rfl, bind_eq_ok.mpr ⟨more, ih.mpr hmore, rfl⟩⟩

theorem readTexts_eq_ok {ss : List String} : readTexts source v = .ok ss ↔ v = .texts ss := by
  have hitems : readTexts source v = readItems (fun item => readText item "a string") v := rfl
  rw [hitems, Value.texts]
  cases v with
  | list items => simp [readItems, mapM_readText_eq_ok]
  | _ => simp [readItems]

/-- A value that may be absent is nothing at all, or a value. -/
theorem readOptional_eq_ok {α : Type} {read : Value → Except Cause α} {toValue : α → Value}
    (hread : ∀ a, read v = .ok a ↔ v = toValue a) (hnull : ∀ a, toValue a ≠ .null)
    {o : Option α} : readOptional read v = .ok o ↔ v = optionValue toValue o := by
  unfold readOptional
  split
  · cases o with
    | none => simp [optionValue]
    | some a => simpa [optionValue] using (hnull a).symm
  · rename_i hne
    cases o with
    | none =>
      refine iff_of_false ?_ hne
      cases read v <;> simp [Except.map]
    | some a =>
      rw [optionValue, ← hread]
      cases read v <;> simp [Except.map]

theorem readKeyword_eq_ok {word : String} {k : Kind} :
    readKeyword source v word = .ok k ↔ word = k.keyword := by
  unfold readKeyword
  constructor
  · intro h
    cases hfind : Kind.ofKeyword word with
    | none => rw [hfind] at h; cases h
    | some kind =>
      rw [hfind] at h
      cases h
      unfold Kind.ofKeyword at hfind
      have hword := List.find?_some hfind
      exact (beq_iff_eq.mp hword).symm
  · rintro rfl
    rw [Kind.ofKeyword_keyword]
    rfl

theorem readKind_eq_ok {k : Kind} :
    readKind v = .ok k ↔ v = k.toValue ∨ v = .record [(k.toValue, .null)] := by
  unfold readKind
  split
  · rw [readKeyword_eq_ok]
    simp [Kind.toValue]
  · rename_i word content
    rw [bind_eq_ok]
    constructor
    · rintro ⟨kind, hkind, hcontent⟩
      split at hcontent
      · cases hcontent
        rw [readKeyword_eq_ok.mp hkind]
        exact .inr rfl
      · cases hcontent
    · rintro (h | h)
      · cases h
      · cases h
        exact ⟨k, readKeyword_eq_ok.mpr rfl, rfl⟩
  · rename_i hshape
    refine iff_of_false nofun ?_
    rintro (h | h)
    · cases h
    · cases h
      exact hshape _ _ rfl
  · rename_i htext _ hrecord
    refine iff_of_false nofun ?_
    rintro (h | h)
    · exact htext _ h
    · exact hrecord _ h

/-! ### Reading the features -/

/-- The type of descriptors, as JSON objects spell them. -/
def jsonDescriptorShape : RecordShape Value (Except Cause) Descriptor :=
  descriptorShape source readKind readOptional

variable {feature : Feature} {key : String} {d : Descriptor}
  {entries : List (String × Value)}

/-- **What an entry does**: it puts the feature of its key, as its value says. -/
theorem changes_jsonDescriptorShape {change : Descriptor → Descriptor} :
    jsonDescriptorShape.Changes key v change ↔ ∃ feature : Feature, key = feature.key ∧
      ∃ d, feature.Says v (feature.valueIn d) ∧ change = feature.put d := by
  have htext : ∀ s, source.text v "a string" = .ok s ↔ v = .text s := fun _ => readText_eq_ok
  have htextOption : ∀ o, readOptional (fun v => source.text v "a string") v = .ok o ↔
      v = optionValue .text o := fun _ => readOptional_eq_ok htext Value.text_ne_null
  have htextsOption : ∀ o, readOptional (readTexts source) v = .ok o ↔
      v = optionValue .texts o := fun _ =>
    readOptional_eq_ok (fun _ => readTexts_eq_ok) Value.texts_ne_null
  simp only [RecordShape.Changes, jsonDescriptorShape, descriptorShape, textField,
    List.exists_mem_cons_iff, change_eq_ok, htext, htextOption, htextsOption, readTexts_eq_ok,
    readKind_eq_ok, eq_comm (b := key)]
  constructor
  · rintro (⟨rfl, t, rfl, rfl⟩ | ⟨rfl, k, hk, rfl⟩ | ⟨rfl, o, rfl, rfl⟩ | ⟨rfl, ts, rfl, rfl⟩ |
      ⟨rfl, o, rfl, rfl⟩ | ⟨f, hf, -⟩)
    · exact ⟨.name, rfl, { (default : Descriptor) with name := t }, .inl rfl, rfl⟩
    · exact ⟨.kind, rfl, { (default : Descriptor) with kind := k }, Feature.says_kind.mpr hk, rfl⟩
    · exact ⟨.supertype, rfl, { (default : Descriptor) with supertype := o }, .inl rfl, rfl⟩
    · exact ⟨.methods, rfl, { (default : Descriptor) with methods := ts }, .inl rfl, rfl⟩
    · exact ⟨.properties, rfl, { (default : Descriptor) with properties := o }, .inl rfl, rfl⟩
    · cases hf
  · rintro ⟨feature, rfl, d, hsays, rfl⟩
    cases feature with
    | name => exact .inl ⟨rfl, _, hsays.eq nofun, rfl⟩
    | kind => exact .inr (.inl ⟨rfl, _, Feature.says_kind.mp hsays, rfl⟩)
    | supertype => exact .inr (.inr (.inl ⟨rfl, _, hsays.eq nofun, rfl⟩))
    | methods => exact .inr (.inr (.inr (.inl ⟨rfl, _, hsays.eq nofun, rfl⟩)))
    | properties =>
      exact .inr (.inr (.inr (.inr (.inl ⟨rfl, _, hsays.eq nofun, rfl⟩))))

/-- A key belongs to one field. -/
theorem nodup_jsonDescriptorShape : jsonDescriptorShape.names.Nodup := by
  simp [RecordShape.names, jsonDescriptorShape, descriptorShape, textField]

/-- **A feature is governed by its key.** -/
theorem governs_feature (feature : Feature) :
    jsonDescriptorShape.Governs feature.key feature.Says feature.valueIn := by
  intro name v change hchange r
  obtain ⟨other, rfl, d, hsays, rfl⟩ := changes_jsonDescriptorShape.mp hchange
  by_cases h : other = feature
  · subst h
    rwa [if_pos rfl, Feature.valueIn_put_self]
  · rw [if_neg (mt Feature.key_injective.eq_iff.mp h), Feature.valueIn_put_ne h]

/-- **The fields are those of the features**, and one must be there if nothing holds without it. -/
theorem mem_fields_iff {name : String} {required : Bool} :
    (∃ f ∈ jsonDescriptorShape.fields, f.name = name ∧ f.required = required) ↔
      ∃ feature : Feature, feature.key = name ∧ feature.absent.isNone = required := by
  constructor
  · simp only [jsonDescriptorShape, descriptorShape, textField, List.exists_mem_cons_iff]
    rintro (h | h | h | h | h | ⟨f, hf, -⟩)
    · exact ⟨.name, h⟩
    · exact ⟨.kind, h⟩
    · exact ⟨.supertype, h⟩
    · exact ⟨.methods, h⟩
    · exact ⟨.properties, h⟩
    · cases hf
  · rintro ⟨feature, h⟩
    simp only [jsonDescriptorShape, descriptorShape, textField, List.exists_mem_cons_iff]
    cases feature with
    | name => exact .inl h
    | kind => exact .inr (.inl h)
    | supertype => exact .inr (.inr (.inl h))
    | methods => exact .inr (.inr (.inr (.inl h)))
    | properties => exact .inr (.inr (.inr (.inr (.inl h))))

theorem entrySource_frank : entrySource.Frank where
  fail _ _ := rfl
  skip _ := rfl

/-- An object is read entry by entry, from a descriptor of which nothing is known. -/
theorem readDescriptor_fields (entries : List (String × Value)) :
    readDescriptor (.fields entries) =
      jsonDescriptorShape.readRest entrySource (.fields entries) ⟨.empty "", []⟩ entries := by
  unfold Value.fields readDescriptor readRecord
  refine RecordShape.readNamed_fields ?_
  exact fun _ => rfl

/-- What an object is read as, it tells. -/
theorem told_of_readDescriptor (h : readDescriptor (.fields entries) = .ok d) (feature : Feature) :
    feature.Told d (valuesAt feature.key entries) := by
  rw [readDescriptor_fields] at h
  rcases (governs_feature feature).of_readRest (mem_fields_iff.mpr ⟨feature, rfl, rfl⟩)
    entrySource_frank nodup_jsonDescriptorShape h with ⟨hnone, hloose, hvalue⟩ | ⟨v, hv, hsays⟩
  · refine .inl ⟨hnone, ?_⟩
    rw [hvalue]
    cases feature with
    | name => cases hloose
    | kind => cases hloose
    | supertype => rfl
    | methods => rfl
    | properties => rfl
  · exact .inr ⟨v, hv, hsays⟩

/-- **An object is read as a descriptor exactly if it tells each feature of it.** -/
theorem readDescriptor_eq_ok_iff : readDescriptor (.fields entries) = .ok d ↔
    ∀ feature : Feature, feature.Told d (valuesAt feature.key entries) := by
  refine ⟨told_of_readDescriptor, fun htold => ?_⟩
  obtain ⟨r, hr⟩ : ∃ r, readDescriptor (.fields entries) = .ok r := by
    rw [readDescriptor_fields, RecordShape.readRest_isOk_iff entrySource_frank
      nodup_jsonDescriptorShape]
    refine ⟨nofun, fun f hf => ?_⟩
    obtain ⟨feature, hkey, hrequired⟩ := mem_fields_iff.mp ⟨f, hf, rfl, rfl⟩
    rw [← hkey]
    rcases htold feature with ⟨hnone, habsent⟩ | ⟨v, hv, hsays⟩
    · refine .inl ⟨hnone, fun h => ?_⟩
      rw [← hrequired, habsent] at h
      cases h
    · refine .inr ⟨by simp, v, hv, feature.put d, ?_⟩
      rw [← hkey]
      exact changes_jsonDescriptorShape.mpr ⟨feature, rfl, d, hsays, rfl⟩
  have heq : r = d := Descriptor.eq_of_valueIn fun feature =>
    (told_of_readDescriptor hr feature).unique (htold feature)
  rw [hr, heq]

end Json

/-! ### The object of a descriptor -/

/-- The object that a descriptor is written as tells its features. -/
theorem Descriptor.told_toValue (d : Descriptor) : ∃ entries, d.toValue = .fields entries ∧
    ∀ feature : Feature, feature.Told d (valuesAt feature.key entries) := by
  obtain ⟨name, kind, supertype, methods, properties⟩ := d
  refine ⟨_, rfl, fun feature => ?_⟩
  cases feature <;> cases supertype <;> cases properties <;>
    simp [Feature.Told, Feature.Says, Feature.valueIn, Feature.absent, Feature.key, valuesAt,
      optionValue]

/-- **A descriptor is read back from the object that it is written as.** -/
theorem readDescriptor_toValue (d : Descriptor) : Json.readDescriptor d.toValue = .ok d := by
  obtain ⟨entries, hvalue, htold⟩ := d.told_toValue
  rw [hvalue, Json.readDescriptor_eq_ok_iff]
  exact htold

/-! ### Respellings -/

/-- **A respelling of an object** that says the same of every feature. -/
inductive Respelling : List (String × Value) → List (String × Value) → Prop
  /-- The entries are put in another order. -/
  | reorder {entries entries' : List (String × Value)} (h : entries.Perm entries') :
      Respelling entries entries'
  /-- An entry is added under a key that belongs to no feature. -/
  | beside (before after : List (String × Value)) {key : String} (v : Value)
      (h : ∀ feature : Feature, key ≠ feature.key) :
      Respelling (before ++ after) (before ++ (key, v) :: after)
  /-- A feature that was left out is given what holds without it: nothing at all for a supertype or
  a list of properties, and an empty list for methods. -/
  | spellOut (before after : List (String × Value)) {feature : Feature} {v : Value}
      (h : feature.absent = some v) (hnot : ∀ e ∈ before ++ after, e.1 ≠ feature.key) :
      Respelling (before ++ after) (before ++ (feature.key, v) :: after)

section Respelling

variable {feature : Feature} {d : Descriptor} {values values' : List Value}
  {entries entries' before after : List (String × Value)}

/-- The order of the values does not matter, as there is one at most. -/
theorem Feature.Told.perm (h : feature.Told d values) (hperm : values.Perm values') :
    feature.Told d values' := by
  rcases h with ⟨rfl, habsent⟩ | ⟨v, rfl, hsays⟩
  · exact .inl ⟨hperm.nil_eq.symm, habsent⟩
  · exact .inr ⟨v, List.perm_singleton.mp hperm.symm, hsays⟩

/-- To leave a feature out is to say what holds without it. -/
theorem Feature.told_nil_iff {v : Value} (h : feature.absent = some v) :
    feature.Told d [] ↔ feature.Told d [v] := by
  have hkind : feature ≠ .kind := by
    rintro rfl
    cases h
  constructor
  · rintro (⟨-, habsent⟩ | ⟨w, hw, -⟩)
    · exact .inr ⟨v, rfl, .inl (Option.some.inj (h.symm.trans habsent))⟩
    · cases hw
  · rintro (⟨hnone, -⟩ | ⟨w, hw, hsays⟩)
    · cases hnone
    · cases hw
      exact .inl ⟨rfl, by rw [h, hsays.eq hkind]⟩

theorem valuesAt_insert_ne {key other : String} (h : other ≠ key) (v : Value) :
    valuesAt key (before ++ (other, v) :: after) = valuesAt key (before ++ after) := by
  rw [valuesAt_append, valuesAt_cons_ne h, ← valuesAt_append]

/-- **A respelling changes nothing that is told.** -/
theorem Respelling.told_iff (h : Respelling entries entries') (feature : Feature) :
    feature.Told d (valuesAt feature.key entries') ↔
      feature.Told d (valuesAt feature.key entries) := by
  cases h with
  | reorder h =>
    have hvalues : (valuesAt feature.key entries).Perm (valuesAt feature.key entries') :=
      h.filterMap _
    exact ⟨fun htold => htold.perm hvalues.symm, fun htold => htold.perm hvalues⟩
  | beside before after v h => rw [valuesAt_insert_ne (h feature)]
  | @spellOut before after other v h hnot =>
    by_cases hsame : other = feature
    · subst hsame
      have hnone : valuesAt other.key (before ++ after) = [] := valuesAt_eq_nil hnot
      have hgiven : valuesAt other.key (before ++ (other.key, v) :: after) = [v] :=
        valuesAt_eq_singleton List.perm_middle hnot
      rw [hnone, hgiven]
      exact (Feature.told_nil_iff h).symm
    · rw [valuesAt_insert_ne (mt Feature.key_injective.eq_iff.mp hsame)]

/-- So it is read as it was, if at all. -/
theorem Respelling.readDescriptor_iff (h : Respelling entries entries') :
    Json.readDescriptor (.fields entries') = .ok d ↔
      Json.readDescriptor (.fields entries) = .ok d := by
  rw [Json.readDescriptor_eq_ok_iff, Json.readDescriptor_eq_ok_iff]
  exact forall_congr' h.told_iff

end Respelling

/-- **Descriptors are written faithfully, and read alike from all their spellings.** A descriptor is
read back from the object that it is written as. So no property list and an empty one are read back
as two, although there are no properties in either. And any object may be respelt in any number of
ways: it is read as the same descriptor, or as none if it was none. -/
theorem readDescriptor_faithful :
    (∀ d : Descriptor, Json.readDescriptor d.toValue = .ok d) ∧
    (∀ d d' : Descriptor, d.properties = none → d'.properties = some [] →
      d.propertyList = [] ∧ d'.propertyList = [] ∧
        Json.readDescriptor d.toValue ≠ Json.readDescriptor d'.toValue) ∧
    ∀ entries entries' d, Relation.ReflTransGen Respelling entries entries' →
      (Json.readDescriptor (.fields entries') = .ok d ↔
        Json.readDescriptor (.fields entries) = .ok d) := by
  refine ⟨readDescriptor_toValue, fun d d' hnone hempty => ⟨?_, ?_, fun heq => ?_⟩,
    fun entries entries' d h => ?_⟩
  · rw [Descriptor.propertyList, hnone]
    rfl
  · rw [Descriptor.propertyList, hempty]
    rfl
  · rw [readDescriptor_toValue, readDescriptor_toValue, Except.ok.injEq] at heq
    rw [heq, hempty] at hnone
    cases hnone
  · induction h with
    | refl => rfl
    | tail _ hstep ih => exact hstep.readDescriptor_iff.trans ih

/-- The object of an interface, with its kind in the form of a record. -/
def bareInterface : List (String × Value) :=
  [("kind", .record [(.text "interface", .null)]), ("name", .text "a.B")]

/-- The same object with its name first, a note, an empty list of methods and no properties. -/
def respeltInterface : List (String × Value) :=
  [("name", .text "a.B"), ("note", .int 1), ("methods", .list []), ("properties", .null),
    ("kind", .record [(.text "interface", .null)])]

/-- The respelt object is read as the bare one, and with an empty list of properties it would not
be. -/
theorem readDescriptor_faithful_interface :
    Relation.ReflTransGen Respelling bareInterface respeltInterface ∧
      Json.readDescriptor (.fields respeltInterface) =
        .ok ⟨"a.B", .interfaceKind, none, [], none⟩ ∧
      Json.readDescriptor (Descriptor.toValue ⟨"a.B", .interfaceKind, none, [], none⟩) ≠
        Json.readDescriptor (Descriptor.toValue ⟨"a.B", .interfaceKind, none, [], some []⟩) := by
  have hname : Respelling bareInterface
      [("name", .text "a.B"), ("kind", .record [(.text "interface", .null)])] :=
    .reorder (.swap ..)
  have hproperties : Respelling
      [("name", .text "a.B"), ("kind", .record [(.text "interface", .null)])]
      [("name", .text "a.B"), ("properties", .null),
        ("kind", .record [(.text "interface", .null)])] :=
    @Respelling.spellOut [("name", .text "a.B")] [("kind", .record [(.text "interface", .null)])]
      .properties .null rfl (by simp [Feature.key])
  have hmethods : Respelling
      [("name", .text "a.B"), ("properties", .null),
        ("kind", .record [(.text "interface", .null)])]
      [("name", .text "a.B"), ("methods", .list []), ("properties", .null),
        ("kind", .record [(.text "interface", .null)])] :=
    @Respelling.spellOut [("name", .text "a.B")]
      [("properties", .null), ("kind", .record [(.text "interface", .null)])]
      .methods (.list []) rfl (by simp [Feature.key])
  have hnote : Respelling
      [("name", .text "a.B"), ("methods", .list []), ("properties", .null),
        ("kind", .record [(.text "interface", .null)])] respeltInterface :=
    .beside [("name", .text "a.B")] _ (.int 1) fun feature => by cases feature <;> decide
  have hall : Relation.ReflTransGen Respelling bareInterface respeltInterface :=
    .tail (.tail (.tail (.single hname) hproperties) hmethods) hnote
  obtain ⟨-, hdistinct, hrespelt⟩ := readDescriptor_faithful
  exact ⟨hall, (hrespelt _ _ _ hall).mpr rfl, (hdistinct _ _ rfl rfl).2.2⟩

end TwinTypes
