import Mathlib.Data.List.Forall2
import TwinTypes.Proofs.Document.ReadsBack
import TwinTypes.Proofs.Document.Records
import TwinTypes.Run.Load

/-!
# The spellings of a mapped-types document

A list of pairs can be spelt in many ways: bare or under `mappings`, each side of a pair as a name
or as a record of a kind and a name, the fields of every record in any order and with others beside
them. `TwinTypes.Value.Lists`, `TwinTypes.MappingPair.Spells` and `TwinTypes.Side.Spells` say what
the spellings are, and `pairsFrom_spelled` that all of them are read alike, and that a single item
with a fault makes an error of the whole document.

What carries both halves is that a record is read by looking its keys up: it gives something if and
only if it gives a single value to each key that it must have, and these can be read
(`readEntries_eq_some_iff` for the sides, `readPair_eq_ok_iff` for the items). So neither the order
of the fields nor those beside them say anything, and what is missing or unreadable is an error
wherever it stands.
-/

namespace TwinTypes

/-! ### What a record gives to a key -/

/-- **What a record gives to a key**, given what was found before: nothing more than that, or else a
single value that stands for something. -/
def Gives {α : Type} (reads : Value → α → Prop) (found : Option α) (values : List Value) (a : α) :
    Prop :=
  match found with
  | some b => b = a ∧ values = []
  | none => ∃ v, values = [v] ∧ reads v a

section Gives

variable {α : Type} {reads : Value → α → Prop} {found : Option α} {v : Value} {values : List Value}
  {a : α}

theorem gives_nil : Gives reads found [] a ↔ found = some a := by
  cases found <;> simp [Gives]

/-- Nothing can be given twice. -/
theorem gives_cons : Gives reads found (v :: values) a ↔
    found = none ∧ reads v a ∧ values = [] := by
  cases found with
  | none =>
    constructor
    · rintro ⟨w, hw, hreads⟩
      cases hw
      exact ⟨rfl, hreads, rfl⟩
    · rintro ⟨-, hreads, rfl⟩
      exact ⟨v, rfl, hreads⟩
  | some b => simp [Gives]

end Gives

/-! ### Sides -/

namespace Side

/-- Where all keys are texts a record has a tag if the value of one of its fields has. -/
theorem hasTag_fields (entries : List (String × Value)) :
    hasTag (.fields entries) = entries.any fun e => hasTag e.2 := by
  rw [Value.fields, hasTag]
  induction entries with
  | nil => rfl
  | cons e rest ih => simp [anyFieldTagged, fieldTagged, hasTag, ih]

/-- **A record gives a type** if it gives a single kind and a single name. -/
theorem readEntries_eq_some_iff {kind : Option Kind} {name : Option String}
    {entries : List (String × Value)} {info : TypeInfo} :
    readEntries kind name (entries.map fun e => (.text e.1, e.2)) = some info ↔
      Gives (fun v a => kindOf v = some a) kind (valuesAt "kind" entries) info.kind ∧
        Gives (fun v a => nameOf v = some a) name (valuesAt "name" entries) info.name := by
  induction entries generalizing kind name with
  | nil =>
    rw [List.map_nil, readEntries, valuesAt_nil, valuesAt_nil, gives_nil, gives_nil]
    obtain ⟨_, _⟩ := info
    cases kind <;> cases name <;> simp
  | cons e rest ih =>
    obtain ⟨key, value⟩ := e
    rw [List.map_cons, readEntries]
    by_cases hkind : key = "kind"
    · subst hkind
      rw [valuesAt_cons_self, valuesAt_cons_ne (by decide), gives_cons]
      cases kind with
      | some k => simp [keyOf]
      | none =>
        cases hread : kindOf value with
        | none => simp [keyOf]
        | some k => simp [keyOf, ih, Gives]
    · by_cases hname : key = "name"
      · subst hname
        rw [valuesAt_cons_ne (by decide), valuesAt_cons_self, gives_cons]
        cases name with
        | some n => simp [keyOf]
        | none =>
          cases hread : nameOf value with
          | none => simp [keyOf]
          | some n => simp [keyOf, ih, Gives]
      · rw [valuesAt_cons_ne hkind, valuesAt_cons_ne hname]
        simp [keyOf, hkind, hname, ih]

end Side

/-! ### Items -/

/-- The reading of a side as a relation. -/
def Side.Names (v : Value) (name : String) : Prop :=
  Side.read v = .ok name

namespace Yaml

section Items

variable {key : String} {v : Value} {entries : List (String × Value)} {pair : MappingPair}

theorem changes_pairShape {change : MappingPair → MappingPair} :
    pairShape.Changes key v change ↔
      (key = "kotlin" ∧ ∃ name, Side.Names v name ∧ change = fun r => { r with kotlin := name }) ∨
        (key = "java" ∧ ∃ name, Side.Names v name ∧ change = fun r => { r with java := name }) := by
  simp only [RecordShape.Changes, pairShape, List.exists_mem_cons_iff, change_eq_ok, Side.Names,
    eq_comm (b := key)]
  simp

theorem governs_kotlin : pairShape.Governs "kotlin" Side.Names MappingPair.kotlin := by
  intro name v change hchange r
  rcases changes_pairShape.mp hchange with ⟨rfl, side, hside, rfl⟩ | ⟨rfl, side, hside, rfl⟩
  · simpa using hside
  · simp

theorem governs_java : pairShape.Governs "java" Side.Names MappingPair.java := by
  intro name v change hchange r
  rcases changes_pairShape.mp hchange with ⟨rfl, side, hside, rfl⟩ | ⟨rfl, side, hside, rfl⟩
  · simp
  · simpa using hside

theorem nodup_pairShape : pairShape.names.Nodup := by
  simp [RecordShape.names, pairShape]

theorem source_frank : Json.source.Frank where
  fail _ _ := rfl
  skip _ := rfl

/-- An item is read field by field. -/
theorem readPair_fields_eq (entries : List (String × Value)) : readPair (.fields entries) =
    pairShape.readRest Json.source (.fields entries) ⟨default, []⟩ entries := by
  simp only [readPair, Value.fields, Value.untagged]
  refine RecordShape.readNamed_fields ?_
  exact fun _ => rfl

/-- What is read of an item gives both of its keys a single value. -/
theorem names_of_readPair (h : readPair (.fields entries) = .ok pair) :
    (∃ v, valuesAt "kotlin" entries = [v] ∧ Side.Names v pair.kotlin) ∧
      ∃ v, valuesAt "java" entries = [v] ∧ Side.Names v pair.java := by
  rw [readPair_fields_eq] at h
  have hkotlin : ∃ f ∈ pairShape.fields, f.name = "kotlin" ∧ f.required = true := by
    simp [pairShape]
  have hjava : ∃ f ∈ pairShape.fields, f.name = "java" ∧ f.required = true := by
    simp [pairShape]
  exact ⟨(governs_kotlin.of_readRest hkotlin source_frank nodup_pairShape h).resolve_left (by simp),
    (governs_java.of_readRest hjava source_frank nodup_pairShape h).resolve_left (by simp)⟩

/-- **An item gives a pair** if it gives a single value to each of the two keys, and these name the
types of the pair. -/
theorem readPair_eq_ok_iff :
    readPair (.fields entries) = .ok pair ↔
      (∃ v, valuesAt "kotlin" entries = [v] ∧ Side.Names v pair.kotlin) ∧
        ∃ v, valuesAt "java" entries = [v] ∧ Side.Names v pair.java := by
  refine ⟨names_of_readPair, ?_⟩
  rintro ⟨⟨v, hv, hnames⟩, w, hw, hnames'⟩
  obtain ⟨r, hr⟩ : ∃ r, readPair (.fields entries) = .ok r := by
    rw [readPair_fields_eq, RecordShape.readRest_isOk_iff source_frank nodup_pairShape]
    refine ⟨nofun, fun f hf => ?_⟩
    simp only [pairShape, List.mem_cons, List.not_mem_nil, or_false] at hf
    rcases hf with rfl | rfl
    · exact .inr ⟨by simp, v, hv, _, changes_pairShape.mpr (.inl ⟨rfl, _, hnames, rfl⟩)⟩
    · exact .inr ⟨by simp, w, hw, _, changes_pairShape.mpr (.inr ⟨rfl, _, hnames', rfl⟩)⟩
  obtain ⟨⟨v', hv', hread⟩, w', hw', hread'⟩ := names_of_readPair hr
  obtain rfl : v = v' := List.singleton_inj.mp (hv.symm.trans hv')
  obtain rfl : w = w' := List.singleton_inj.mp (hw.symm.trans hw')
  have hkotlin : r.kotlin = pair.kotlin := Except.ok.inj (hread.symm.trans hnames)
  have hjava : r.java = pair.java := Except.ok.inj (hread'.symm.trans hnames')
  obtain ⟨kotlin, java⟩ := r
  obtain ⟨_, _⟩ := pair
  cases hkotlin
  cases hjava
  exact hr

end Items

end Yaml

/-! ### The spellings -/

/-- Fields that say nothing to who looks for the keys given: they stand under other keys, and there
is no tag in their values. -/
def Beside (keys : List String) (extras : List (String × Value)) : Prop :=
  ∀ e ∈ extras, e.1 ∉ keys ∧ Side.hasTag e.2 = false

/-- **The spellings of a side**, given the name of its type. -/
inductive Side.Spells (name : String) : Value → Prop where
  /-- The name itself. -/
  | bare : Side.Spells name (.text name)
  /-- A record of a kind and the name. -/
  | declared (kind : Kind) {extras entries : List (String × Value)}
      (hperm : entries.Perm (("kind", kind.toValue) :: ("name", .text name) :: extras))
      (hextras : Beside ["kind", "name"] extras) : Side.Spells name (.fields entries)

/-- **The spellings of a pair** as an item of a list. -/
inductive MappingPair.Spells (pair : MappingPair) : Value → Prop where
  /-- A record of the two sides. -/
  | item {kotlin java : Value} {extras entries : List (String × Value)}
      (hkotlin : Side.Spells pair.kotlin kotlin) (hjava : Side.Spells pair.java java)
      (hperm : entries.Perm (("kotlin", kotlin) :: ("java", java) :: extras))
      (hextras : Beside ["kotlin", "java"] extras) : MappingPair.Spells pair (.fields entries)

/-- **The two shapes of a document** that lists some items. -/
inductive Value.Lists (items : List Value) : Value → Prop where
  /-- The list itself. -/
  | bare : Value.Lists items (.list items)
  /-- A record that has the list under its key. -/
  | wrapped {extras entries : List (String × Value)}
      (hperm : entries.Perm (("mappings", .list items) :: extras))
      (hextras : Beside ["mappings"] extras) : Value.Lists items (.fields entries)

/-- The faults of a side. -/
inductive Side.Faulty : Value → Prop where
  /-- A whole number. -/
  | int (n : Int) : Side.Faulty (.int n)
  /-- A floating-point number. -/
  | float (x : Binary64) : Side.Faulty (.float x)
  /-- A truth value. -/
  | bool (b : Bool) : Side.Faulty (.bool b)
  /-- Nothing. -/
  | null : Side.Faulty .null
  /-- A record without one of the two keys. -/
  | lacking {key : String} (hkey : key ∈ ["kind", "name"]) {entries : List (String × Value)}
      (h : ∀ e ∈ entries, e.1 ≠ key) : Side.Faulty (.fields entries)
  /-- A record whose kind is a text that names no kind. -/
  | unknownKind {word : String} (hword : word ∉ ["class", "interface"])
      {entries : List (String × Value)} (h : ("kind", .text word) ∈ entries) :
      Side.Faulty (.fields entries)

/-- The faults of an item. -/
inductive MappingPair.Faulty : Value → Prop where
  /-- One of the two keys is missing. -/
  | lacking {key : String} (hkey : key ∈ ["kotlin", "java"]) {entries : List (String × Value)}
      (h : ∀ e ∈ entries, e.1 ≠ key) : MappingPair.Faulty (.fields entries)
  /-- One of the sides has a fault. -/
  | side {key : String} (hkey : key ∈ ["kotlin", "java"]) {v : Value} (hv : Side.Faulty v)
      {entries : List (String × Value)} (h : (key, v) ∈ entries) :
      MappingPair.Faulty (.fields entries)

/-! ### Reading the spellings -/

theorem Beside.ne {keys : List String} {extras : List (String × Value)} (h : Beside keys extras)
    (key : String) (hkey : key ∈ keys) : ∀ e ∈ extras, e.1 ≠ key := by
  rintro e he rfl
  exact (h e he).1 hkey

theorem beside_nil (keys : List String) : Beside keys [] :=
  fun _ he => by cases he

theorem beside_singleton {keys : List String} {key : String} {v : Value} (hkey : key ∉ keys)
    (htag : Side.hasTag v = false) : Beside keys [(key, v)] := by
  rintro e he
  rw [List.mem_singleton] at he
  subst he
  exact ⟨hkey, htag⟩

/-- **Every spelling of a side gives its name.** -/
theorem Side.Spells.names {name : String} {v : Value} (h : Side.Spells name v) :
    Side.Names v name := by
  cases h with
  | bare => simp [Side.Names, Side.read, Side.hasTag, Side.nameOf]
  | @declared kind extras entries hperm hextras =>
    have htag : Side.hasTag (.fields entries) = false := by
      rw [Side.hasTag_fields, hperm.any_eq, List.any_cons, List.any_cons]
      have : (extras.any fun e => Side.hasTag e.2) = false :=
        List.any_eq_false.mpr fun e he => by simp [(hextras e he).2]
      simp [this, Kind.toValue, Side.hasTag]
    have hkind : valuesAt "kind" entries = [kind.toValue] := by
      refine valuesAt_eq_singleton hperm ?_
      simpa using hextras.ne "kind" (by decide)
    have hname : valuesAt "name" entries = [.text name] := by
      refine valuesAt_eq_singleton (hperm.trans (.swap ..)) ?_
      simpa using hextras.ne "name" (by decide)
    have hinfo : Side.typeInfoOf (.fields entries) = some ⟨kind, name⟩ := by
      refine Side.readEntries_eq_some_iff.mpr ⟨⟨_, hkind, ?_⟩, _, hname, rfl⟩
      exact Kind.ofKeyword_keyword kind
    have hbare : Side.nameOf (.fields entries) = none := rfl
    rw [Side.Names, Side.read, htag, hbare, hinfo]
    rfl

theorem Kind.keyword_mem (kind : Kind) : kind.keyword ∈ ["class", "interface"] := by
  cases kind <;> decide

/-- A side with a fault gives no name. -/
theorem Side.Faulty.not_names {v : Value} (h : Side.Faulty v) (name : String) :
    ¬ Side.Names v name := by
  have hinfo : Side.nameOf v = none ∧ Side.typeInfoOf v = none := by
    cases h with
    | int | float | bool | null => exact ⟨rfl, rfl⟩
    | @lacking key hkey entries h =>
      refine ⟨rfl, Option.eq_none_iff_forall_ne_some.mpr fun info hinfo => ?_⟩
      obtain ⟨⟨_, hkind, -⟩, _, hname, -⟩ := Side.readEntries_eq_some_iff.mp hinfo
      have hnone := valuesAt_eq_nil h
      simp only [List.mem_cons, List.not_mem_nil, or_false] at hkey
      rcases hkey with rfl | rfl
      · simp [hnone] at hkind
      · simp [hnone] at hname
    | @unknownKind word hword entries h =>
      refine ⟨rfl, Option.eq_none_iff_forall_ne_some.mpr fun info hinfo => ?_⟩
      obtain ⟨⟨v, hkind, hof⟩, -⟩ := Side.readEntries_eq_some_iff.mp hinfo
      have hv : v = .text word := by
        have hmem := mem_valuesAt.mpr h
        rw [hkind, List.mem_singleton] at hmem
        exact hmem.symm
      subst hv
      have hkeyword : info.kind.keyword = word := by simpa using List.find?_some hof
      rw [← hkeyword] at hword
      exact hword (Kind.keyword_mem info.kind)
  rw [Side.Names, Side.read, hinfo.1, hinfo.2]
  split <;> simp

/-- **Every spelling of a pair gives the pair.** -/
theorem MappingPair.Spells.readPair {pair : MappingPair} {item : Value} (h : pair.Spells item) :
    Yaml.readPair item = .ok pair := by
  obtain @⟨kotlin, java, extras, entries, hkotlin, hjava, hperm, hextras⟩ := h
  refine Yaml.readPair_eq_ok_iff.mpr ⟨⟨kotlin, ?_, hkotlin.names⟩, java, ?_, hjava.names⟩
  · refine valuesAt_eq_singleton hperm ?_
    simpa using hextras.ne "kotlin" (by decide)
  · refine valuesAt_eq_singleton (hperm.trans (.swap ..)) ?_
    simpa using hextras.ne "java" (by decide)

/-- An item with a fault gives no pair. -/
theorem MappingPair.Faulty.readPair_ne {item : Value} (h : MappingPair.Faulty item)
    (pair : MappingPair) : Yaml.readPair item ≠ .ok pair := by
  intro hread
  cases h with
  | @lacking key hkey entries h =>
    obtain ⟨⟨_, hkotlin, -⟩, _, hjava, -⟩ := Yaml.readPair_eq_ok_iff.mp hread
    have hnone := valuesAt_eq_nil h
    simp only [List.mem_cons, List.not_mem_nil, or_false] at hkey
    rcases hkey with rfl | rfl
    · simp [hnone] at hkotlin
    · simp [hnone] at hjava
  | @side key hkey v hv entries h =>
    obtain ⟨⟨_, hkotlin, hnamesK⟩, _, hjava, hnamesJ⟩ := Yaml.readPair_eq_ok_iff.mp hread
    have hmem := mem_valuesAt.mpr h
    simp only [List.mem_cons, List.not_mem_nil, or_false] at hkey
    rcases hkey with rfl | rfl
    · rw [hkotlin, List.mem_singleton] at hmem
      exact hv.not_names _ (hmem ▸ hnamesK)
    · rw [hjava, List.mem_singleton] at hmem
      exact hv.not_names _ (hmem ▸ hnamesJ)

/-- The value of a field of a record whose keys are texts is the first that it gives to the key. -/
theorem Value.field?_fields (entries : List (String × Value)) (key : String) :
    (Value.fields entries).field? key = (valuesAt key entries).head? := by
  rw [Value.fields, Value.field?]
  induction entries with
  | nil => rfl
  | cons e rest ih =>
    obtain ⟨other, v⟩ := e
    by_cases h : other = key
    · subst h
      simp [valuesAt_cons_self, Value.same]
    · rw [valuesAt_cons_ne h, ← ih]
      simp [Value.same, h]

/-- **In both shapes the list is found.** -/
theorem Value.Lists.pairList {items : List Value} {v : Value} (h : Value.Lists items v) :
    pairList v = .ok (.list items) := by
  cases h with
  | bare => rfl
  | @wrapped extras entries hperm hextras =>
    have hfield : (Value.fields entries).field? "mappings" = some (.list items) := by
      rw [Value.field?_fields, valuesAt_eq_singleton hperm (hextras.ne "mappings" (by decide))]
      rfl
    rw [Value.fields] at hfield ⊢
    simp only [TwinTypes.pairList, hfield]

theorem Yaml.mapM_readPair_of_spells {pairs : List MappingPair} {items : List Value}
    (h : List.Forall₂ MappingPair.Spells pairs items) : items.mapM Yaml.readPair = .ok pairs := by
  induction h with
  | nil => rfl
  | cons hpair _ ih =>
    rw [List.mapM_cons, hpair.readPair, ih]
    rfl

/-- A list is read only if each of its items is. -/
theorem Yaml.exists_readPair_of_mem {items : List Value} {pairs : List MappingPair}
    (h : items.mapM Yaml.readPair = .ok pairs) {item : Value} (hitem : item ∈ items) :
    ∃ pair, Yaml.readPair item = .ok pair := by
  induction items generalizing pairs with
  | nil => cases hitem
  | cons first rest ih =>
    rw [List.mapM_cons] at h
    cases hfirst : Yaml.readPair first with
    | error cause => simp [hfirst, bind, Except.bind] at h
    | ok pair =>
      cases hrest : rest.mapM Yaml.readPair with
      | error cause => simp [hfirst, hrest, bind, Except.bind] at h
      | ok others =>
        rcases List.mem_cons.mp hitem with rfl | hmem
        · exact ⟨pair, hfirst⟩
        · exact ih hrest hmem

/-- **The spellings of a mapped-types document are read alike, and one fault is an error of all of
it.** -/
theorem pairsFrom_spelled {origin text : String} {v : Value} {items : List Value}
    (hparse : Yaml.parseValue text = .ok v) (hlist : Value.Lists items v) :
    (∀ pairs, List.Forall₂ MappingPair.Spells pairs items → pairsFrom origin text = .ok pairs) ∧
      ((∃ item ∈ items, MappingPair.Faulty item) →
        ∃ message, pairsFrom origin text = .error (.pairs origin message)) := by
  have hread : pairsFrom origin text = match items.mapM Yaml.readPair with
      | .ok pairs => .ok pairs
      | .error cause => .error (.pairs origin (cause.message .general)) := by
    simp only [pairsFrom, parsePairs, hparse, pairsOfValue, hlist.pairList, Yaml.readPairs,
      Value.untagged]
    cases items.mapM Yaml.readPair <;> rfl
  rw [hread]
  constructor
  · intro pairs hpairs
    rw [Yaml.mapM_readPair_of_spells hpairs]
  · rintro ⟨item, hitem, hfaulty⟩
    cases hmap : items.mapM Yaml.readPair with
    | error cause => exact ⟨_, rfl⟩
    | ok pairs =>
      obtain ⟨pair, hpair⟩ := Yaml.exists_readPair_of_mem hmap hitem
      exact absurd hpair (hfaulty.readPair_ne pair)

/-- A document in which the spellings are mixed. -/
def mixedText : String :=
  "since: v2
mappings:
- kotlin: kotlin.Any
  java:
    name: java.lang.Object
    kind: class
- note: same
  java: java.util.List
  kotlin: kotlin.List
"

/-- Its items. -/
def mixedItems : List Value :=
  [.fields [
      ("kotlin", .text "kotlin.Any"),
      ("java", .fields [("name", .text "java.lang.Object"), ("kind", .text "class")])],
    .fields [
      ("note", .text "same"), ("java", .text "java.util.List"), ("kotlin", .text "kotlin.List")]]

/-- A document whose second item has a kind that there is not. -/
def faultyText : String :=
  "- kotlin: kotlin.Any
  java: java.lang.Object
- kotlin:
    kind: enum
    name: kotlin.Enum
  java: java.lang.Enum
"

/-- Its items. -/
def faultyItems : List Value :=
  [.fields [("kotlin", .text "kotlin.Any"), ("java", .text "java.lang.Object")],
    .fields [
      ("kotlin", .fields [("kind", .text "enum"), ("name", .text "kotlin.Enum")]),
      ("java", .text "java.lang.Enum")]]

/-- Mixed spellings are read, and one unknown kind is an error of the whole document. -/
theorem pairsFrom_spelled_mixed :
    pairsFrom "types.yaml" mixedText =
        .ok [⟨"kotlin.Any", "java.lang.Object"⟩, ⟨"kotlin.List", "java.util.List"⟩] ∧
      ∃ message, pairsFrom "types.yaml" faultyText = .error (.pairs "types.yaml" message) := by
  constructor
  · have hparse : Yaml.parseValue mixedText =
        .ok (.fields [("since", .text "v2"), ("mappings", .list mixedItems)]) :=
      Yaml.parseValue_of_agrees (by decide +kernel)
    have hlist : Value.Lists mixedItems
        (.fields [("since", .text "v2"), ("mappings", .list mixedItems)]) :=
      .wrapped (.swap ..) (beside_singleton (by decide) rfl)
    have hjava : Side.Spells "java.lang.Object" (.fields [
        ("name", .text "java.lang.Object"), ("kind", .text "class")]) :=
      .declared .classKind (.swap ..) (beside_nil _)
    have hfirst : MappingPair.Spells ⟨"kotlin.Any", "java.lang.Object"⟩ (.fields [
        ("kotlin", .text "kotlin.Any"),
        ("java", .fields [("name", .text "java.lang.Object"), ("kind", .text "class")])]) :=
      .item .bare hjava (.refl _) (beside_nil _)
    have hsecond : MappingPair.Spells ⟨"kotlin.List", "java.util.List"⟩ (.fields [
        ("note", .text "same"), ("java", .text "java.util.List"),
        ("kotlin", .text "kotlin.List")]) :=
      .item .bare .bare (List.reverse_perm _).symm (beside_singleton (by decide) rfl)
    exact (pairsFrom_spelled hparse hlist).1 _ (.cons hfirst (.cons hsecond .nil))
  · have hparse : Yaml.parseValue faultyText = .ok (.list faultyItems) :=
      Yaml.parseValue_of_agrees (by decide +kernel)
    have hkind : Side.Faulty (.fields [("kind", .text "enum"), ("name", .text "kotlin.Enum")]) :=
      .unknownKind (by decide) (List.mem_cons_self ..)
    have hitem : MappingPair.Faulty (.fields [
        ("kotlin", .fields [("kind", .text "enum"), ("name", .text "kotlin.Enum")]),
        ("java", .text "java.lang.Enum")]) :=
      .side (by decide) hkind (List.mem_cons_self ..)
    exact (pairsFrom_spelled hparse .bare).2
      ⟨_, List.mem_cons_of_mem _ (List.mem_singleton_self _), hitem⟩

end TwinTypes
