import TwinTypes.Document.MappedTypes

/-!
# An index as a list of mapped types

The document of an index is one of the documents that lists of pairs are read from: each side of a
pair is a record of a kind and a name, and the name is taken. `parsePairs_text` says so of the text
of an index, as long as the text is read as the value that it was printed from.

That a text is read as the value that it was printed from is a matter of the notation alone, and is
assumed here wherever it is needed (`TwinTypes.Yaml.ReadsBack`). For values that are given it can be
computed: such a value is a tree of records, lists and texts, and so is what is read, and whether
two such trees are the same is decided by `TwinTypes.Value.agrees`.
-/

namespace TwinTypes

/-! ### Trees of records, lists and texts -/

namespace Value

mutual

/-- Whether two values are the same tree of records, lists and texts. -/
def agrees : Value → Value → Bool
  | text a, w => (match w with | text b => a == b | _ => false)
  | list as, w => (match w with | list bs => agreesItems as bs | _ => false)
  | record as, w => (match w with | record bs => agreesFields as bs | _ => false)
  | _, _ => false

/-- Whether two lists hold the same trees. -/
def agreesItems : List Value → List Value → Bool
  | [], bs => bs.isEmpty
  | a :: as, bs => (match bs with | b :: bs => agrees a b && agreesItems as bs | [] => false)

/-- Whether two records have the same fields in the same order. -/
def agreesFields : List (Value × Value) → List (Value × Value) → Bool
  | [], bs => bs.isEmpty
  | f :: fs, bs => (match bs with | g :: gs => agreesField f g && agreesFields fs gs | [] => false)

/-- Whether two fields have the same key and the same value. -/
def agreesField : Value × Value → Value × Value → Bool
  | (k, v), g => agrees k g.1 && agrees v g.2

end

mutual

/-- **What agrees is the same.** -/
theorem eq_of_agrees : ∀ {a b : Value}, agrees a b = true → a = b
  | text a, b, h => by
    cases b <;> simp [agrees] at h
    rw [h]
  | list as, b, h => by
    cases b <;> simp [agrees] at h
    rw [eq_of_agreesItems h]
  | record as, b, h => by
    cases b <;> simp [agrees] at h
    rw [eq_of_agreesFields h]
  | null, _, h | bool _, _, h | int _, _, h | float _, _, h | tagged _ _, _, h => by
    simp [agrees] at h

theorem eq_of_agreesItems : ∀ {as bs : List Value}, agreesItems as bs = true → as = bs
  | [], [], _ => rfl
  | [], _ :: _, h | _ :: _, [], h => by simp [agreesItems] at h
  | a :: as, b :: bs, h => by
    rw [agreesItems, Bool.and_eq_true] at h
    rw [eq_of_agrees h.1, eq_of_agreesItems h.2]

theorem eq_of_agreesFields : ∀ {fs gs : List (Value × Value)}, agreesFields fs gs = true → fs = gs
  | [], [], _ => rfl
  | [], _ :: _, h | _ :: _, [], h => by simp [agreesFields] at h
  | f :: fs, g :: gs, h => by
    rw [agreesFields, Bool.and_eq_true] at h
    rw [eq_of_agreesField h.1, eq_of_agreesFields h.2]

theorem eq_of_agreesField : ∀ {f g : Value × Value}, agreesField f g = true → f = g
  | (k, v), (k', v'), h => by
    rw [agreesField, Bool.and_eq_true] at h
    rw [eq_of_agrees h.1, eq_of_agrees h.2]

end

end Value

/-- What a text is read as can be computed where it is a tree of records, lists and texts. -/
theorem Yaml.parseValue_of_agrees {text : String} {v : Value}
    (h : (match Yaml.parseValue text with
      | .ok read => read.agrees v
      | .error _ => false) = true) : Yaml.parseValue text = .ok v := by
  split at h
  · rename_i read hread
    rw [hread, Value.eq_of_agrees h]
  · cases h

/-- **A value reads back**: its text is read as the same value. -/
def Yaml.ReadsBack (v : Value) : Prop :=
  Yaml.parseValue (Yaml.print v) = .ok v

/-- Whether a tree of records, lists and texts reads back can be computed. -/
theorem Yaml.readsBack_of_agrees {v : Value}
    (h : (match Yaml.parseValue (Yaml.print v) with
      | .ok read => read.agrees v
      | .error _ => false) = true) : Yaml.ReadsBack v :=
  Yaml.parseValue_of_agrees h

/-! ### The pairs of an index -/

theorem Kind.ofKeyword_keyword (kind : Kind) : Kind.ofKeyword kind.keyword = some kind := by
  cases kind <;> rfl

/-- A record of a kind and a name gives the name. -/
theorem Side.read_toValue (info : TypeInfo) : Side.read info.toValue = .ok info.name := by
  have htag : Side.hasTag info.toValue = false := by
    simp [TypeInfo.toValue, Kind.toValue, Value.fields, Side.hasTag, Side.anyFieldTagged,
      Side.fieldTagged]
  have hinfo : Side.typeInfoOf info.toValue = some info := by
    simp [TypeInfo.toValue, Kind.toValue, Value.fields, Side.typeInfoOf, Side.readEntries,
      Side.keyOf, Side.kindOf, Side.nameOf, Kind.ofKeyword_keyword]
  have hname : Side.nameOf info.toValue = none := rfl
  rw [Side.read, htag, hname, hinfo]
  rfl

/-- A record of two sides gives their names. -/
theorem Yaml.readPair_fields {kotlin java : Value} {pair : MappingPair}
    (hkotlin : Side.read kotlin = .ok pair.kotlin) (hjava : Side.read java = .ok pair.java) :
    Yaml.readPair (.fields [("kotlin", kotlin), ("java", java)]) = .ok pair := by
  simp [Yaml.readPair, Value.fields, Value.untagged, RecordShape.readNamed, pairShape,
    RecordShape.readEntry, RecordShape.finish, RecordShape.missing, Json.readKey, Json.readText,
    hkotlin, hjava, bind, Except.bind, pure, Except.pure]

/-- An entry of an index gives its two names. -/
theorem Yaml.readPair_toValue (e : IndexEntry) : Yaml.readPair e.toValue = .ok e.pair :=
  Yaml.readPair_fields (Side.read_toValue e.kotlin) (Side.read_toValue e.java)

theorem Yaml.mapM_readPair_toValue (entries : List IndexEntry) :
    (entries.map IndexEntry.toValue).mapM Yaml.readPair = .ok (entries.map IndexEntry.pair) := by
  induction entries with
  | nil => rfl
  | cons e rest ih =>
    rw [List.map_cons, List.mapM_cons, Yaml.readPair_toValue, ih]
    rfl

/-- **The document of an index gives the pairs of the index**, in order. -/
theorem pairsOfValue_toValue (index : MappingIndex) :
    pairsOfValue index.toValue = .ok index.pairs := by
  have hlist : pairList index.toValue = .ok (.list (index.entries.map IndexEntry.toValue)) := by
    simp [pairList, MappingIndex.toValue, Value.fields, Value.field?, Value.same]
  have hpairs : Yaml.readPairs (.list (index.entries.map IndexEntry.toValue)) = .ok index.pairs :=
    Yaml.mapM_readPair_toValue index.entries
  rw [pairsOfValue, hlist]
  simp only [hpairs]

/-- **The text of an index gives its pairs**, if it is read as the value that it was printed
from. -/
theorem parsePairs_text {index : MappingIndex} (h : Yaml.ReadsBack index.toValue) :
    parsePairs index.text = .ok index.pairs := by
  have hread : Yaml.parseValue index.text = .ok index.toValue := h
  rw [parsePairs, hread]
  exact pairsOfValue_toValue index

end TwinTypes
