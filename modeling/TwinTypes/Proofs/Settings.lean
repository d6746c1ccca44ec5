import TwinTypes.Proofs.Run.Reloading
import TwinTypes.Proofs.Toml.Strict

/-!
# What a config file sets

Settings are read with two strict records, one within the other, that start from the default
settings. Of the six settings three stand in the root of the table and three in the logging table; a
`TwinTypes.Setting` names one of them, and what is said here is said of all six at once. A table is
read exactly if it has no key but those that there are and gives each setting a value of its kind
(`TwinTypes.SetsOnly`), and then each setting is the value that it is given, or else the one that it
has in `Config.default`.

The logging table is a record within a record: `TwinTypes.reads_logging_iff` turns the reading of
the entry `logging` into the reading of that table, and the three settings of the inner record are
settings of the outer one by way of its component.
-/

namespace TwinTypes

open TwinTypes.Toml

/-! ### The six settings -/

/-- What can be set. -/
inductive Setting where
  /-- The mapped-types document. -/
  | mappedTypes
  /-- The directory of the pairs. -/
  | outputDir
  /-- The index file. -/
  | indexFile
  /-- The least level that is reported. -/
  | level
  /-- Whether events are lines of JSON. -/
  | json
  /-- Whether events are reported. -/
  | stderr
  deriving DecidableEq, Repr

namespace Setting

/-- The key of a setting. -/
def key : Setting → String
  | mappedTypes => "mapped_types"
  | outputDir => "output_dir"
  | indexFile => "index_file"
  | level => "level"
  | json => "json"
  | stderr => "stderr"

/-- Whether a setting stands in the logging table. -/
def inLogging : Setting → Bool
  | mappedTypes | outputDir | indexFile => false
  | level | json | stderr => true

/-- The value that a setting has. -/
def valueIn : Setting → Config → Value
  | mappedTypes, c => .text c.mappedTypes
  | outputDir, c => .text c.outputDir
  | indexFile, c => .text c.indexFile
  | level, c => .text c.logging.level
  | json, c => .bool c.logging.json
  | stderr, c => .bool c.logging.stderr

/-- Whether a value is of the kind that a setting takes. -/
def Takes : Setting → Value → Prop
  | json, v | stderr, v => ∃ b, v = .bool b
  | _, v => ∃ s, v = .text s

end Setting

/-! ### What a table says of them -/

/-- A table has a table under a key. -/
def Toml.Table.Nests (t : Table) (key : String) (inner : Table) : Prop :=
  ∃ item, (key, item) ∈ t.entries ∧ item.table? = some inner

/-- What a table has under a key, if anything, is a table. -/
def Toml.Table.OnlyNests (t : Table) (key : String) : Prop :=
  ∀ item, (key, item) ∈ t.entries → ∃ inner, item.table? = some inner

/-- **A table gives a setting a value**, wherever among its entries. -/
def Setting.Given (s : Setting) (t : Table) (v : Value) : Prop :=
  if s.inLogging then ∃ inner, t.Nests "logging" inner ∧ (s.key, v) ∈ inner.values
  else (s.key, v) ∈ t.values

/-- **A table sets nothing but settings**, and each to a value of its kind. -/
structure SetsOnly (t : Table) : Prop where
  /-- The keys of the root. -/
  keys : ∀ e ∈ t.values, e.1 ∈ ["mapped_types", "output_dir", "index_file", "logging"]
  /-- The keys of the logging table. -/
  loggingKeys : ∀ inner, t.Nests "logging" inner →
    ∀ e ∈ inner.values, e.1 ∈ ["level", "json", "stderr"]
  /-- The values. -/
  values : ∀ s v, Setting.Given s t v → s.Takes v

/-! ### Reading one value -/

section Values

variable {v : Value} {expected : String}

theorem readText_eq_ok {s : String} : Toml.readText v expected = .ok s ↔ v = .text s := by
  cases v <;> simp [Toml.readText]

theorem readBool_eq_ok {b : Bool} : Toml.readBool v = .ok b ↔ v = .bool b := by
  cases v <;> simp [Toml.readBool]

end Values

/-! ### What an entry of either record does -/

section Entries

variable {key : String} {v : Value} {t inner : Table} {c : Config} {s : Setting}

theorem changes_loggingShape {change : Logging → Logging} : loggingShape.Changes key v change ↔
    (key = "level" ∧ ∃ x, v = .text x ∧ change = fun r => { r with level := x }) ∨
      (key = "json" ∧ ∃ b, v = .bool b ∧ change = fun r => { r with json := b }) ∨
        (key = "stderr" ∧ ∃ b, v = .bool b ∧ change = fun r => { r with stderr := b }) := by
  simp only [RecordShape.Changes, loggingShape, List.exists_mem_cons_iff, change_eq_ok,
    readText_eq_ok, readBool_eq_ok, eq_comm (b := key)]
  simp

theorem changes_configShape {change : Config → Config} : configShape.Changes key v change ↔
    (key = "mapped_types" ∧ ∃ x, v = .text x ∧ change = fun r => { r with mappedTypes := x }) ∨
      (key = "output_dir" ∧ ∃ x, v = .text x ∧ change = fun r => { r with outputDir := x }) ∨
        (key = "index_file" ∧ ∃ x, v = .text x ∧ change = fun r => { r with indexFile := x }) ∨
          (key = "logging" ∧ ∃ l, readRecord loggingShape v = .ok l ∧
            change = fun r => { r with logging := l }) := by
  simp only [RecordShape.Changes, configShape, List.exists_mem_cons_iff, change_eq_ok,
    readText_eq_ok, eq_comm (b := key)]
  simp

theorem exact_loggingShape : loggingShape.Exact where
  strict := rfl
  optional := by simp [loggingShape]
  names := by simp [RecordShape.names, loggingShape]

theorem exact_configShape : configShape.Exact where
  strict := rfl
  optional := by simp [configShape]
  names := by simp [RecordShape.names, configShape]

theorem key_mem_loggingShape (hs : s.inLogging = true) : s.key ∈ loggingShape.names := by
  cases s <;> simp_all [Setting.inLogging, Setting.key, RecordShape.names, loggingShape]

theorem key_mem_configShape (hs : s.inLogging = false) : s.key ∈ configShape.names := by
  cases s <;> simp_all [Setting.inLogging, Setting.key, RecordShape.names, configShape]

/-- **A setting of the logging table is governed by its key there**, whatever else is set. -/
theorem governs_loggingShape (hs : s.inLogging = true) (c : Config) :
    loggingShape.Governs s.key Eq fun l => s.valueIn { c with logging := l } := by
  intro name v change hchange r
  rcases changes_loggingShape.mp hchange with ⟨rfl, x, rfl, rfl⟩ | ⟨rfl, b, rfl, rfl⟩ |
    ⟨rfl, b, rfl, rfl⟩ <;> cases s <;> simp_all [Setting.inLogging, Setting.key, Setting.valueIn]

/-- **A setting of the root is governed by its key.** -/
theorem governs_configShape (hs : s.inLogging = false) :
    configShape.Governs s.key Eq s.valueIn := by
  intro name v change hchange r
  rcases changes_configShape.mp hchange with ⟨rfl, x, rfl, rfl⟩ | ⟨rfl, x, rfl, rfl⟩ |
    ⟨rfl, x, rfl, rfl⟩ | ⟨rfl, l, -, rfl⟩ <;>
      cases s <;> simp_all [Setting.inLogging, Setting.key, Setting.valueIn]

/-- **The logging settings are governed by their key**, and are what its record is read as. -/
theorem governs_logging : configShape.Governs "logging"
    (fun v l => readRecord loggingShape v = .ok l) Config.logging := by
  intro name v change hchange r
  rcases changes_configShape.mp hchange with ⟨rfl, x, rfl, rfl⟩ | ⟨rfl, x, rfl, rfl⟩ |
    ⟨rfl, x, rfl, rfl⟩ | ⟨rfl, l, hl, rfl⟩
  · simp
  · simp
  · simp
  · simpa using hl

theorem reads_loggingShape_iff (hs : s.inLogging = true) :
    loggingShape.Reads s.key v ↔ s.Takes v := by
  simp only [RecordShape.Reads, changes_loggingShape]
  cases s <;> simp_all [Setting.inLogging, Setting.key, Setting.Takes, exists_or]

theorem reads_configShape_iff (hs : s.inLogging = false) :
    configShape.Reads s.key v ↔ s.Takes v := by
  simp only [RecordShape.Reads, changes_configShape]
  cases s <;> simp_all [Setting.inLogging, Setting.key, Setting.Takes]

/-- **The logging table is read** exactly if each of its entries is. -/
theorem reads_logging_iff (h : inner.Distinct) : configShape.Reads "logging" inner.toValue ↔
    ∀ e ∈ inner.values, loggingShape.Reads e.1 e.2 := by
  rw [← exact_loggingShape.readRecord_isOk h]
  simp only [RecordShape.Reads, changes_configShape]
  simp

end Entries

/-! ### The logging table of a table -/

section Nested

variable {t inner : Table} {c : Config} {s : Setting} {v : Value} {key : String}

theorem Toml.Table.Nests.mem_values (h : t.Nests key inner) :
    (key, inner.toValue) ∈ t.values := by
  obtain ⟨item, hmem, htable⟩ := h
  rw [← Item.toValue_of_table? htable]
  exact List.mem_map.mpr ⟨_, hmem, rfl⟩

theorem Toml.Table.Nests.distinct (h : t.Nests key inner) (ht : t.Distinct) : inner.Distinct := by
  obtain ⟨item, hmem, htable⟩ := h
  have hitem : item.Distinct := (Table.distinct_iff.mp ht).2 _ hmem
  cases hitem with
  | value | tables => cases htable
  | inline h | table h =>
    cases htable
    exact h

theorem Toml.Table.Nests.unique (h : t.Nests key inner) (ht : t.Distinct) {other : Table}
    (hother : t.Nests key other) : other = inner := by
  obtain ⟨item, hmem, htable⟩ := h
  obtain ⟨item', hmem', htable'⟩ := hother
  rw [ht.eq_of_mem hmem' hmem, htable] at htable'
  exact (Option.some.inj htable').symm

/-- Where only a table may stand, the value under the key is that of a table. -/
theorem Toml.Table.OnlyNests.exists_nests (h : t.OnlyNests key) (hv : (key, v) ∈ t.values) :
    ∃ inner, t.Nests key inner ∧ v = inner.toValue := by
  obtain ⟨⟨key', item⟩, hmem, heq⟩ := List.mem_map.mp hv
  cases heq
  obtain ⟨inner, htable⟩ := h item hmem
  exact ⟨inner, ⟨item, hmem, htable⟩, Item.toValue_of_table? htable⟩

theorem Setting.given_of_nests (hs : s.inLogging = true) (ht : t.Distinct)
    (h : t.Nests "logging" inner) : s.Given t v ↔ (s.key, v) ∈ inner.values := by
  rw [Setting.Given, if_pos hs]
  constructor
  · rintro ⟨other, hother, hmem⟩
    rwa [← h.unique ht hother]
  · intro hmem
    exact ⟨inner, h, hmem⟩

theorem Setting.given_of_root (hs : s.inLogging = false) :
    s.Given t v ↔ (s.key, v) ∈ t.values := by
  rw [Setting.Given, if_neg (by simp [hs])]

theorem Setting.valueIn_congr (hs : s.inLogging = true) {c d : Config}
    (h : c.logging = d.logging) : s.valueIn c = s.valueIn d := by
  cases s <;> simp_all [Setting.inLogging, Setting.valueIn]

/-! ### The law -/

/-- **A table is read exactly if it sets nothing but settings.** -/
theorem ofValue_isOk_iff (ht : t.Distinct) (hlogging : t.OnlyNests "logging") :
    (∃ c, Config.ofValue t.toValue = .ok c) ↔ SetsOnly t := by
  refine (exact_configShape.readRecord_isOk ht).trans ⟨fun hreads => ?_, fun h => ?_⟩
  · have hinner : ∀ inner, t.Nests "logging" inner →
        ∀ e ∈ inner.values, loggingShape.Reads e.1 e.2 := fun inner hnests =>
      (reads_logging_iff (hnests.distinct ht)).mp (hreads _ hnests.mem_values)
    -- a key that can be read is one of the names of its record
    refine ⟨fun e he => (hreads e he).mem_names, fun inner hnests e he =>
      (hinner inner hnests e he).mem_names, fun s v hgiven => ?_⟩
    cases hs : s.inLogging with
    | false => exact (reads_configShape_iff hs).mp (hreads _ ((Setting.given_of_root hs).mp hgiven))
    | true =>
      rw [Setting.Given, if_pos hs] at hgiven
      obtain ⟨inner, hnests, hmem⟩ := hgiven
      exact (reads_loggingShape_iff hs).mp (hinner inner hnests _ hmem)
  · rintro ⟨key, v⟩ he
    have hroot : ∀ s : Setting, s.inLogging = false → key = s.key → configShape.Reads key v := by
      rintro s hs rfl
      exact (reads_configShape_iff hs).mpr (h.values s v ((Setting.given_of_root hs).mpr he))
    have hkey := h.keys _ he
    simp only [List.mem_cons, List.not_mem_nil, or_false] at hkey
    rcases hkey with hkey | hkey | hkey | rfl
    · exact hroot .mappedTypes rfl hkey
    · exact hroot .outputDir rfl hkey
    · exact hroot .indexFile rfl hkey
    · obtain ⟨inner, hnests, rfl⟩ := hlogging.exists_nests he
      refine (reads_logging_iff (hnests.distinct ht)).mpr ?_
      rintro ⟨key, v⟩ he
      have hnested : ∀ s : Setting, s.inLogging = true → key = s.key →
          loggingShape.Reads key v := by
        rintro s hs rfl
        exact (reads_loggingShape_iff hs).mpr
          (h.values s v ((Setting.given_of_nests hs ht hnests).mpr he))
      have hkey := h.loggingKeys inner hnests _ he
      simp only [List.mem_cons, List.not_mem_nil, or_false] at hkey
      rcases hkey with hkey | hkey | hkey
      · exact hnested .level rfl hkey
      · exact hnested .json rfl hkey
      · exact hnested .stderr rfl hkey

/-- **Each setting is the value that it is given, or else the default one.** -/
theorem valueIn_of_ofValue (ht : t.Distinct) (hlogging : t.OnlyNests "logging")
    (hread : Config.ofValue t.toValue = .ok c) (s : Setting) :
    (∀ v, s.Given t v → s.valueIn c = v) ∧
      ((∀ v, ¬s.Given t v) → s.valueIn c = s.valueIn .default) := by
  cases hs : s.inLogging with
  | false =>
    simp only [Setting.given_of_root hs]
    obtain ⟨hgiven, habsent⟩ := (governs_configShape hs).readRecord exact_configShape
      (key_mem_configShape hs) hread
    exact ⟨fun v hv => (hgiven v hv).symm, habsent⟩
  | true =>
    obtain ⟨hgiven, habsent⟩ := governs_logging.readRecord exact_configShape
      (by simp [RecordShape.names, configShape]) hread
    -- without a logging table its record is the default one, which is where reading it starts
    by_cases hnested : ∃ inner, t.Nests "logging" inner
    · obtain ⟨inner, hnests⟩ := hnested
      simp only [Setting.given_of_nests hs ht hnests]
      obtain ⟨hgiven', habsent'⟩ := (governs_loggingShape hs c).readRecord exact_loggingShape
        (key_mem_loggingShape hs) (hgiven _ hnests.mem_values)
      refine ⟨fun v hv => (hgiven' v hv).symm, fun hno => (habsent' hno).trans ?_⟩
      exact Setting.valueIn_congr hs rfl
    · have hnone : c.logging = Config.default.logging := by
        refine habsent fun v hv => ?_
        obtain ⟨inner, hnests, -⟩ := hlogging.exists_nests hv
        exact hnested ⟨inner, hnests⟩
      refine ⟨fun v hv => ?_, fun _ => Setting.valueIn_congr hs hnone⟩
      rw [Setting.Given, if_pos hs] at hv
      obtain ⟨inner, hnests, -⟩ := hv
      exact absurd ⟨inner, hnests⟩ hnested

/-- **Nothing else matters to a setting**: two tables that give it the same agree on it. -/
theorem valueIn_eq_of_given_iff {t' : Table} {c' : Config} (ht : t.Distinct) (ht' : t'.Distinct)
    (hlogging : t.OnlyNests "logging") (hlogging' : t'.OnlyNests "logging")
    (hc : Config.ofValue t.toValue = .ok c) (hc' : Config.ofValue t'.toValue = .ok c')
    (hsame : ∀ v, s.Given t' v ↔ s.Given t v) : s.valueIn c' = s.valueIn c := by
  obtain ⟨hgiven, habsent⟩ := valueIn_of_ofValue ht hlogging hc s
  obtain ⟨hgiven', habsent'⟩ := valueIn_of_ofValue ht' hlogging' hc' s
  by_cases hv : ∃ v, s.Given t v
  · obtain ⟨v, hv⟩ := hv
    rw [hgiven v hv, hgiven' v ((hsame v).mpr hv)]
  · have hno : ∀ v, ¬s.Given t v := fun v hgiven => hv ⟨v, hgiven⟩
    rw [habsent hno, habsent' fun v hgiven => hno v ((hsame v).mp hgiven)]

/-! ### Documents -/

/-- **A document is read as its table is.** -/
theorem parse_eq_ok_iff {text : String} (h : Yields text t) :
    Config.parse text = .ok c ↔ Config.ofValue t.toValue = .ok c := by
  rw [Config.parse, h.parse]
  dsimp only
  cases Config.ofValue t.toValue <;> simp

/-- **What a config file sets.** A table whose keys differ, and which has nothing but a table under
`logging`, is read as settings exactly if it sets nothing but settings. Each of them is then the
value that the table gives it or the one of `Config.default`, whatever else the table holds and in
whatever order: two tables that give a setting the same agree on it. The tables of documents are
among these; a document is read as its table is, and one that sets anything else is reported as a
config file that cannot be read. -/
theorem settings_of_table (ht : t.Distinct) (hlogging : t.OnlyNests "logging") :
    ((∃ c, Config.ofValue t.toValue = .ok c) ↔ SetsOnly t) ∧
      (∀ c, Config.ofValue t.toValue = .ok c → ∀ s : Setting,
        (∀ v, s.Given t v → s.valueIn c = v) ∧
          ((∀ v, ¬s.Given t v) → s.valueIn c = s.valueIn .default)) ∧
      (∀ t' c c', t'.Distinct → t'.OnlyNests "logging" → Config.ofValue t.toValue = .ok c →
        Config.ofValue t'.toValue = .ok c' → ∀ s : Setting, (∀ v, s.Given t' v ↔ s.Given t v) →
          s.valueIn c' = s.valueIn c) ∧
      (∀ text t', Yields text t' → t'.Distinct) ∧
      ∀ text, Yields text t →
        (∀ c, Config.parse text = .ok c ↔ Config.ofValue t.toValue = .ok c) ∧
          (¬SetsOnly t → ∃ message, Config.parse text = .error message ∧
            ∀ w path, w.disk.readFile w.cwd path = .ok text.toUTF8 →
              ((loadConfig path).run.run w).1 = .error (.settings message)) := by
  refine ⟨ofValue_isOk_iff ht hlogging, fun c hc s => valueIn_of_ofValue ht hlogging hc s,
    fun t' c c' ht' hlogging' hc hc' s hsame =>
      valueIn_eq_of_given_iff ht ht' hlogging hlogging' hc hc' hsame,
    fun _ _ hyields => hyields.distinct,
    fun text hyields => ⟨fun c => parse_eq_ok_iff hyields, fun hno => ?_⟩⟩
  cases hparse : Config.parse text with
  | error message =>
    exact ⟨message, rfl, fun w path hread => loadConfig_run_error hread hparse⟩
  | ok c =>
    have hc := (parse_eq_ok_iff hyields).mp hparse
    exact absurd ((ofValue_isOk_iff ht hlogging).mp ⟨c, hc⟩) hno

/-- A table that sets where pairs go and how events are written, the second in its logging table. -/
def twoSettings : Table :=
  .mk false false [("logging", .table (.mk false false [("json", .value "boolean" (.bool true))])),
    ("output_dir", .value "string" (.text "out"))]

theorem twoSettings_distinct : twoSettings.Distinct := by
  refine ⟨by simp, ?_⟩
  rintro e he
  simp only [List.mem_cons, List.not_mem_nil, or_false] at he
  rcases he with rfl | rfl
  · exact .table ⟨by simp, fun e he => by
      rw [List.mem_singleton.mp he]
      exact .value _ _⟩
  · exact .value _ _

theorem twoSettings_onlyNests : twoSettings.OnlyNests "logging" := by
  intro item hitem
  simp only [twoSettings, Table.entries, List.mem_cons, Prod.mk.injEq, List.not_mem_nil,
    or_false] at hitem
  rcases hitem with ⟨-, rfl⟩ | ⟨hkey, -⟩
  · exact ⟨_, rfl⟩
  · exact absurd hkey (by decide)

/-- Two settings are the given ones, and two others those that hold without a config file. -/
theorem settings_of_twoSettings : SetsOnly twoSettings ∧
    ∀ c, Config.ofValue twoSettings.toValue = .ok c →
      Setting.valueIn .outputDir c = .text "out" ∧ Setting.valueIn .json c = .bool true ∧
        Setting.valueIn .stderr c = Setting.valueIn .stderr .default ∧
          Setting.valueIn .indexFile c = Setting.valueIn .indexFile .default := by
  have hnests : twoSettings.Nests "logging" (.mk false false
      [("json", .value "boolean" (.bool true))]) := ⟨_, List.mem_cons_self, rfl⟩
  obtain ⟨haccepted, hvalues, -⟩ := settings_of_table twoSettings_distinct twoSettings_onlyNests
  refine ⟨haccepted.mp ⟨_, rfl⟩, fun c hc => ⟨?_, ?_, ?_, ?_⟩⟩
  · refine (hvalues c hc .outputDir).1 _ ((Setting.given_of_root rfl).mpr ?_)
    simp [twoSettings, Table.values, Table.entries, Item.toValue, Setting.key]
  · refine (hvalues c hc .json).1 _
      ((Setting.given_of_nests rfl twoSettings_distinct hnests).mpr ?_)
    simp [Table.values, Table.entries, Item.toValue, Setting.key]
  · refine (hvalues c hc .stderr).2 fun v hv => ?_
    rw [Setting.given_of_nests rfl twoSettings_distinct hnests] at hv
    simp [Table.values, Table.entries, Setting.key] at hv
  · refine (hvalues c hc .indexFile).2 fun v hv => ?_
    rw [Setting.given_of_root rfl] at hv
    simp [twoSettings, Table.values, Table.entries, Setting.key] at hv

end Nested

end TwinTypes
