import Mathlib.Data.List.Nodup
import TwinTypes.Proofs.Document.Records
import TwinTypes.Toml.Document

/-!
# The keys of a table

A TOML document gives no key twice, and so the order in which the entries of a table are read says
nothing. `TwinTypes.Toml.Table.Distinct` says of a table, and of every table within it, that its
keys differ, and `TwinTypes.Toml.Yields.distinct` that the table of a document is so.

There are two halves. The first is about tables: an entry is only ever put where its key is not, or
in the place of the one that has the key, and so each way of changing a table keeps keys apart, also
where the change is made at the end of a path (`TwinTypes.Toml.changeAt_distinct`). The second is
about parsers: what a parser gives has a property if the parsers it is made of see to it, and the
property is carried through the reading of values, which nest, and of lines, which add to a draft.

Values within an array are values and tables no longer, and of them nothing is said.
-/

namespace TwinTypes.Toml

/-! ### Tables whose keys differ -/

mutual

/-- **In an entry no key stands twice.** -/
inductive Item.Distinct : Item → Prop
  /-- A value that is no inline table. -/
  | value (typeName : String) (v : Value) : Item.Distinct (.value typeName v)
  /-- An inline table. -/
  | inline {t : Table} (h : t.Distinct) : Item.Distinct (.inline t)
  /-- A table. -/
  | table {t : Table} (h : t.Distinct) : Item.Distinct (.table t)
  /-- A list of tables. -/
  | tables {ts : List Table} (h : ∀ t ∈ ts, t.Distinct) : Item.Distinct (.tables ts)

/-- **In a table no key stands twice**, and in no table within it. -/
inductive Table.Distinct : Table → Prop
  /-- The keys differ, and each entry is distinct. -/
  | mk {implicit dotted : Bool} {entries : List (String × Item)}
      (keys : (entries.map Prod.fst).Nodup) (items : ∀ e ∈ entries, e.2.Distinct) :
      Table.Distinct (.mk implicit dotted entries)

end

variable {t t' : Table} {ts ts' : List Table} {item : Item} {key : String} {path : List String}

theorem Table.distinct_iff : t.Distinct ↔
    (t.entries.map Prod.fst).Nodup ∧ ∀ e ∈ t.entries, e.2.Distinct := by
  cases t with
  | mk implicit dotted entries =>
    exact ⟨fun ⟨hkeys, hitems⟩ => ⟨hkeys, hitems⟩, fun ⟨hkeys, hitems⟩ => ⟨hkeys, hitems⟩⟩

theorem Table.distinct_empty (implicit dotted : Bool) : (mk implicit dotted []).Distinct :=
  ⟨List.nodup_nil, by simp⟩

theorem Table.distinct_blank : blank.Distinct :=
  distinct_empty false false

/-- **A key of a distinct table has one entry.** -/
theorem Table.Distinct.eq_of_mem (h : t.Distinct) {a b : Item} (ha : (key, a) ∈ t.entries)
    (hb : (key, b) ∈ t.entries) : a = b := by
  have hsame : (key, a) = (key, b) :=
    List.inj_on_of_nodup_map (distinct_iff.mp h).1 ha hb rfl
  exact congrArg Prod.snd hsame

theorem Table.mem_of_get?_eq_some (h : t.get? key = some item) : (key, item) ∈ t.entries := by
  obtain ⟨e, hfind, rfl⟩ := Option.map_eq_some_iff.mp h
  obtain rfl : e.1 = key := by simpa using List.find?_some hfind
  exact List.mem_of_find?_eq_some hfind

theorem Table.Distinct.get? (h : t.Distinct) (hget : t.get? key = some item) : item.Distinct :=
  (distinct_iff.mp h).2 _ (mem_of_get?_eq_some hget)

theorem Table.Distinct.get?_table (h : t.Distinct) (hget : t.get? key = some (.table t')) :
    t'.Distinct := by
  cases h.get? hget
  assumption

theorem Table.Distinct.get?_inline (h : t.Distinct) (hget : t.get? key = some (.inline t')) :
    t'.Distinct := by
  cases h.get? hget
  assumption

theorem Table.Distinct.get?_tables (h : t.Distinct) (hget : t.get? key = some (.tables ts)) :
    ∀ t ∈ ts, t.Distinct := by
  cases h.get? hget
  assumption

@[simp] theorem Table.entries_withEntries (entries : List (String × Item)) :
    (t.withEntries entries).entries = entries := rfl

/-- **An entry that is set** takes the place of the one with its key, or comes last. -/
theorem Table.Distinct.set (h : t.Distinct) (hitem : item.Distinct) (key : String) :
    (t.set key item).Distinct := by
  obtain ⟨hkeys, hitems⟩ := distinct_iff.mp h
  rw [distinct_iff, Table.set]
  split
  -- one entry is exchanged for another of its key, so that the keys are what they were
  · rw [entries_withEntries]
    refine ⟨?_, fun e he => ?_⟩
    · have hsame : (t.entries.map fun e => if e.1 == key then (key, item) else e).map Prod.fst =
          t.entries.map Prod.fst := by
        rw [List.map_map]
        refine List.map_congr_left fun e _ => ?_
        by_cases hkey : e.1 = key
        · simp [hkey]
        · simp [hkey]
      rw [hsame]
      exact hkeys
    · obtain ⟨old, hold, rfl⟩ := List.mem_map.mp he
      split
      · exact hitem
      · exact hitems old hold
  · rename_i hnew
    have hkey : key ∉ t.entries.map Prod.fst := by
      rintro hmem
      obtain ⟨e, he, rfl⟩ := List.mem_map.mp hmem
      exact hnew (List.any_eq_true.mpr ⟨e, he, by simp⟩)
    rw [entries_withEntries, List.map_append]
    refine ⟨hkeys.append (List.nodup_singleton key) ?_, fun e he => ?_⟩
    · simpa using hkey
    · rcases List.mem_append.mp he with he | he
      · exact hitems e he
      · rw [List.mem_singleton.mp he]
        exact hitem

theorem Table.Distinct.erase (h : t.Distinct) (key : String) : (t.erase key).Distinct := by
  obtain ⟨hkeys, hitems⟩ := distinct_iff.mp h
  rw [distinct_iff, Table.erase, entries_withEntries]
  refine ⟨hkeys.sublist (List.filter_sublist.map Prod.fst), fun e he => ?_⟩
  exact hitems e (List.mem_of_mem_filter he)

/-! ### Changes that keep keys apart -/

/-- A change makes a distinct table of a distinct table, if it makes one at all. -/
def KeepsDistinct (change : Table → Except Problem Table) : Prop :=
  ∀ ⦃t t'⦄, t.Distinct → change t = .ok t' → t'.Distinct

theorem changeLast_distinct {change : Table → Except Problem Table} (hchange : KeepsDistinct change)
    (hts : ∀ t ∈ ts, t.Distinct) (h : changeLast change ts = .ok ts') : ∀ t ∈ ts', t.Distinct := by
  induction ts generalizing ts' with
  | nil =>
    cases h
    simp
  | cons t rest ih =>
    cases rest with
    | nil =>
      obtain ⟨made, hmade, hpure⟩ := bind_eq_ok.mp h
      cases hpure
      simpa using hchange (hts t List.mem_cons_self) hmade
    | cons next rest =>
      obtain ⟨made, hmade, hpure⟩ := bind_eq_ok.mp h
      cases hpure
      exact List.forall_mem_cons.mpr ⟨hts t List.mem_cons_self,
        ih (fun t ht => hts t (List.mem_cons_of_mem _ ht)) hmade⟩

/-- **A change at the end of a path keeps keys apart** if the change does; on the way each table is
put back where it was. -/
theorem changeAt_distinct {change : Table → Except Problem Table} (hchange : KeepsDistinct change)
    (dotted : Bool) (before path : List String) :
    KeepsDistinct (changeAt dotted change before path) := by
  induction path generalizing before with
  | nil => exact hchange
  | cons key path ih =>
    intro t t' ht h
    rw [changeAt] at h
    split at h
    -- the way is made, goes by a table, goes by the last of several tables, or ends at a value
    · obtain ⟨made, hmade, hpure⟩ := bind_eq_ok.mp h
      cases hpure
      exact ht.set (.table (ih _ (Table.distinct_empty true dotted) hmade)) key
    · rename_i inner hget
      split at h
      · cases h
      · obtain ⟨made, hmade, hpure⟩ := bind_eq_ok.mp h
        cases hpure
        exact ht.set (.table (ih _ (ht.get?_table hget) hmade)) key
    · rename_i ts hget
      obtain ⟨made, hmade, hpure⟩ := bind_eq_ok.mp h
      cases hpure
      exact ht.set (.tables (changeLast_distinct (ih _) (ht.get?_tables hget) hmade)) key
    · cases h

theorem addInline_distinct (hitem : item.Distinct) (last : String) (before path : List String) :
    KeepsDistinct (addInline item last before path) := by
  induction path generalizing before with
  | nil =>
    intro t t' ht h
    rw [addInline] at h
    split_ifs at h
    cases h
    exact ht.set hitem last
  | cons key path ih =>
    intro t t' ht h
    rw [addInline] at h
    split at h
    · obtain ⟨made, hmade, hpure⟩ := bind_eq_ok.mp h
      cases hpure
      exact ht.set (.inline (ih _ (Table.distinct_empty true true) hmade)) key
    · rename_i inner hget
      split at h
      · cases h
      · obtain ⟨made, hmade, hpure⟩ := bind_eq_ok.mp h
        cases hpure
        exact ht.set (.inline (ih _ (ht.get?_inline hget) hmade)) key
    · cases h

theorem addInlines_distinct {entries : List (List String × Item)}
    (h : ∀ e ∈ entries, e.2.Distinct) (ht : t.Distinct)
    (hof : entries.foldlM (fun t e => addInline e.2 (e.1.getLast?.getD "") [] e.1.dropLast t) t =
      .ok t') : t'.Distinct := by
  induction entries generalizing t with
  | nil =>
    cases hof
    exact ht
  | cons e rest ih =>
    rw [List.foldlM_cons] at hof
    obtain ⟨next, hnext, hrest⟩ := bind_eq_ok.mp hof
    obtain ⟨he, hothers⟩ := List.forall_mem_cons.mp h
    exact ih hothers (addInline_distinct he _ _ _ ht hnext) hrest

theorem inlineOf_distinct {entries : List (List String × Item)} (h : ∀ e ∈ entries, e.2.Distinct)
    (hof : inlineOf entries = .ok t) : t.Distinct :=
  addInlines_distinct h Table.distinct_blank hof

/-! ### Drafts -/

namespace Draft

/-- **In a draft no key stands twice**: neither in the document nor since the last header. -/
structure Distinct (d : Draft) : Prop where
  /-- The document. -/
  root : d.root.Distinct
  /-- The entries since the last header. -/
  current : d.current.Distinct

variable {d d' : Draft}

theorem distinct_start : start.Distinct :=
  ⟨Table.distinct_blank, Table.distinct_blank⟩

theorem Distinct.settle (h : d.Distinct) (hsettle : d.settle = .ok d') : d'.Distinct := by
  unfold Draft.settle at hsettle
  split at hsettle
  · cases hsettle
    exact ⟨h.current, Table.distinct_blank⟩
  · obtain ⟨root, hroot, hpure⟩ := bind_eq_ok.mp hsettle
    cases hpure
    refine ⟨changeAt_distinct (fun parent parent' hparent hplace => ?_) _ _ _ h.root hroot,
      Table.distinct_blank⟩
    split at hplace
    -- one of several tables goes to the end of its list, any other where there is none yet
    · split at hplace
      · cases hplace
        exact hparent.set (.tables (by simpa using h.current)) _
      · rename_i ts hget
        cases hplace
        refine hparent.set (.tables fun t ht => ?_) _
        rcases List.mem_append.mp ht with ht | ht
        · exact hparent.get?_tables hget t ht
        · rw [List.mem_singleton.mp ht]
          exact h.current
      · cases hplace
    · split at hplace
      · cases hplace
        exact hparent.set (.table h.current) _
      · split at hplace
        · cases hplace
          exact hparent.set (.table h.current) _
        · cases hplace
      · cases hplace

theorem Distinct.addEntry (h : d.Distinct) (hitem : item.Distinct) {last : String}
    (hadd : d.addEntry path last item = .ok d') : d'.Distinct := by
  unfold Draft.addEntry at hadd
  obtain ⟨current, hcurrent, hpure⟩ := bind_eq_ok.mp hadd
  cases hpure
  refine ⟨h.root, changeAt_distinct (fun t t' ht hset => ?_) _ _ _ h.current hcurrent⟩
  split_ifs at hset
  cases hset
  exact ht.set hitem last

theorem heldAt_distinct (h : t.Distinct) (path : List String) (implicit dotted : Bool) :
    (Table.mk implicit dotted (heldAt path t)).Distinct := by
  induction path generalizing t with
  | nil =>
    obtain ⟨hkeys, hitems⟩ := Table.distinct_iff.mp h
    exact ⟨hkeys, hitems⟩
  | cons key path ih =>
    rw [heldAt]
    split
    · rename_i inner hget
      exact ih (h.get?_table hget)
    · rename_i ts hget
      refine ih ?_
      cases hlast : ts.getLast? with
      | none => exact Table.distinct_blank
      | some last => exact h.get?_tables hget last (List.mem_of_getLast? hlast)
    · exact Table.distinct_empty implicit dotted

theorem Distinct.beginTable (h : d.Distinct) (hbegin : d.beginTable path = .ok d') :
    d'.Distinct := by
  unfold Draft.beginTable at hbegin
  obtain ⟨settled, hsettled, hrest⟩ := bind_eq_ok.mp hbegin
  obtain ⟨root, hroot, hpure⟩ := bind_eq_ok.mp hrest
  cases hpure
  have hdistinct := h.settle hsettled
  refine ⟨changeAt_distinct (fun parent parent' hparent htake => ?_) _ _ _ hdistinct.root hroot,
    heldAt_distinct hdistinct.root path false false⟩
  split at htake
  · cases htake
    exact hparent
  · split at htake
    · cases htake
      exact hparent.erase _
    · cases htake
  · cases htake

theorem Distinct.beginElement (h : d.Distinct) (hbegin : d.beginElement path = .ok d') :
    d'.Distinct := by
  unfold Draft.beginElement at hbegin
  obtain ⟨settled, hsettled, hrest⟩ := bind_eq_ok.mp hbegin
  obtain ⟨root, hroot, hpure⟩ := bind_eq_ok.mp hrest
  cases hpure
  have hdistinct := h.settle hsettled
  refine ⟨changeAt_distinct (fun parent parent' hparent hmake => ?_) _ _ _ hdistinct.root hroot,
    Table.distinct_blank⟩
  split at hmake
  · cases hmake
    exact hparent.set (.tables (by simp)) _
  · cases hmake
    exact hparent
  · cases hmake

end Draft

/-! ### Parsers that see to a property -/

namespace Parser

variable {α β : Type} {P : α → Prop} {Q : β → Prop} {p q : Parser α}

/-- **What a parser gives has a property**, whatever the text. -/
def Ensures (p : Parser α) (P : α → Prop) : Prop :=
  ∀ ⦃cs a rest⦄, p cs = .found a rest → P a

theorem ensures_pure {a : α} (h : P a) : Ensures (pure a) P := by
  rintro cs b rest hfound
  cases hfound
  exact h

theorem ensures_missing (e : Problem) : Ensures (missing e) P :=
  nofun

theorem ensures_wrong (e : Problem) : Ensures (wrong e) P :=
  nofun

/-- Nothing is to be known of what is read and not used. -/
theorem ensures_any (p : Parser α) : Ensures p fun _ => True :=
  fun _ _ _ _ => trivial

theorem Ensures.bind {f : α → Parser β} (hp : p.Ensures P) (hf : ∀ a, P a → (f a).Ensures Q) :
    Ensures (p >>= f) Q := by
  intro cs b rest hfound
  change andThen p f cs = _ at hfound
  unfold andThen at hfound
  split at hfound
  · rename_i a rest' hfirst
    exact hf a (hp hfirst) hfound
  · cases hfound
  · cases hfound

/-- What is read after something of which nothing is to be known. -/
theorem ensures_after (p : Parser α) {f : α → Parser β} (hf : ∀ a, (f a).Ensures Q) :
    Ensures (p >>= f) Q :=
  (ensures_any p).bind fun a _ => hf a

theorem Ensures.must (hp : p.Ensures P) : p.must.Ensures P := by
  intro cs a rest hfound
  unfold Parser.must at hfound
  split at hfound
  · cases hfound
  · exact hp hfound

theorem Ensures.adding (hp : p.Ensures P) (change : Problem → Problem) :
    (p.adding change).Ensures P := by
  intro cs a rest hfound
  unfold Parser.adding at hfound
  split at hfound
  · cases hfound
  · cases hfound
  · exact hp hfound

theorem Ensures.named (hp : p.Ensures P) (label : String) : (p.named label).Ensures P :=
  hp.adding _

theorem Ensures.optional (hp : p.Ensures P) :
    p.optional.Ensures fun found => ∀ a, found = some a → P a := by
  intro cs found rest hfound
  unfold Parser.optional at hfound
  split at hfound
  · rename_i a rest' hfirst
    cases hfound
    rintro b hb
    cases hb
    exact hp hfirst
  · cases hfound
    nofun
  · cases hfound

theorem Ensures.many (hp : p.Ensures P) (fuel : Nat) :
    (Parser.many p fuel).Ensures fun as => ∀ a ∈ as, P a := by
  induction fuel with
  | zero => exact ensures_pure (by simp)
  | succ fuel ih =>
    refine hp.optional.bind fun found hfirst => ?_
    cases found with
    | none => exact ensures_pure (by simp)
    | some a =>
      exact ih.bind fun others hothers =>
        ensures_pure (List.forall_mem_cons.mpr ⟨hfirst a rfl, hothers⟩)

theorem Ensures.repeated (hp : p.Ensures P) : p.repeated.Ensures fun as => ∀ a ∈ as, P a :=
  fun cs _ _ hfound => hp.many cs.length hfound

theorem Ensures.separated (hp : p.Ensures P) (between : Parser Unit) :
    (p.separated between).Ensures fun as => ∀ a ∈ as, P a := by
  refine hp.optional.bind fun found hfirst => ?_
  cases found with
  | none => exact ensures_pure (by simp)
  | some a =>
    refine (ensures_after between fun _ => hp).repeated.bind fun others hothers => ?_
    exact ensures_pure (List.forall_mem_cons.mpr ⟨hfirst a rfl, hothers⟩)

end Parser

open TwinTypes.Toml.Parser

theorem ensures_orWrong {α : Type} {P : α → Prop} {result : Except Problem α}
    (h : ∀ a, result = .ok a → P a) : (orWrong result).Ensures P := by
  cases result with
  | error problem => exact ensures_wrong problem
  | ok a => exact ensures_pure (h a rfl)

/-! ### Values -/

theorem ofScalar_distinct (p : Parser Scalar) : (ofScalar p).Ensures Item.Distinct :=
  ensures_after p fun s => ensures_pure (.value s.typeName s.value)

theorem scalarValue_distinct : scalarValue.Ensures Item.Distinct := by
  refine ensures_after ahead fun cs => ?_
  cases cs with
  | nil => exact ensures_missing _
  | cons c cs => exact ofScalar_distinct _

theorem arrayRest_distinct (value : Parser Item) : (arrayRest value).Ensures Item.Distinct := by
  refine ensures_after _ fun items => ?_
  have hclosing : ∀ closing : Parser Unit, Ensures (do
      gaps
      closing
      pure (.value "array" (.list (items.map Item.toValue)))) Item.Distinct := fun closing =>
    ensures_after gaps fun _ => ensures_after closing fun _ => ensures_pure (.value _ _)
  split
  · exact hclosing _
  · exact ensures_after _ fun _ => hclosing _

theorem entry_distinct {value : Parser Item} (h : value.Ensures Item.Distinct) :
    (entry value).Ensures fun e => e.2.Distinct :=
  ensures_after key fun _ => Ensures.must (ensures_after _ fun _ => ensures_after _ fun _ =>
    h.bind fun _ hitem => ensures_pure hitem)

theorem inlineRest_distinct {value : Parser Item} (h : value.Ensures Item.Distinct) :
    (inlineRest value).Ensures Item.Distinct := by
  have hentry : Ensures (do
      let e ← entry value
      blanks
      pure e) fun e => e.2.Distinct :=
    (entry_distinct h).bind fun e he => ensures_after _ fun _ => ensures_pure he
  refine (hentry.separated (char ',')).bind fun entries hentries => ensures_after _ fun _ => ?_
  split
  · exact ensures_wrong _
  · rename_i t hof
    exact ensures_after _ fun _ => ensures_pure (.inline (inlineOf_distinct hentries hof))

/-- **A value is distinct**, on each level that its reader may go down. -/
theorem value_distinct (depth : Nat) : (value depth).Ensures Item.Distinct := by
  induction depth with
  | zero =>
    refine ensures_after ahead fun cs => ?_
    split
    · exact ensures_wrong _
    · exact ensures_wrong _
    · exact scalarValue_distinct
  | succ depth ih =>
    refine ensures_after ahead fun cs => ?_
    split
    · exact ensures_after _ fun _ => (arrayRest_distinct _).must
    · exact ensures_after _ fun _ => (inlineRest_distinct ih).must
    · exact scalarValue_distinct

/-! ### Lines -/

variable {d : Draft}

theorem entryLine_distinct (h : d.Distinct) : (entryLine d).Ensures Draft.Distinct := by
  have hentry : Ensures (do
      let e ← entry (value (depthLimit - 1))
      lineRest
      pure e) fun e => e.2.Distinct :=
    (entry_distinct (value_distinct _)).bind fun e he => ensures_after _ fun _ => ensures_pure he
  exact hentry.must.bind fun e he => ensures_orWrong fun _ hadd => h.addEntry he hadd

theorem headerLine_distinct (h : d.Distinct) : (headerLine d).Ensures Draft.Distinct := by
  refine Ensures.named (Ensures.must (ensures_after ahead fun cs => ?_)) _
  split
  · exact ensures_wrong _
  · exact ensures_after _ fun path => ensures_orWrong fun _ hbegin => h.beginElement hbegin
  · exact ensures_after _ fun path => ensures_orWrong fun _ hbegin => h.beginTable hbegin

/-- **A line keeps a draft distinct.** -/
theorem line_distinct (h : d.Distinct) : (line d).Ensures Draft.Distinct := by
  refine ensures_after ahead fun cs => ?_
  refine Ensures.bind (P := Draft.Distinct) ?_ fun d' hd' =>
    ensures_after blanks fun _ => ensures_pure hd'
  split
  -- only a header and a line with a key change the draft
  · exact ensures_missing _
  · exact ensures_after _ fun _ => ensures_pure h
  · exact headerLine_distinct h
  · exact ensures_after _ fun _ => ensures_pure h
  · exact ensures_after _ fun _ => ensures_pure h
  · exact entryLine_distinct h

theorem lines_distinct (h : d.Distinct) (fuel : Nat) : (lines fuel d).Ensures Draft.Distinct := by
  induction fuel generalizing d with
  | zero => exact ensures_pure h
  | succ fuel ih =>
    refine (line_distinct h).optional.bind fun found hfound => ?_
    cases found with
    | none => exact ensures_pure h
    | some d' => exact ih (hfound d' rfl)

theorem document_distinct : document.Ensures Table.Distinct :=
  ensures_after _ fun _ => ensures_after _ fun _ => ensures_after _ fun cs =>
    (lines_distinct Draft.distinct_start cs.length).bind fun _ hd => ensures_after _ fun _ =>
      Ensures.bind (ensures_orWrong fun _ hsettle => hd.settle hsettle)
        fun _ hsettled => ensures_pure hsettled.root

/-! ### Documents -/

/-- A text is a document with this table. -/
def Yields (text : String) (t : Table) : Prop :=
  ∃ rest, document text.toList = .found t rest

/-- **The table of a document has no key twice.** -/
theorem Yields.distinct {text : String} (h : Yields text t) : t.Distinct := by
  obtain ⟨rest, hfound⟩ := h
  exact document_distinct hfound

theorem Yields.parse {text : String} (h : Yields text t) : Toml.parse text = .ok t.toValue := by
  obtain ⟨rest, hfound⟩ := h
  rw [Toml.parse, hfound]

end TwinTypes.Toml
