import Mathlib.Data.List.Nodup
import TwinTypes.Proofs.Document.ReadsBack
import TwinTypes.Proofs.Run.WholeFile
import TwinTypes.Run.Index

/-!
# Two readings of a document

A YAML text is read as a value of any kind, or at once as a record of some type. The two readers
walk the same tree, and this file says that they find the same: where the value of a part of a
document is the one that a record is written as, the reader of records finds that record
(`TwinTypes.Yaml.Agrees`). It is stated for each thing that records are made of, and the
load-bearing statement is `agrees_record`, which puts them together field by field; the counts of
references followed go along, as the readers follow them in the same order.

A report is read back but for the members that became nothing, which no document has
(`TwinTypes.Yaml.agrees_report`).

With that, what is written is read. `documents_read_back` says so of both kinds of mapped-types
documents, the list of pairs and the index; of the index it says so for both of its readers, the one
that wants pairs and the one that wants an index with its kinds.
-/

namespace TwinTypes

/-- **What a document has of a report**: the members that became something. -/
def Report.mapped (r : Report) : Report :=
  { r with unmappedProperties := [], unmappedMethods := [] }

@[simp] theorem Report.toValue_mapped (r : Report) : r.mapped.toValue = r.toValue := rfl

namespace Yaml

variable {α β : Type} {t : Tree} {s s' s'' : Nat}

/-! ### One reading after another -/

/-- **One reading after another** succeeds if both do. -/
theorem Reading.bind_eq_ok {m : Reading α} {f : α → Reading β} {b : β} :
    (m >>= f).run s = .ok (b, s'') ↔
      ∃ a s', m.run s = .ok (a, s') ∧ (f a).run s' = .ok (b, s'') := by
  rw [StateT.run_bind]
  rcases m.run s with e | ⟨a, s'⟩
  · simp [bind, Except.bind]
  · simp [bind, Except.bind]

theorem Reading.pure_eq_ok {a b : α} :
    (pure a : Reading α).run s = .ok (b, s') ↔ a = b ∧ s = s' := by
  rw [StateT.run_pure]
  simp [pure, Except.pure]

theorem Reading.throw_ne_ok {e : Failure} {a : α} :
    (throw e : Reading α).run s ≠ .ok (a, s') := by
  change Except.error e ≠ _
  nofun

theorem orComplain_eq_ok {result : Except Cause α} {path : Path} {mark : Mark} {a : α} :
    (orComplain result path mark).run s = .ok (a, s') ↔ result = .ok a ∧ s = s' := by
  cases result with
  | ok b => simpa [orComplain] using Reading.pure_eq_ok
  | error cause => simpa [orComplain, complain] using Reading.throw_ne_ok

theorem reach_eq_ok {whole : Bool} {u : Unit} :
    (reach t whole).run s = .ok (u, s') ↔ whole = true ∧ s = s' := by
  cases whole with
  | true =>
    rw [reach, if_pos rfl, Reading.pure_eq_ok]
    simp
  | false =>
    rw [reach, if_neg (by simp)]
    simpa using Reading.throw_ne_ok

/-! ### What a value says of its node -/

/-- Whether a value is one that a scalar can stand for. -/
def isLeaf : Value → Bool
  | .list _ | .record _ | .tagged _ _ => false
  | _ => true

/-- **A scalar stands for no collection**, and if for a text then for its own. -/
def OfScalar (text : String) (v : Value) : Prop :=
  isLeaf v = true ∧ ∀ a, v = .text a → text = a

theorem OfScalar.self (text : String) : OfScalar text (.text text) :=
  ⟨rfl, fun _ ha => Value.text.inj ha⟩

theorem ofScalar_of_intMeaning {text : String} {n : Int} {v : Value}
    (h : intMeaning n = .value v) : OfScalar text v := by
  unfold intMeaning at h
  split at h
  · cases h
    exact ⟨rfl, nofun⟩
  · cases h

theorem ofScalar_of_plainMeaning {text : String} {v : Value}
    (h : plainMeaning text = .value v) : OfScalar text v := by
  unfold plainMeaning at h
  dsimp only at h
  split at h
  · cases h
    exact ⟨rfl, nofun⟩
  · split at h
    · cases h
      exact ⟨rfl, nofun⟩
    · exact ofScalar_of_intMeaning h
    · split at h
      · cases h
        exact ⟨rfl, nofun⟩
      · cases h
        exact .self text

theorem ofScalar_of_taggedMeaning {tag text : String} {style : ScalarStyle} {v : Value}
    (h : taggedMeaning tag style text = .ok (.value v)) : OfScalar text v := by
  unfold taggedMeaning at h
  dsimp only at h
  split_ifs at h
  · rcases hword : boolWord text with _ | b <;> rw [hword] at h <;> cases h
    exact ⟨rfl, nofun⟩
  · rcases hword : intWord text.toList with _ | n <;> rw [hword] at h
    · cases h
    · exact ofScalar_of_intMeaning (Except.ok.inj h)
  · rcases hword : floatWord text.toList with _ | x <;> rw [hword] at h <;> cases h
    exact ⟨rfl, nofun⟩
  · cases h
    exact ⟨rfl, nofun⟩
  · exact ofScalar_of_plainMeaning (Except.ok.inj h)
  · cases h
    exact .self text

theorem ofScalar_of_meaning {tag : Option String} {text : String} {style : ScalarStyle} {v : Value}
    (h : meaning tag style text = .ok (.value v)) : OfScalar text v := by
  unfold meaning at h
  split at h
  · exact ofScalar_of_taggedMeaning h
  · split at h
    · exact ofScalar_of_plainMeaning (Except.ok.inj h)
    · cases h
      exact .self text

theorem scalarValue_eq_ok {found : Except Cause Meaning} {v : Value} :
    scalarValue found = .ok v ↔ found = .ok (.value v) := by
  unfold scalarValue
  split <;> simp

/-- Reads the values within a collection, of which so many levels may be nested. -/
def within (t : Tree) : Nat → Path → Node → Reading Value
  | 0 => fun _ _ => throw .tooLong
  | depth + 1 => readValue t depth

theorem readValue_eq_ok {depth : Nat} {path : Path} {node : Node} {v : Value} :
    (readValue t depth path node).run s = .ok (v, s'') ↔
      ∃ node' s', (t.follow node).run s = .ok (node', s') ∧
        (readResolved t (within t depth) (depth != 0) path node').run s' = .ok (v, s'') := by
  cases depth <;> exact Reading.bind_eq_ok

/-- **What a node is like** whose value has no tag that names a choice. -/
inductive Resolved (t : Tree) (read : Path → Node → Reading Value) (deeper : Bool) (path : Path)
    (s s' : Nat) : Node → Value → Prop
  /-- A scalar. -/
  | scalar (mark : Mark) (tag : Option String) (style : ScalarStyle) (text : String) (v : Value)
      (hstate : s = s') (htag : tag.filter isChoiceTag = none) (hv : OfScalar text v) :
      Resolved t read deeper path s s' (.scalar mark tag style text) v
  /-- A sequence. -/
  | sequence (mark : Mark) (tag : Option String) (items : List Node) (vs : List Value)
      (hdeeper : deeper = true) (hitems : (readItemsFrom read path 0 items).run s = .ok (vs, s')) :
      Resolved t read deeper path s s' (.sequence mark tag items true) (.list vs)
  /-- A mapping. -/
  | mapping (mark : Mark) (tag : Option String) (parts : List Node) (es : List (Value × Value))
      (hdeeper : deeper = true)
      (hparts : (readPairsAfter read path mark [] (pairUp parts)).run s = .ok (es, s')) :
      Resolved t read deeper path s s' (.mapping mark tag parts true) (.record es)
  /-- Nothing. -/
  | void (hstate : s = s') : Resolved t read deeper path s s' .void .null

theorem withTag_of_filter_none {tag : Option String} (h : tag.filter isChoiceTag = none)
    (v : Value) : withTag tag v = v := by
  cases tag with
  | none => rfl
  | some tag =>
    have hno : ¬isChoiceTag tag = true := fun hc => by simp [Option.filter, hc] at h
    simp [withTag, hno]

/-- Whether a value has a tag. -/
def isTagged : Value → Bool
  | .tagged _ _ => true
  | _ => false

theorem filter_none_of_withTag {tag : Option String} {v w : Value} (h : withTag tag v = w)
    (hw : isTagged w = false) : tag.filter isChoiceTag = none := by
  cases tag with
  | none => rfl
  | some tag =>
    by_cases hc : isChoiceTag tag = true
    · rw [withTag, if_pos hc] at h
      subst h
      cases hw
    · simp [Option.filter, hc]

theorem resolved_of_readResolved {read : Path → Node → Reading Value} {deeper : Bool} {path : Path}
    {node : Node} {v : Value} (hv : isTagged v = false)
    (h : (readResolved t read deeper path node).run s = .ok (v, s')) :
    Resolved t read deeper path s s' node v := by
  rcases node with ⟨mark, tag, style, text⟩ | ⟨mark, tag, items, whole⟩ |
    ⟨mark, tag, parts, whole⟩ | number | _ | _
  · rw [readResolved] at h
    split at h
    · rename_i htag
      obtain ⟨w, s₁, -, hpure⟩ := Reading.bind_eq_ok.mp h
      obtain ⟨hw, -⟩ := Reading.pure_eq_ok.mp hpure
      have hnone := filter_none_of_withTag hw hv
      obtain ⟨tag, rfl, hchoice⟩ := Option.any_eq_true .. |>.mp htag
      simp [Option.filter, hchoice] at hnone
    · rename_i htag
      obtain ⟨hmeaning, rfl⟩ := orComplain_eq_ok.mp h
      refine .scalar mark tag style text v rfl ?_ (ofScalar_of_meaning
        (scalarValue_eq_ok.mp hmeaning))
      cases tag with
      | none => rfl
      | some tag => simpa [Option.filter] using htag
  · rw [readResolved] at h
    split at h
    · rename_i hdeeper
      obtain ⟨vs, s₁, hitems, hrest⟩ := Reading.bind_eq_ok.mp h
      obtain ⟨_, s₂, hreach, hpure⟩ := Reading.bind_eq_ok.mp hrest
      obtain ⟨rfl, rfl⟩ := reach_eq_ok.mp hreach
      obtain ⟨hw, rfl⟩ := Reading.pure_eq_ok.mp hpure
      rw [withTag_of_filter_none (filter_none_of_withTag hw hv)] at hw
      subst hw
      exact .sequence mark tag items vs hdeeper hitems
    · exact absurd h Reading.throw_ne_ok
  · rw [readResolved] at h
    split at h
    · rename_i hdeeper
      obtain ⟨es, s₁, hparts, hrest⟩ := Reading.bind_eq_ok.mp h
      obtain ⟨_, s₂, hreach, hpure⟩ := Reading.bind_eq_ok.mp hrest
      obtain ⟨rfl, rfl⟩ := reach_eq_ok.mp hreach
      obtain ⟨hw, rfl⟩ := Reading.pure_eq_ok.mp hpure
      rw [withTag_of_filter_none (filter_none_of_withTag hw hv)] at hw
      subst hw
      exact .mapping mark tag parts es hdeeper hparts
    · exact absurd h Reading.throw_ne_ok
  · exact absurd h Reading.throw_ne_ok
  · obtain ⟨rfl, rfl⟩ := Reading.pure_eq_ok.mp h
    exact .void rfl
  · exact absurd h Reading.throw_ne_ok

/-! ### What the reader of records finds -/

/-- **A reader of parts agrees with a value**: where the value of a part is this one, the reader
finds `a` there, and follows as many references. -/
def Agrees (t : Tree) (depth : Nat) (read : Place → Reading α) (a : α) (v : Value) : Prop :=
  ∀ (path path' : Path) (node : Node) (s s' : Nat),
    (readValue t depth path node).run s = .ok (v, s') →
      (read ⟨node, path', depth⟩).run s = .ok (a, s')

variable {depth : Nat}

/-- What agrees with a value can be turned into something else. -/
theorem Agrees.map {read : Place → Reading α} {a : α} {v : Value} (h : Agrees t depth read a v)
    (f : α → β) : Agrees t depth (fun p => do pure (f (← read p))) (f a) v := by
  intro path path' node s s' hread
  exact Reading.bind_eq_ok.mpr ⟨a, s', h path path' node s s' hread, rfl⟩

/-- **A text is read as itself.** -/
theorem agrees_text (expected a : String) :
    Agrees t depth (fun p => readText t p expected) a (.text a) := by
  intro path path' node s s' hread
  obtain ⟨node', s₁, hfollow, hresolved⟩ := readValue_eq_ok.mp hread
  refine Reading.bind_eq_ok.mpr ⟨node', s₁, hfollow, ?_⟩
  cases resolved_of_readResolved rfl hresolved with
  | scalar mark tag style text v hstate htag hv =>
    rw [hstate, hv.2 a rfl]
    rfl

/-- **A kind is read from its keyword.** -/
theorem agrees_kind (kind : Kind) : Agrees t depth (readKind t) kind kind.toValue := by
  intro path path' node s s' hread
  obtain ⟨node', s₁, hfollow, hresolved⟩ := readValue_eq_ok.mp hread
  refine Reading.bind_eq_ok.mpr ⟨node', s₁, hfollow, ?_⟩
  cases resolved_of_readResolved rfl hresolved with
  | scalar mark tag style text v hstate htag hv =>
    have hchoice : choiceTag (.scalar mark tag style text) = none := htag
    rw [hchoice, hstate, hv.2 _ rfl]
    simp only [readKeyword, Kind.ofKeyword_keyword]
    rfl

/-- The items of a list are read one by one. -/
theorem readPlacesFrom_of_readItemsFrom {read : Place → Reading α} {path path' : Path}
    {as : List α} {vs : List Value} (h : List.Forall₂ (Agrees t depth read) as vs) :
    ∀ {items : List Node} {i s s' : Nat},
      (readItemsFrom (readValue t depth) path i items).run s = .ok (vs, s') →
      (readPlacesFrom read path' depth i items).run s = .ok (as, s') := by
  induction h with
  | nil =>
    intro items i s s' hitems
    cases items with
    | nil =>
      obtain ⟨-, rfl⟩ := Reading.pure_eq_ok.mp hitems
      rfl
    | cons node rest =>
      obtain ⟨v, s₁, -, hrest⟩ := Reading.bind_eq_ok.mp hitems
      obtain ⟨vs, s₂, -, hpure⟩ := Reading.bind_eq_ok.mp hrest
      cases (Reading.pure_eq_ok.mp hpure).1
  | cons hagrees _ ih =>
    intro items i s s' hitems
    cases items with
    | nil => cases (Reading.pure_eq_ok.mp hitems).1
    | cons node rest =>
      obtain ⟨v, s₁, hv, hrest⟩ := Reading.bind_eq_ok.mp hitems
      obtain ⟨vs, s₂, hvs, hpure⟩ := Reading.bind_eq_ok.mp hrest
      obtain ⟨heq, rfl⟩ := Reading.pure_eq_ok.mp hpure
      cases heq
      refine Reading.bind_eq_ok.mpr ⟨_, s₁, hagrees _ _ node s s₁ hv, ?_⟩
      exact Reading.bind_eq_ok.mpr ⟨_, s₂, ih hvs, rfl⟩

/-- **A list is read item by item.** -/
theorem agrees_list {read : Place → Reading α} {as : List α} {vs : List Value}
    (h : List.Forall₂ (Agrees t depth read) as vs) :
    Agrees t (depth + 1) (readList t read) as (.list vs) := by
  intro path path' node s s' hread
  obtain ⟨node', s₁, hfollow, hresolved⟩ := readValue_eq_ok.mp hread
  refine Reading.bind_eq_ok.mpr ⟨node', s₁, hfollow, ?_⟩
  cases resolved_of_readResolved rfl hresolved with
  | scalar mark tag style text v hstate htag hv => cases hv.1
  | sequence mark tag items vs hdeeper hitems =>
    refine Reading.bind_eq_ok.mpr ⟨as, s', readPlacesFrom_of_readItemsFrom h hitems, ?_⟩
    exact Reading.bind_eq_ok.mpr ⟨(), s', reach_eq_ok.mpr ⟨rfl, rfl⟩, rfl⟩

/-! ### Records -/

/-- **A field of a record of which the value is known**, and what it makes of the record. -/
structure Given (t : Tree) (depth : Nat) (α : Type) where
  /-- The field. -/
  field : Field Place Reading α
  /-- What its value makes of a record. -/
  change : α → α
  /-- Its value. -/
  value : Value
  /-- Where that is the value, this is what is made of the record. -/
  agrees : Agrees t depth field.read change value

namespace Given

/-- The entry of the record. -/
def entry (g : Given t depth α) : Value × Value :=
  (.text g.field.name, g.value)

/-- The record with the changes that some fields make of it. -/
def apply (given : List (Given t depth α)) (blank : α) : α :=
  given.foldl (fun draft g => g.change draft) blank

end Given

theorem exists_append_of_readPairsAfter {read : Path → Node → Reading Value} {path : Path}
    {mark : Mark} {before es : List (Value × Value)} {rest : List (Node × Node)}
    (h : (readPairsAfter read path mark before rest).run s = .ok (es, s')) :
    ∃ after, es = before.reverse ++ after := by
  induction rest generalizing before s with
  | nil =>
    obtain ⟨rfl, -⟩ := Reading.pure_eq_ok.mp h
    exact ⟨[], by simp⟩
  | cons part rest ih =>
    obtain ⟨k, s₁, -, hvalue⟩ := Reading.bind_eq_ok.mp h
    split at hvalue
    · exact absurd hvalue Reading.throw_ne_ok
    · obtain ⟨v, s₂, -, hrest⟩ := Reading.bind_eq_ok.mp hvalue
      obtain ⟨after, rfl⟩ := ih hrest
      exact ⟨(k, v) :: after, by simp⟩

/-- **The entries of a record are read one by one**, those that are still to come in the order of
the document. -/
theorem readEntriesAfter_of_readPairsAfter {shape : RecordShape Place Reading α} {p : Place}
    {path : Path} {mark : Mark} (hp : p.depth = depth) {parts : List (Node × Node)}
    {todo : List (Given t depth α)} {before : List (Value × Value)} {draft : α}
    {seen : List String} {s s' : Nat}
    (hfind : ∀ g ∈ todo, (shape.fields.find? fun f => f.name == g.field.name) = some g.field)
    (hseen : ∀ g ∈ todo, g.field.name ∉ seen) (hnodup : (todo.map (·.field.name)).Nodup)
    (h : (readPairsAfter (readValue t depth) path mark before parts).run s =
      .ok (before.reverse ++ todo.map Given.entry, s')) :
    (readEntriesAfter t shape p ⟨draft, seen⟩ parts).run s =
      .ok (⟨Given.apply todo draft, (todo.map (·.field.name)).reverse ++ seen⟩, s') := by
  induction parts generalizing todo before draft seen s with
  | nil =>
    obtain ⟨heq, rfl⟩ := Reading.pure_eq_ok.mp h
    have hnil : todo = [] := by simpa using heq.symm
    rw [hnil]
    rfl
  | cons part parts ih =>
    obtain ⟨k, s₁, hk, hvalue⟩ := Reading.bind_eq_ok.mp h
    split at hvalue
    · exact absurd hvalue Reading.throw_ne_ok
    · obtain ⟨v, s₂, hv, hrest⟩ := Reading.bind_eq_ok.mp hvalue
      -- the entry just read is the first of those still to come
      obtain ⟨after, hafter⟩ := exists_append_of_readPairsAfter hrest
      rw [List.reverse_cons, List.append_assoc, List.append_cancel_left_eq] at hafter
      rcases todo with _ | ⟨g, todo⟩
      · cases hafter
      · obtain ⟨hhead, rfl⟩ := List.cons.inj hafter
        cases hhead
        rw [List.map_cons, List.nodup_cons] at hnodup
        have hfield := hfind g (by simp)
        have hnew : seen.contains g.field.name = false := by simpa using hseen g (by simp)
        rw [readEntriesAfter]
        refine Reading.bind_eq_ok.mpr ⟨g.field.name, s₁, ?_, ?_⟩
        · rw [hp]
          exact agrees_text _ _ _ _ _ _ _ hk
        refine Reading.bind_eq_ok.mpr ⟨⟨g.change draft, g.field.name :: seen⟩, s₂, ?_, ?_⟩
        · simp only [RecordShape.readEntry, hfield, hnew, Bool.false_eq_true, if_false]
          refine Reading.bind_eq_ok.mpr ⟨g.change, s₂, ?_, rfl⟩
          rw [hp]
          exact g.agrees _ _ _ _ _ hv
        · have happly : Given.apply (g :: todo) draft = Given.apply todo (g.change draft) := rfl
          rw [happly, List.map_cons, List.reverse_cons, List.append_assoc]
          rw [List.map_cons, List.append_cons, ← List.reverse_cons] at hrest
          refine ih (fun g' hg' => hfind g' (by simp [hg'])) (fun g' hg' => ?_) hnodup.2 hrest
          rw [List.mem_cons, not_or]
          refine ⟨fun hc => hnodup.1 ?_, hseen g' (by simp [hg'])⟩
          exact List.mem_map.mpr ⟨g', hg', hc⟩

theorem find?_given {given : List (Given t depth α)} (hnodup : (given.map (·.field.name)).Nodup)
    {g : Given t depth α} (hg : g ∈ given) :
    ((given.map Given.field).find? fun f => f.name == g.field.name) = some g.field := by
  rcases hfind : (given.map Given.field).find? (fun f => f.name == g.field.name) with _ | f
  · have hno := List.find?_eq_none.mp hfind g.field (List.mem_map_of_mem hg)
    simp at hno
  · have hname : f.name = g.field.name := by simpa using List.find?_some hfind
    obtain ⟨g', hg', rfl⟩ := List.mem_map.mp (List.mem_of_find?_eq_some hfind)
    rw [hfind, List.inj_on_of_nodup_map hnodup hg' hg hname]

/-- **A record is read field by field**, if every field is there. -/
theorem agrees_record {shape : RecordShape Place Reading α} (given : List (Given t depth α))
    (hfields : shape.fields = given.map Given.field)
    (hnodup : (given.map (·.field.name)).Nodup) :
    Agrees t (depth + 1) (readRecord t shape) (Given.apply given shape.blank)
      (.record (given.map Given.entry)) := by
  intro path path' node s s' hread
  obtain ⟨node', s₁, hfollow, hresolved⟩ := readValue_eq_ok.mp hread
  refine Reading.bind_eq_ok.mpr ⟨node', s₁, hfollow, ?_⟩
  cases resolved_of_readResolved rfl hresolved with
  | scalar mark tag style text v hstate htag hv => cases hv.1
  | mapping mark tag parts es hdeeper hparts =>
    have hentries : (readEntriesAfter t shape ⟨.mapping mark tag parts true, path', depth⟩
        ⟨shape.blank, []⟩ (pairUp parts)).run s₁ =
          .ok (⟨Given.apply given shape.blank, (given.map (·.field.name)).reverse ++ []⟩, s') :=
      readEntriesAfter_of_readPairsAfter rfl
        (fun g hg => by rw [hfields]; exact find?_given hnodup hg) (by simp) hnodup hparts
    have hmissing : shape.missing ((given.map (·.field.name)).reverse ++ []) = none := by
      rw [RecordShape.missing, Option.map_eq_none_iff, List.find?_eq_none, hfields]
      rintro f hf
      obtain ⟨g, hg, rfl⟩ := List.mem_map.mp hf
      simp only [Bool.and_eq_true, Bool.not_eq_true', List.contains_eq_mem, decide_eq_false_iff_not,
        not_and, not_not]
      rintro -
      simpa using ⟨g, hg, rfl⟩
    dsimp only
    rw [if_neg (Nat.succ_ne_zero depth)]
    refine Reading.bind_eq_ok.mpr ⟨_, s', hentries, ?_⟩
    refine Reading.bind_eq_ok.mpr ⟨(), s', reach_eq_ok.mpr ⟨rfl, rfl⟩, ?_⟩
    rw [RecordShape.finish, hmissing]
    rfl

/-- A field that is a text. -/
def Given.ofText (name : String) (put : String → α → α) (a : String) : Given t depth α :=
  ⟨textField (source t) name put, put a, .text a, (agrees_text "a string" a).map put⟩

/-- A field that is read in a way of its own. -/
def Given.ofRead {read : Place → Reading β} {b : β} {v : Value} (name : String) (put : β → α → α)
    (h : Agrees t depth read b v) : Given t depth α :=
  ⟨⟨name, true, fun p => do pure (put (← read p))⟩, put b, v, h.map put⟩

/-! ### Indexes -/

theorem agrees_typeInfo (info : TypeInfo) :
    Agrees t (depth + 1) (readRecord t (typeInfoShape (source t) (readKind t))) info
      info.toValue := by
  let given : List (Given t depth TypeInfo) :=
    [.ofRead "kind" (fun k r => { r with kind := k }) (agrees_kind info.kind),
      .ofText "name" (fun a r => { r with name := a }) info.name]
  have hnodup : (given.map (·.field.name)).Nodup := by
    simp [given, Given.ofRead, Given.ofText, textField]
  exact agrees_record given rfl hnodup

theorem agrees_indexEntry (e : IndexEntry) :
    Agrees t (depth + 2) (readRecord t (indexEntryShape (source t) (readKind t))) e e.toValue := by
  let given : List (Given t (depth + 1) IndexEntry) :=
    [.ofRead "kotlin" (fun info r => { r with kotlin := info }) (agrees_typeInfo e.kotlin),
      .ofRead "java" (fun info r => { r with java := info }) (agrees_typeInfo e.java)]
  have hnodup : (given.map (·.field.name)).Nodup := by simp [given, Given.ofRead]
  exact agrees_record given rfl hnodup

/-- **An index is read with its kinds** where its value is. -/
theorem agrees_index (index : MappingIndex) :
    Agrees t (depth + 4) (readRecord t (indexShape (source t) (readKind t))) index
      index.toValue := by
  have hentries : Agrees t (depth + 3)
      (readList t (readRecord t (indexEntryShape (source t) (readKind t)))) index.entries
      (.list (index.entries.map IndexEntry.toValue)) := by
    refine agrees_list ?_
    rw [List.forall₂_map_right_iff, List.forall₂_same]
    intro e _
    exact agrees_indexEntry e
  let given : List (Given t (depth + 3) MappingIndex) :=
    [.ofRead "mappings" (fun es r => { r with entries := es }) hentries]
  have hnodup : (given.map (·.field.name)).Nodup := by simp [given]
  exact agrees_record given rfl hnodup

/-! ### Reports -/

theorem agrees_member (m : MemberMatch) (typeName key : String)
    (hjava : key ≠ "java_method") (hnote : key ≠ "note") :
    Agrees t (depth + 1) (readRecord t (memberShape (source t) typeName key)) m
      (m.toValue key) := by
  let given : List (Given t depth MemberMatch) :=
    [.ofText key (fun a r => { r with kotlin := a }) m.kotlin,
      .ofText "java_method" (fun a r => { r with java := a }) m.java,
      .ofText "note" (fun a r => { r with note := a }) m.note]
  have hnodup : (given.map (·.field.name)).Nodup := by
    simp [given, Given.ofText, textField, hjava, hnote]
  exact agrees_record given rfl hnodup

theorem agrees_members (ms : List MemberMatch) (typeName key : String)
    (hjava : key ≠ "java_method") (hnote : key ≠ "note") :
    Agrees t (depth + 2) (readList t (readRecord t (memberShape (source t) typeName key))) ms
      (.list (ms.map (MemberMatch.toValue key))) := by
  refine agrees_list ?_
  rw [List.forall₂_map_right_iff, List.forall₂_same]
  intro m _
  exact agrees_member m typeName key hjava hnote

/-- **A report is read without the members that became nothing** where its value is. -/
theorem agrees_report (r : Report) :
    Agrees t (depth + 3) (readRecord t (reportShape (source t))) r.mapped r.toValue := by
  let given : List (Given t (depth + 2) Report) :=
    [.ofText "kotlin_type" (fun a r => { r with kotlinType := a }) r.kotlinType,
      .ofText "java_type" (fun a r => { r with javaType := a }) r.javaType,
      .ofRead "property_mappings" (fun ms r => { r with properties := ms })
        (agrees_members r.properties "PropertyCorrespondence" "kotlin_property" (by decide)
          (by decide)),
      .ofRead "method_mappings" (fun ms r => { r with methods := ms })
        (agrees_members r.methods "MethodCorrespondence" "kotlin_method" (by decide) (by decide))]
  have hnodup : (given.map (·.field.name)).Nodup := by
    simp [given, Given.ofRead, Given.ofText, textField]
  exact agrees_record given rfl hnodup

/-! ### Whole texts -/

/-- **A text is read whole**: nothing in it is at fault and nothing follows. -/
theorem readWith_eq_ok {text : String} {read : Tree → Reading α} {a : α} :
    readWith text read = .ok a ↔
      firstControl 0 text.toList = none ∧ (Tree.ofText text.toList).damage = none ∧
        (Tree.ofText text.toList).followed = false ∧
        ∃ n, (read (Tree.ofText text.toList)).run 0 = .ok (a, n) := by
  unfold readWith
  dsimp only
  generalize Tree.ofText text.toList = tree
  rcases firstControl 0 text.toList with _ | offset
  · rcases (read tree).run 0 with e | ⟨b, n⟩
    · simp
    · rcases tree.damage with _ | damage
      · cases tree.followed <;> simp
      · simp
  · simp

/-- **An index is read back with its kinds** from a text that has its value. -/
theorem parseIndex_of_parseValue {text : String} {index : MappingIndex}
    (h : parseValue text = .ok index.toValue) : parseIndex text = .ok index := by
  obtain ⟨hcontrol, hdamage, hfollowed, n, hread⟩ := readWith_eq_ok.mp h
  exact readWith_eq_ok.mpr ⟨hcontrol, hdamage, hfollowed, n, agrees_index index _ _ _ _ _ hread⟩

/-- **A report is read back**, without the members that became nothing, from a text that has its
value. -/
theorem parseReport_of_parseValue {text : String} {r : Report}
    (h : parseValue text = .ok r.toValue) : parseReport text = .ok r.mapped := by
  obtain ⟨hcontrol, hdamage, hfollowed, n, hread⟩ := readWith_eq_ok.mp h
  exact readWith_eq_ok.mpr ⟨hcontrol, hdamage, hfollowed, n, agrees_report r _ _ _ _ _ hread⟩

end Yaml

/-! ### What is written is read -/

/-- A bare name is a side of a pair. -/
theorem Side.read_text (name : String) : Side.read (.text name) = .ok name := rfl

theorem Yaml.mapM_readPair_pair (pairs : List MappingPair) :
    (pairs.map MappingPair.toValue).mapM Yaml.readPair = .ok pairs := by
  induction pairs with
  | nil => rfl
  | cons pair rest ih =>
    have hpair : Yaml.readPair pair.toValue = .ok pair :=
      Yaml.readPair_fields (Side.read_text pair.kotlin) (Side.read_text pair.java)
    rw [List.map_cons, List.mapM_cons, hpair, ih]
    rfl

/-- **The document of a list of pairs gives the pairs**, in order. -/
theorem pairsOfValue_mappedTypesDocument (pairs : List MappingPair) :
    pairsOfValue (mappedTypesDocument pairs) = .ok pairs := by
  have hlist : pairList (mappedTypesDocument pairs) =
      .ok (.list (pairs.map MappingPair.toValue)) := by
    simp [pairList, mappedTypesDocument, Value.fields, Value.field?, Value.same]
  have hpairs : Yaml.readPairs (.list (pairs.map MappingPair.toValue)) = .ok pairs :=
    Yaml.mapM_readPair_pair pairs
  rw [pairsOfValue, hlist]
  simp only [hpairs]

/-- **Every mapped-types document that is written is one that is read**, if its text is read as the
value that it was printed from. A list of pairs gives the pairs back. An index gives its names in
order to the reader that wants pairs, and is read back with its kinds by the reader that wants an
index; and its text is what writing the index leaves at the path. -/
theorem documents_read_back {pairs : List MappingPair} {index : MappingIndex}
    (hpairs : Yaml.ReadsBack (mappedTypesDocument pairs))
    (hindex : Yaml.ReadsBack index.toValue) :
    parsePairs (pairsText pairs) = .ok pairs ∧
      parsePairs index.text = .ok (index.entries.map fun e => ⟨e.kotlin.name, e.java.name⟩) ∧
      Yaml.parseIndex index.text = .ok index ∧
      ∀ (w w' : World) (path : String), w.disk.IsTree →
        (writeIndex path index).run.run w = (.ok (), w') →
        w'.disk.readFile w'.cwd path = .ok index.text.toUTF8 := by
  have hread : Yaml.parseValue (pairsText pairs) = .ok (mappedTypesDocument pairs) := hpairs
  refine ⟨?_, parsePairs_text hindex, Yaml.parseIndex_of_parseValue hindex, ?_⟩
  · rw [parsePairs, hread]
    exact pairsOfValue_mappedTypesDocument pairs
  · intro w w' path htree hrun
    have hwritten : Written _ _ _ w ((writeIndex path index).run.run w) :=
      atomicWrite_run htree path index.text.toUTF8
    rw [hrun] at hwritten
    exact hwritten.readFile rfl

/-- Names that look like nothing at all, a truth value, a number, an entry and several lines. -/
theorem documents_read_back_odd : ∃ (pairs : List MappingPair) (index : MappingIndex),
    pairs = [⟨"", "null"⟩, ⟨"true", "-0x1F"⟩, ⟨"a\n\n b\n", "\"it's\": #1"⟩] ∧
    index = ⟨[⟨⟨.interfaceKind, ""⟩, ⟨.classKind, "~"⟩⟩,
      ⟨⟨.classKind, "1e3"⟩, ⟨.interfaceKind, "\r\n'"⟩⟩]⟩ ∧
    Yaml.ReadsBack (mappedTypesDocument pairs) ∧ Yaml.ReadsBack index.toValue ∧
    parsePairs (pairsText pairs) = .ok pairs ∧
    parsePairs index.text = .ok [⟨"", "~"⟩, ⟨"1e3", "\r\n'"⟩] ∧
    Yaml.parseIndex index.text = .ok index ∧
    ∃ w', (writeIndex "index.yaml" index).run.run (.start ⟨[(["work"], .directory)]⟩ ["work"]) =
        (.ok (), w') ∧
      w'.disk.readFile w'.cwd "index.yaml" = .ok index.text.toUTF8 := by
  refine ⟨_, _, rfl, rfl, ?_⟩
  generalize hpairs : ([_, _, _] : List MappingPair) = pairs
  generalize hindex : (⟨[_, _]⟩ : MappingIndex) = index
  have hback : Yaml.ReadsBack (mappedTypesDocument pairs) := by
    rw [← hpairs]
    exact Yaml.readsBack_of_agrees (by decide +kernel)
  have hback' : Yaml.ReadsBack index.toValue := by
    rw [← hindex]
    exact Yaml.readsBack_of_agrees (by decide +kernel)
  obtain ⟨hlist, hnames, hkinds, hwrite⟩ := documents_read_back hback hback'
  refine ⟨hback, hback', hlist, ?_, hkinds, ?_⟩
  · rw [hnames, ← hindex]
    rfl
  · have hok : ((writeIndex "index.yaml" index).run.run
        (.start ⟨[(["work"], .directory)]⟩ ["work"])).1.isOk = true := by
      rw [← hindex]
      decide +kernel
    have htree : Disk.IsTree ⟨[(["work"], .directory)]⟩ := by decide +kernel
    obtain ⟨_, w', hrun⟩ := exists_of_isOk hok
    exact ⟨w', hrun, hwrite _ w' _ htree hrun⟩

end TwinTypes
