import Mathlib.Data.List.Pairwise
import TwinTypes.Proofs.Run.RoundTrip
import TwinTypes.Proofs.Text.ByteOrder

/-!
# What an index says of a directory

An index is complete and sound for any contents of its directory, hand-made ones included
(`buildIndex_stubs`). What counts is which stubs stand in which immediate subdirectory
(`TwinTypes.Disk.ShowsEntry`); everything else in the directory is passed over, and none of it makes
the indexing fail.

Two subdirectories may show the same two names, with the same kinds or with others. The entry of the
one with the smaller name is kept. That is read off the listing, which is in increasing order of
names (`IsTree.pairwise_names`), while the index is in the order of the names that the stubs declare.
-/

namespace TwinTypes

open Disk (placeOf)
open Text (utf8Bytes lt_iff_utf8Bytes_lt)

/-! ### Paths into a subdirectory -/

namespace Disk

/-- **A file in a subdirectory** can be read if the path to it is not too long. -/
theorem IsTree.readFile_join_join {d : Disk} (h : d.IsTree) {cwd : Location}
    {root name file : String} (hroot : d.isDirectory cwd root = true) (hname : Path.IsSegment name)
    (hfile : Path.IsSegment file) {bytes : ByteArray} :
    d.readFile cwd (Path.join (Path.join root name) file) = .ok bytes ↔
      d.get? (placeOf cwd root ++ [name, file]) = some (.file bytes) ∧
        (Path.join (Path.join root name) file).utf8ByteSize ≤ pathLimit := by
  have hrel := Path.isAbsolute_of_notMem hname.slash
  have hrel' := Path.isAbsolute_of_notMem hfile.slash
  have hplace : placeOf cwd (Path.join (Path.join root name) file) =
      placeOf cwd root ++ [name, file] := by
    rw [placeOf_join _ _ hfile, placeOf_join _ _ hname, List.append_assoc]
    rfl
  rw [h.readFile_eq_ok_iff, hplace]
  constructor
  · rintro ⟨hcheck, -, hget⟩
    exact ⟨hget, (of_checkPath hcheck).2.2⟩
  · rintro ⟨hget, hsize⟩
    obtain ⟨hcheck, hopen, hdir⟩ := h.isDirectory_iff.mp hroot
    -- what stands there has a name, and so has the directory that it stands in
    have hparent : d.get? ((placeOf cwd root ++ [name]) ++ [file]) = some (.file bytes) := by
      simpa using hget
    obtain ⟨hfile', hsub⟩ := h.get?_parent hparent
    obtain ⟨hname', -⟩ := h.get?_parent hsub
    simp only [isName, Bool.and_eq_true, bne_iff_ne, ne_eq, Bool.not_eq_true', List.contains_eq_mem,
      decide_eq_false_iff_not, decide_eq_true_eq] at hfile' hname'
    refine ⟨checkPath_eq_ok_iff.mpr ⟨fun hnul => ?_, ?_, hsize⟩, open_steps.mpr ⟨?_, ?_⟩, hget⟩
    · rcases Path.mem_join hrel' hnul with hnul | hnul | hnul
      · rcases Path.mem_join hrel hnul with hnul | hnul | hnul
        · exact (of_checkPath hcheck).1 hnul
        · exact absurd hnul (by decide)
        · exact hname'.1.2 hnul
      · exact absurd hnul (by decide)
      · exact hfile'.1.2 hnul
    · obtain ⟨front, hfront⟩ := Path.exists_join_eq (Path.join root name) hrel'
      rw [hfront]
      simp [hfile.ne_empty]
    · rw [origin_join hrel', origin_join hrel, Path.bareSteps_join hrel', Path.bareSteps_join hrel,
        hname.bareSteps, hfile.bareSteps, List.append_assoc, open_append]
      refine ⟨hopen, hdir, hname'.2, ?_, hfile'.2, trivial⟩
      rw [move_of_isSegment hname]
      exact hsub
    -- the path ends with the name of the file, and so with no slash
    · rintro ⟨hslash, -⟩
      obtain ⟨front, hfront⟩ := Path.exists_join_eq (Path.join root name) hrel'
      rw [hfront, String.toList_append, List.getLast?_append_of_ne_nil _
        (by simpa [String.toList_eq_nil_iff] using hfile.ne_empty)] at hslash
      exact absurd (List.mem_of_getLast? hslash) hfile.slash

/-- **A listing is in increasing order of names.** -/
theorem IsTree.pairwise_names {d : Disk} (h : d.IsTree) (dir : Location) :
    (d.names dir).Pairwise fun a b => a.1 < b.1 := by
  unfold names children
  rw [List.pairwise_map, List.pairwise_filterMap]
  refine h.ordered.imp fun {a b} hlt => ?_
  rintro _ ha _ hb
  obtain ⟨x, hx, rfl⟩ := Option.map_eq_some_iff.mp ha
  obtain ⟨y, hy, rfl⟩ := Option.map_eq_some_iff.mp hb
  rw [childName_eq_some_iff.mp hx, childName_eq_some_iff.mp hy] at hlt
  change x < y
  by_contra hle
  rcases lt_or_eq_of_le (not_lt.mp hle) with hback | rfl
  · have hback' : dir ++ [y] < dir ++ [x] :=
      List.append_left_lt (List.cons_lt_cons_iff.mpr (Or.inl hback))
    exact List.lt_asymm hlt hback'
  · exact List.lt_irrefl _ hlt

end Disk

/-! ### What a subdirectory shows -/

/-- **A file in a subdirectory declares a type**: it holds a text that does, and the path to it is
not too long to be followed. -/
def Disk.Declares (d : Disk) (cwd : Location) (root name file : String) (info : TypeInfo) : Prop :=
  (∃ text : String, d.get? (placeOf cwd root ++ [name, file]) = some (.file text.toUTF8) ∧
      readTypeInfo text = some info) ∧
    (Path.join (Path.join root name) file).utf8ByteSize ≤ Disk.pathLimit

/-- **A subdirectory shows an entry**: its two stubs declare the two types. -/
def Disk.ShowsEntry (d : Disk) (cwd : Location) (root name : String) (e : IndexEntry) : Prop :=
  d.Declares cwd root name kotlinFile e.kotlin ∧ d.Declares cwd root name javaFile e.java

theorem fromUTF8?_eq_some_iff {bytes : ByteArray} {text : String} :
    String.fromUTF8? bytes = some text ↔ bytes = text.toUTF8 := by
  constructor
  · intro h
    unfold String.fromUTF8? at h
    split at h
    · rw [← Option.some.inj h]
      rfl
    · cases h
  · rintro rfl
    exact fromUTF8?_toUTF8 text

theorem stubAt_eq_some_iff {d : Disk} {cwd : Location} {path : String} {info : TypeInfo} :
    stubAt d cwd path = some info ↔
      ∃ text : String, d.readFile cwd path = .ok text.toUTF8 ∧ readTypeInfo text = some info := by
  unfold stubAt
  cases d.readFile cwd path with
  | error e => simp
  | ok bytes => simp [Option.bind_eq_some_iff, fromUTF8?_eq_some_iff]

section Subdirectory

variable {d : Disk} {cwd : Location} {root name : String} {e : IndexEntry}

theorem Disk.declares_iff (h : d.IsTree) (hroot : d.isDirectory cwd root = true)
    (hname : Path.IsSegment name) {file : String} (hfile : Path.IsSegment file) {info : TypeInfo} :
    d.Declares cwd root name file info ↔
      stubAt d cwd (Path.join (Path.join root name) file) = some info := by
  rw [stubAt_eq_some_iff, Disk.Declares]
  simp only [h.readFile_join_join hroot hname hfile]
  constructor
  · rintro ⟨⟨text, hget, hread⟩, hsize⟩
    exact ⟨text, ⟨hget, hsize⟩, hread⟩
  · rintro ⟨text, ⟨hget, hsize⟩, hread⟩
    exact ⟨⟨text, hget, hread⟩, hsize⟩

/-- What stands in a directory that shows an entry has a name. -/
theorem Disk.ShowsEntry.get? (h : d.IsTree) (he : d.ShowsEntry cwd root name e) :
    d.get? (placeOf cwd root ++ [name]) = some .directory := by
  obtain ⟨⟨⟨text, hget, -⟩, -⟩, -⟩ := he
  have hfile : d.get? ((placeOf cwd root ++ [name]) ++ [kotlinFile]) =
      some (.file text.toUTF8) := by
    simpa using hget
  exact (h.get?_parent hfile).2

/-- **The entry that is read in a subdirectory** is the one that it shows. -/
theorem Disk.showsEntry_iff (h : d.IsTree) (hroot : d.isDirectory cwd root = true) :
    d.ShowsEntry cwd root name e ↔
      (name, true) ∈ d.names (placeOf cwd root) ∧
        entryAt d cwd (Path.join root name) = some e := by
  have hkotlin : Path.IsSegment kotlinFile :=
    isSegment_of_mem_artifactNames (by simp [artifactNames])
  have hjava : Path.IsSegment javaFile := isSegment_of_mem_artifactNames (by simp [artifactNames])
  have hentry : entryAt d cwd (Path.join root name) = some e ↔
      stubAt d cwd (Path.join (Path.join root name) kotlinFile) = some e.kotlin ∧
        stubAt d cwd (Path.join (Path.join root name) javaFile) = some e.java := by
    unfold entryAt
    cases stubAt d cwd (Path.join (Path.join root name) kotlinFile) <;>
      cases stubAt d cwd (Path.join (Path.join root name) javaFile) <;> cases e <;> simp
  rw [hentry]
  constructor
  · intro he
    have hdir := he.get? h
    have hname := Disk.isSegment_of_isName (h.get?_parent hdir).1
    refine ⟨h.mem_names_iff.mpr ⟨.directory, hdir, by simp⟩, ?_, ?_⟩
    · exact (Disk.declares_iff h hroot hname hkotlin).mp he.1
    · exact (Disk.declares_iff h hroot hname hjava).mp he.2
  · rintro ⟨hmem, hk, hj⟩
    obtain ⟨entry, hget, -⟩ := h.mem_names_iff.mp hmem
    have hname := Disk.isSegment_of_isName (h.get?_parent hget).1
    exact ⟨(Disk.declares_iff h hroot hname hkotlin).mpr hk,
      (Disk.declares_iff h hroot hname hjava).mpr hj⟩

end Subdirectory

/-! ### The first subdirectory of two names -/

/-- The first entry of its names is found at the front, or further on if nothing at the front has
them. -/
theorem IndexEntry.firstIn_append_iff {e : IndexEntry} {front rest : List IndexEntry} :
    e.FirstIn (front ++ rest) ↔
      e.FirstIn front ∨ (∀ a ∈ front, a.pair ≠ e.pair) ∧ e.FirstIn rest := by
  induction front with
  | nil => simp [IndexEntry.FirstIn]
  | cons a front ih =>
    rw [List.cons_append, IndexEntry.firstIn_cons_iff, IndexEntry.firstIn_cons_iff, ih,
      List.forall_mem_cons]
    tauto

/-- An entry read under the name at the front, if it is that of a directory. -/
theorem mem_entriesAt_singleton {d : Disk} {cwd : Location} {root : String} {name : String × Bool}
    {e : IndexEntry} : e ∈ entriesAt d cwd root [name] ↔
      name.2 = true ∧ entryAt d cwd (Path.join root name.1) = some e := by
  cases hdir : name.2 <;> simp [entriesAt, hdir]

theorem firstIn_entriesAt_singleton {d : Disk} {cwd : Location} {root : String}
    {name : String × Bool} {e : IndexEntry} : e.FirstIn (entriesAt d cwd root [name]) ↔
      name.2 = true ∧ entryAt d cwd (Path.join root name.1) = some e := by
  refine ⟨fun h => mem_entriesAt_singleton.mp h.mem, fun ⟨hdir, he⟩ => ⟨[], [], ?_, by simp⟩⟩
  simp [entriesAt, hdir, he]

/-- **The first entry of its names in a listing** is the one of the smallest name that shows
them. -/
theorem firstIn_entriesAt_iff {d : Disk} {cwd : Location} {root : String}
    {names : List (String × Bool)} (hnames : names.Pairwise fun a b => a.1 < b.1)
    {e : IndexEntry} : e.FirstIn (entriesAt d cwd root names) ↔
      ∃ name, ((name, true) ∈ names ∧ entryAt d cwd (Path.join root name) = some e) ∧
        ∀ other < name, ∀ e', (other, true) ∈ names →
          entryAt d cwd (Path.join root other) = some e' → e'.pair ≠ e.pair := by
  induction names with
  | nil => simp [entriesAt, IndexEntry.FirstIn]
  | cons first rest ih =>
    obtain ⟨hfirst, hrest⟩ := List.pairwise_cons.mp hnames
    have hsplit : entriesAt d cwd root (first :: rest) =
        entriesAt d cwd root [first] ++ entriesAt d cwd root rest := by
      simp [entriesAt]
    rw [hsplit, IndexEntry.firstIn_append_iff, firstIn_entriesAt_singleton, ih hrest]
    constructor
    · rintro (⟨hdir, he⟩ | ⟨hother, name, ⟨hmem, he⟩, hsmaller⟩)
      -- no name of the listing is smaller than the first one
      · refine ⟨first.1, ⟨by simp [← hdir], he⟩, fun other hlt e' hmem => ?_⟩
        rcases List.mem_cons.mp hmem with heq | hmem
        · rw [← heq] at hlt
          exact absurd hlt (lt_irrefl _)
        · exact absurd (hfirst _ hmem) (lt_asymm hlt)
      · refine ⟨name, ⟨List.mem_cons_of_mem _ hmem, he⟩, fun other hlt e' hmem' he' => ?_⟩
        rcases List.mem_cons.mp hmem' with heq | hmem'
        · exact hother e' (mem_entriesAt_singleton.mpr (heq ▸ ⟨rfl, he'⟩))
        · exact hsmaller other hlt e' hmem' he'
    · rintro ⟨name, ⟨hmem, he⟩, hsmaller⟩
      rcases List.mem_cons.mp hmem with heq | hmem
      · exact Or.inl (heq ▸ ⟨rfl, he⟩)
      · refine Or.inr ⟨fun a ha => ?_, name, ⟨hmem, he⟩, fun other hlt e' hmem' he' => ?_⟩
        · obtain ⟨hdir, ha⟩ := mem_entriesAt_singleton.mp ha
          exact hsmaller first.1 (hfirst _ hmem) a (by simp [← hdir]) ha
        · exact hsmaller other hlt e' (List.mem_cons_of_mem _ hmem') he'

/-! ### The index of a directory -/

/-- **Before** in the order of an index, by bytes. -/
def MappingPair.BytesBefore (p q : MappingPair) : Prop :=
  utf8Bytes p.kotlin < utf8Bytes q.kotlin ∨
    p.kotlin = q.kotlin ∧ utf8Bytes p.java < utf8Bytes q.java

theorem MappingPair.bytesBefore_iff {p q : MappingPair} : p.BytesBefore q ↔ p.Before q := by
  rw [BytesBefore, Before, lt_iff_utf8Bytes_lt, lt_iff_utf8Bytes_lt]

variable {w : World} {root : String}

/-- **The index of a directory**, whatever the directory holds. Indexing a directory that is there
does not fail. The entries are in strictly increasing order of their names, so no two names come
twice; and they are what the subdirectories show, each one from the subdirectory of the smallest
name that shows those names. -/
theorem buildIndex_stubs (h : w.disk.IsTree) (hroot : w.disk.isDirectory w.cwd root = true) :
    ∃ index, ((buildIndex root).run.run w).1 = .ok index ∧
      (index.entries.Pairwise fun a b => a.pair.BytesBefore b.pair) ∧
      ∀ e, e ∈ index.entries ↔ ∃ name, w.disk.ShowsEntry w.cwd root name e ∧
        ∀ other, utf8Bytes other < utf8Bytes name → ∀ e',
          w.disk.ShowsEntry w.cwd root other e' → e'.pair ≠ e.pair := by
  obtain ⟨hindex, -⟩ := buildIndex_run root w
  rw [h.list_of_isDirectory hroot] at hindex
  refine ⟨_, hindex, (indexOf_sorted _).imp MappingPair.bytesBefore_iff.mpr, fun e => ?_⟩
  rw [mem_indexOf_iff, firstIn_entriesAt_iff (h.pairwise_names _)]
  simp only [Disk.showsEntry_iff h hroot, lt_iff_utf8Bytes_lt, and_imp]

/-- Two subdirectories show the same names with different kinds, and a file stands beside them: the
kinds are those of the subdirectory with the smaller name. -/
theorem buildIndex_stubs_twice : ∃ disk : Disk, disk.IsTree ∧
    disk.isDirectory ["work"] "out" = true ∧
    disk.ShowsEntry ["work"] "out" "a" ⟨⟨.classKind, "K"⟩, ⟨.classKind, "J"⟩⟩ ∧
    disk.ShowsEntry ["work"] "out" "b" ⟨⟨.interfaceKind, "K"⟩, ⟨.classKind, "J"⟩⟩ ∧
    ∃ index, ((buildIndex "out").run.run (.start disk ["work"])).1 = .ok index ∧
      ⟨⟨.classKind, "K"⟩, ⟨.classKind, "J"⟩⟩ ∈ index.entries ∧
      ⟨⟨.interfaceKind, "K"⟩, ⟨.classKind, "J"⟩⟩ ∉ index.entries := by
  refine ⟨⟨[(["work"], .directory), (["work", "out"], .directory),
    (["work", "out", "README"], .file .empty), (["work", "out", "a"], .directory),
    (["work", "out", "a", javaFile], .file "class J".toUTF8),
    (["work", "out", "a", kotlinFile], .file "class K".toUTF8),
    (["work", "out", "b"], .directory),
    (["work", "out", "b", javaFile], .file "class J".toUTF8),
    (["work", "out", "b", kotlinFile], .file "interface K".toUTF8)]⟩, ?_⟩
  generalize hdisk : (⟨[_, _, _, _, _, _, _, _, _]⟩ : Disk) = disk
  have htree : disk.IsTree := by
    rw [← hdisk]
    decide +kernel
  have hroot : disk.isDirectory ["work"] "out" = true := by
    rw [← hdisk]
    decide +kernel
  have hplace : placeOf ["work"] "out" = ["work", "out"] := by decide +kernel
  have ha : disk.ShowsEntry ["work"] "out" "a" ⟨⟨.classKind, "K"⟩, ⟨.classKind, "J"⟩⟩ := by
    rw [← hdisk]
    exact ⟨⟨⟨"class K", by decide +kernel, by decide +kernel⟩, by decide +kernel⟩,
      ⟨"class J", by decide +kernel, by decide +kernel⟩, by decide +kernel⟩
  have hb : disk.ShowsEntry ["work"] "out" "b" ⟨⟨.interfaceKind, "K"⟩, ⟨.classKind, "J"⟩⟩ := by
    rw [← hdisk]
    exact ⟨⟨⟨"interface K", by decide +kernel, by decide +kernel⟩, by decide +kernel⟩,
      ⟨"class J", by decide +kernel, by decide +kernel⟩, by decide +kernel⟩
  obtain ⟨index, hindex, hsorted, hmem⟩ := buildIndex_stubs (w := .start disk ["work"]) htree hroot
  have hkept : ⟨⟨.classKind, "K"⟩, ⟨.classKind, "J"⟩⟩ ∈ index.entries := by
    refine (hmem _).mpr ⟨"a", ha, fun other hlt e' he' => ?_⟩
    -- there are only two subdirectories, and neither has a smaller name
    have hentry := Disk.mem_of_get? (by simp) (he'.get? htree)
    rw [World.start, hplace, ← hdisk] at hentry
    have hother : other = "a" ∨ other = "b" := by simpa using hentry
    rcases hother with rfl | rfl <;> exact absurd hlt (by decide +kernel)
  refine ⟨htree, hroot, ha, hb, index, hindex, hkept, fun hdropped => ?_⟩
  have hdistinct : index.entries.Pairwise fun a b => a.pair ≠ b.pair := by
    refine hsorted.imp fun {a b} hlt heq => ?_
    rw [MappingPair.bytesBefore_iff, heq] at hlt
    simp [MappingPair.Before] at hlt
  have : Std.Symm fun a b : IndexEntry => a.pair ≠ b.pair := ⟨fun _ _ h heq => h heq.symm⟩
  exact hdistinct.forall hkept hdropped (by simp) rfl

end TwinTypes
