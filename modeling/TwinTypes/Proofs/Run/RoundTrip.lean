import TwinTypes.Proofs.Run.Generating
import TwinTypes.Proofs.Run.Indexing

/-!
# Indexing what was generated

Generating into an empty place and indexing it gives back the pairs, with the kinds that they were
generated with. What goes in through the directory names, the stubs and
the disk comes out through the listing and the reader of stubs, so the statement asks of the pairs
what each of these needs: that the names are well-formed, and that different pairs have different
directories. Of the disk it asks that nothing stands in the output directory.

It asks one thing more of the path of the output directory, that it is not empty. Files can be
written below the empty path, which is then the directory that the program works in, but it cannot
be listed.
-/

namespace TwinTypes

open Disk (placeOf)

variable {registry : Registry} {pairs : List MappingPair} {out : String} {w w' : World}
  {summary : Summary}

/-- The entry that an index has for a pair. -/
def Registry.indexEntry (registry : Registry) (pair : MappingPair) : IndexEntry :=
  ⟨⟨(registry.lookup pair.kotlin).kind, pair.kotlin⟩, ⟨(registry.lookup pair.java).kind, pair.java⟩⟩

/-- **An index of some pairs**: it has one entry for each of them and no other, in increasing order
of their names. -/
structure MappingIndex.Lists (index : MappingIndex) (registry : Registry)
    (pairs : List MappingPair) : Prop where
  /-- The entries are in strictly increasing order. -/
  sorted : index.entries.Pairwise fun a b => a.pair.Before b.pair
  /-- They are those of the pairs. -/
  mem_iff : ∀ e, e ∈ index.entries ↔ ∃ pair ∈ pairs, e = registry.indexEntry pair

/-! ### The entry of a directory -/

theorem fromUTF8?_toUTF8 (text : String) : String.fromUTF8? text.toUTF8 = some text := by
  have hvalid : text.toUTF8.IsValidUTF8 := text.isValidUTF8
  rw [String.fromUTF8?, dif_pos hvalid]
  rfl

theorem stubAt_of_readFile {d : Disk} {cwd : Location} {path text : String}
    (h : d.readFile cwd path = .ok text.toUTF8) : stubAt d cwd path = readTypeInfo text := by
  rw [stubAt, h]
  simp only [fromUTF8?_toUTF8, Option.bind_some]

/-- **The entry that the stubs of a pair declare**, if both declare something. -/
def Registry.readBack (registry : Registry) (pair : MappingPair) : Option IndexEntry :=
  (readTypeInfo (renderPair registry pair).kotlinStub).bind fun kotlin =>
    (readTypeInfo (renderPair registry pair).javaStub).map fun java => ⟨kotlin, java⟩

/-- The stubs of well-formed names declare the pair. -/
theorem Registry.readBack_of_wellFormedName {pair : MappingPair}
    (hkotlin : WellFormedName pair.kotlin) (hjava : WellFormedName pair.java) :
    registry.readBack pair = some (registry.indexEntry pair) := by
  rw [readBack, renderPair, readTypeInfo_kotlinStub hkotlin, readTypeInfo_javaStub hjava]
  rfl

/-- **What belongs to a pair gives the entry that its stubs declare.** -/
theorem entryAt_eq_readBack {dir : String} {pair : MappingPair}
    (h : w.Holds dir (renderPair registry pair)) :
    entryAt w.disk w.cwd dir = registry.readBack pair := by
  have hk := stubAt_of_readFile (h (kotlinFile, (renderPair registry pair).kotlinStub)
    (by simp [Artifacts.files]))
  have hj := stubAt_of_readFile (h (javaFile, (renderPair registry pair).javaStub)
    (by simp [Artifacts.files]))
  rw [entryAt, hk, hj]
  rfl

/-- A directory with an entry holds a file. -/
theorem get?_of_entryAt {d : Disk} (h : d.IsTree) {cwd : Location} {dir : String} {e : IndexEntry}
    (he : entryAt d cwd dir = some e) :
    ∃ bytes, d.get? (placeOf cwd (Path.join dir kotlinFile)) = some (.file bytes) := by
  obtain ⟨kotlin, hk, -⟩ := Option.bind_eq_some_iff.mp he
  unfold stubAt at hk
  split at hk
  · rename_i bytes hread
    exact ⟨bytes, (h.readFile_eq_ok_iff.mp hread).2.2⟩
  · cases hk

theorem mem_entriesAt_iff {d : Disk} {cwd : Location} {root : String} {names : List (String × Bool)}
    {e : IndexEntry} : e ∈ entriesAt d cwd root names ↔
      ∃ name, (name, true) ∈ names ∧ entryAt d cwd (Path.join root name) = some e := by
  unfold entriesAt
  rw [List.mem_flatMap]
  constructor
  · rintro ⟨⟨name, isDir⟩, hname, he⟩
    cases isDir with
    | false => simp at he
    | true => exact ⟨name, hname, by simpa using he⟩
  · rintro ⟨name, hname, he⟩
    exact ⟨(name, true), hname, by simp [he]⟩

/-! ### The entries after a run -/

/-- What a run leaves behind in a place that was empty: each directory holds what belongs to the
pair that keeps it. -/
structure Output (registry : Registry) (pairs : List MappingPair) (out : String) (w w' : World) :
    Prop where
  /-- The program works in the same directory. -/
  cwd : w'.cwd = w.cwd
  /-- It is a tree. -/
  tree : w'.disk.IsTree
  /-- The directory that a pair keeps holds what belongs to it. -/
  holds : ∀ pair, pair.LastIn pairs →
    w'.Holds (Path.join out pair.dirName) (renderPair registry pair)
  /-- No other directory holds a file. -/
  only : ∀ name file bytes, w'.disk.get? (placeOf w.cwd out ++ [name, file]) = some (.file bytes) →
    ∃ pair ∈ pairs, pair.dirName = name

theorem output_of_leaves
    {note : List GeneratedPair × String → GeneratedPair → List GeneratedPair × String}
    (h : w.disk.IsTree) (hempty : ∀ name, w.disk.get? (placeOf w.cwd out ++ [name]) = none)
    (hleaves : Leaves registry out note pairs pairs.length w w') :
    Output registry pairs out w w' where
  cwd := hleaves.cwd
  tree := hleaves.disk.tree
  holds pair := hleaves.holds_of_lastIn
  only name file bytes hfile := by
    rcases hleaves.disk.cases (placeOf w.cwd out ++ [name, file]) with
      hsame | ⟨-, -, hdir⟩ | ⟨⟨pair, hpair, file', -, hloc⟩, -⟩
    -- a file that was there before would stand in a directory that was not
    · rw [hsame] at hfile
      have hparent := h.get?_dropLast hfile
      have hplace : (placeOf w.cwd out ++ [name, file]).dropLast = placeOf w.cwd out ++ [name] := by
        simp
      rw [hplace, hempty name] at hparent
      cases hparent
    · rw [hdir] at hfile
      cases hfile
    · refine ⟨pair, hpair, ?_⟩
      have hnames : [name, file] = [pair.dirName, file'] := by
        rw [pairPlace, List.append_assoc] at hloc
        exact List.append_cancel_left hloc
      exact (List.cons.inj hnames).1.symm

/-- **The entries that are found** are those that the stubs of the pairs declare. -/
theorem Output.mem_entriesAt_iff (h : Output registry pairs out w w') (e : IndexEntry) :
    e ∈ entriesAt w'.disk w'.cwd out (w'.disk.names (placeOf w'.cwd out)) ↔
      ∃ pair, pair.LastIn pairs ∧ registry.readBack pair = some e := by
  have hkotlin : Path.IsSegment kotlinFile :=
    isSegment_of_mem_artifactNames (by simp [artifactNames])
  rw [TwinTypes.mem_entriesAt_iff]
  constructor
  · rintro ⟨name, hname, he⟩
    obtain ⟨entry, hget, -⟩ := h.tree.mem_names_iff.mp hname
    obtain ⟨bytes, hfile⟩ := get?_of_entryAt h.tree he
    -- a directory with an entry holds a file, so it is kept by a pair
    have hsegment := Disk.isSegment_of_isName (h.tree.get?_parent hget).1
    rw [Disk.placeOf_join _ _ hkotlin, Disk.placeOf_join _ _ hsegment, h.cwd,
      List.append_assoc] at hfile
    obtain ⟨pair, hlast, rfl⟩ := MappingPair.exists_lastIn (h.only name kotlinFile bytes hfile)
    exact ⟨pair, hlast, entryAt_eq_readBack (h.holds pair hlast) ▸ he⟩
  · rintro ⟨pair, hlast, he⟩
    rw [← entryAt_eq_readBack (h.holds pair hlast)] at he
    refine ⟨pair.dirName, h.tree.mem_names_iff.mpr ⟨.directory, ?_, by simp⟩, he⟩
    obtain ⟨bytes, hfile⟩ := get?_of_entryAt h.tree he
    rw [Disk.placeOf_join _ _ hkotlin, Disk.placeOf_join _ _ pair.isSegment_dirName] at hfile
    exact (h.tree.get?_parent hfile).2

/-- What a run leaves behind in a place that was empty, if different pairs have different
directories. -/
structure Fresh (registry : Registry) (pairs : List MappingPair) (out : String) (w w' : World) :
    Prop extends Output registry pairs out w w' where
  /-- Every pair keeps its directory. -/
  lastIn_iff : ∀ pair, pair.LastIn pairs ↔ pair ∈ pairs

theorem fresh_of_leaves
    {note : List GeneratedPair × String → GeneratedPair → List GeneratedPair × String}
    (h : w.disk.IsTree) (hempty : ∀ name, w.disk.get? (placeOf w.cwd out ++ [name]) = none)
    (hdirs : ∀ p ∈ pairs, ∀ q ∈ pairs, p.dirName = q.dirName → p = q)
    (hleaves : Leaves registry out note pairs pairs.length w w') :
    Fresh registry pairs out w w' where
  toOutput := output_of_leaves h hempty hleaves
  lastIn_iff pair := by
    refine ⟨MappingPair.LastIn.mem, fun hmem => ?_⟩
    obtain ⟨q, hlast, hdir⟩ := MappingPair.exists_lastIn ⟨pair, hmem, rfl⟩
    exact hdirs q hlast.mem pair hmem hdir ▸ hlast

/-- **The entries that are found** are those of the pairs. -/
theorem Fresh.mem_entriesAt_iff (h : Fresh registry pairs out w w')
    (hnames : ∀ p ∈ pairs, WellFormedName p.kotlin ∧ WellFormedName p.java) (e : IndexEntry) :
    e ∈ entriesAt w'.disk w'.cwd out (w'.disk.names (placeOf w'.cwd out)) ↔
      ∃ pair ∈ pairs, e = registry.indexEntry pair := by
  rw [h.toOutput.mem_entriesAt_iff]
  refine exists_congr fun pair => ?_
  rw [h.lastIn_iff]
  refine and_congr_right fun hmem => ?_
  rw [Registry.readBack_of_wellFormedName (hnames pair hmem).1 (hnames pair hmem).2]
  simp [eq_comm]

/-! ### The index -/

/-- The empty path names nothing. -/
theorem Disk.list_empty (d : Disk) (cwd : Location) : d.list cwd "" = .error .notFound := by
  have hresolve : d.resolve cwd false "" = .error .notFound := rfl
  rw [Disk.list, hresolve]

/-- **Generating and then indexing** loses, invents and renames nothing, exactly if the path of the
output directory is not empty. -/
theorem buildIndex_generate_iff (h : w.disk.IsTree)
    (hempty : ∀ name, w.disk.get? (placeOf w.cwd out ++ [name]) = none)
    (hnames : ∀ p ∈ pairs, WellFormedName p.kotlin ∧ WellFormedName p.java)
    (hdirs : ∀ p ∈ pairs, ∀ q ∈ pairs, p.dirName = q.dirName → p = q)
    (hrun : (generate registry pairs out announce).run.run w = (.ok summary, w')) :
    (∃ index, ((buildIndex out).run.run w').1 = .ok index ∧ index.Lists registry pairs) ↔
      out ≠ "" := by
  obtain ⟨-, hleaves⟩ := of_generate_ok observes_announce h hrun
  have hfresh := fresh_of_leaves h hempty hdirs hleaves
  obtain ⟨hindex, -⟩ := buildIndex_run out w'
  constructor
  · rintro ⟨index, hok, -⟩ rfl
    rw [hok, Disk.list_empty] at hindex
    cases hindex
  · intro hne
    have hdirectory := isDirectory_of_generate_ok observes_announce h hne hrun
    rw [hfresh.tree.list_of_isDirectory hdirectory] at hindex
    refine ⟨_, hindex, indexOf_sorted _, fun e => ?_⟩
    have hfound := hfresh.mem_entriesAt_iff hnames
    rw [mem_indexOf_iff, ← hfound]
    constructor
    · exact IndexEntry.FirstIn.mem
    · intro he
      obtain ⟨before, after, heq, hbefore⟩ := List.eq_append_cons_of_mem he
      refine ⟨before, after, heq, fun b hb hpair => hbefore ?_⟩
      -- entries of the same names are the same, as their kinds are those of the names
      obtain ⟨p, -, rfl⟩ := (hfound b).mp (by rw [heq]; simp [hb])
      obtain ⟨q, -, rfl⟩ := (hfound e).mp he
      have hpq : p = q := hpair
      exact hpq ▸ hb

/-- A pair that is generated and indexed. -/
theorem buildIndex_generate_iff_out : ∃ summary w' index,
    (generate .empty [⟨"K", "p.J"⟩] "out" announce).run.run
        (.start ⟨[(["work"], .directory)]⟩ ["work"]) = (.ok summary, w') ∧
      ((buildIndex "out").run.run w').1 = .ok index ∧ index.Lists .empty [⟨"K", "p.J"⟩] := by
  have htree : (⟨[(["work"], .directory)]⟩ : Disk).IsTree := by decide +kernel
  have hplace : placeOf ["work"] "out" = ["work", "out"] := by decide +kernel
  have hok : ((generate .empty [⟨"K", "p.J"⟩] "out" announce).run.run
      (.start ⟨[(["work"], .directory)]⟩ ["work"])).1.isOk = true := by decide +kernel
  obtain ⟨summary, w', hrun⟩ := exists_of_isOk hok
  obtain ⟨index, hindex⟩ := (buildIndex_generate_iff (w := .start _ ["work"]) htree
    (fun name => by
      change Disk.get? _ (placeOf ["work"] "out" ++ [name]) = none
      rw [hplace]
      rfl)
    (fun p hp => by
      rw [List.mem_singleton.mp hp]
      exact ⟨Or.inl (isRun_singleton 'K' (by decide)), Or.inr ⟨"p", "J", by decide,
        isRun_singleton 'p' (by decide), isRun_singleton 'J' (by decide)⟩⟩)
    (fun p hp q hq _ => (List.mem_singleton.mp hp).trans (List.mem_singleton.mp hq).symm)
    hrun).mpr (by decide)
  exact ⟨summary, w', index, hrun, hindex⟩

/-- **The empty path can be generated into and cannot be indexed.** -/
theorem buildIndex_generate_here : ∃ summary w',
    (⟨[(["work"], .directory)]⟩ : Disk).IsTree ∧
      (∀ name, (⟨[(["work"], .directory)]⟩ : Disk).get? (placeOf ["work"] "" ++ [name]) = none) ∧
      (generate .empty [⟨"K", "J"⟩] "" announce).run.run
        (.start ⟨[(["work"], .directory)]⟩ ["work"]) = (.ok summary, w') ∧
      ((buildIndex "").run.run w').1 = .error (.scan "" .notFound) := by
  have htree : (⟨[(["work"], .directory)]⟩ : Disk).IsTree := by decide +kernel
  have hplace : placeOf ["work"] "" = ["work"] := by decide +kernel
  have hok : ((generate .empty [⟨"K", "J"⟩] "" announce).run.run
      (.start ⟨[(["work"], .directory)]⟩ ["work"])).1.isOk = true := by decide +kernel
  obtain ⟨summary, w', hrun⟩ := exists_of_isOk hok
  refine ⟨summary, w', htree, fun name => ?_, hrun, ?_⟩
  · rw [hplace]
    rfl
  · rw [(buildIndex_run "" w').1, Disk.list_empty]

end TwinTypes
