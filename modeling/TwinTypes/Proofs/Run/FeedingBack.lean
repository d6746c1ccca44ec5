import Mathlib.Data.List.Sort
import TwinTypes.Proofs.Document.ReadsBack
import TwinTypes.Proofs.Run.RoundTrip
import TwinTypes.Run.Load

/-!
# An index as input

An index is a list of pairs, and can be fed back: written to a file and loaded from it, it is the
list of pairs to generate for. `buildIndex_feedsBack` says that this leads nowhere new. The pairs
come back in their order; generated and indexed, they make an index of the same names in the same
order, in which only the kinds may have changed to those that the registry knows
(`TwinTypes.Registry.relabel`); and after that nothing changes any more.

What carries this is an invariant of every index, whoever has written the stubs that it is made
from (`TwinTypes.MappingIndex.WellFormed`): its entries are in strictly increasing order, and their
names are of the form that survives being rendered and read.
-/

namespace TwinTypes

open Disk (placeOf)

/-! ### Indexes that are made from stubs -/

theorem MappingPair.not_before_self (pair : MappingPair) : ¬pair.Before pair := by
  rintro (hlt | ⟨-, hlt⟩)
  · exact lt_irrefl _ hlt
  · exact lt_irrefl _ hlt

/-- **What every index is like** that is made from stubs. -/
structure MappingIndex.WellFormed (index : MappingIndex) : Prop where
  /-- The entries are in strictly increasing order. -/
  sorted : index.entries.Pairwise fun a b => a.pair.Before b.pair
  /-- The names are those that a stub can declare. -/
  names : ∀ pair ∈ index.pairs, WellFormedName pair.kotlin ∧ WellFormedName pair.java

theorem wellFormedName_of_stubAt {d : Disk} {cwd : Location} {path : String} {info : TypeInfo}
    (h : stubAt d cwd path = some info) : WellFormedName info.name := by
  unfold stubAt at h
  split at h
  · obtain ⟨text, -, hread⟩ := Option.bind_eq_some_iff.mp h
    exact wellFormedName_of_readTypeInfo hread
  · cases h

/-- **Every index is well-formed**, whatever the disk holds. -/
theorem wellFormed_of_buildIndex {w : World} {root : String} {index : MappingIndex}
    (h : ((buildIndex root).run.run w).1 = .ok index) : index.WellFormed := by
  rw [(buildIndex_run root w).1] at h
  split at h
  · cases h
    refine ⟨indexOf_sorted _, fun pair hpair => ?_⟩
    obtain ⟨e, he, rfl⟩ := List.mem_map.mp hpair
    obtain ⟨name, -, hentry⟩ := mem_entriesAt_iff.mp (mem_indexOf_iff.mp he).mem
    obtain ⟨kotlin, hkotlin, hmap⟩ := Option.bind_eq_some_iff.mp hentry
    obtain ⟨java, hjava, rfl⟩ := Option.map_eq_some_iff.mp hmap
    exact ⟨wellFormedName_of_stubAt hkotlin, wellFormedName_of_stubAt hjava⟩
  · cases h

/-! ### The kinds of the registry -/

/-- **The index with the kinds that a registry knows** in the place of those of the stubs. -/
def Registry.relabel (registry : Registry) (index : MappingIndex) : MappingIndex :=
  ⟨index.pairs.map registry.indexEntry⟩

section Relabel

variable {registry : Registry} {index : MappingIndex}

@[simp] theorem Registry.relabel_pairs (registry : Registry) (index : MappingIndex) :
    (registry.relabel index).pairs = index.pairs := by
  have hpair : IndexEntry.pair ∘ registry.indexEntry = id := rfl
  rw [MappingIndex.pairs, relabel, List.map_map, hpair, List.map_id]

theorem Registry.relabel_relabel (registry : Registry) (index : MappingIndex) :
    registry.relabel (registry.relabel index) = registry.relabel index := by
  rw [relabel, relabel_pairs, relabel]

/-- The order of an index is that of its pairs. -/
theorem MappingIndex.pairwise_iff :
    (index.entries.Pairwise fun a b => a.pair.Before b.pair) ↔
      index.pairs.Pairwise MappingPair.Before := by
  rw [pairs, List.pairwise_map]

theorem MappingIndex.WellFormed.relabel (h : index.WellFormed) (registry : Registry) :
    (registry.relabel index).WellFormed where
  sorted := by
    rw [pairwise_iff, Registry.relabel_pairs, ← pairwise_iff]
    exact h.sorted
  names := by
    rw [Registry.relabel_pairs]
    exact h.names

/-- **An index of the pairs of an index** is that index, but for the kinds: there is one list of
entries in increasing order. -/
theorem MappingIndex.Lists.eq_relabel {index' : MappingIndex}
    (hlists : index'.Lists registry index.pairs) (h : index.WellFormed) :
    index' = registry.relabel index := by
  have hirrefl : Std.Irrefl fun a b : IndexEntry => a.pair.Before b.pair :=
    ⟨fun a => a.pair.not_before_self⟩
  have hantisymm : Std.Antisymm fun a b : IndexEntry => a.pair.Before b.pair :=
    ⟨fun a b hab hba => absurd (hab.trans hba) a.pair.not_before_self⟩
  have hentries : index'.entries = (registry.relabel index).entries := by
    refine hlists.sorted.eq_of_mem_iff (h.relabel registry).sorted fun e => ?_
    rw [hlists.mem_iff, Registry.relabel, List.mem_map]
    simp only [eq_comm]
  cases index'
  exact congrArg MappingIndex.mk hentries

end Relabel

/-! ### One round -/

/-- **What comes back of an index** that is fed back, and then generated and indexed: its own pairs,
and another index. -/
structure FeedsBack (registry : Registry) (index index' : MappingIndex) : Prop where
  /-- Once it has been written to a file, its pairs can be loaded from there. -/
  loads : ∀ (w w' : World) (path : String), w.disk.IsTree →
    (writeIndex path index).run.run w = (.ok (), w') →
    ((loadPairs path).run.run w').1 = .ok index.pairs
  /-- Once its pairs have been generated where nothing was, the other index is made there. -/
  indexes : (∀ p ∈ index.pairs, ∀ q ∈ index.pairs, p.dirName = q.dirName → p = q) →
    ∀ (w w' : World) (out : String) (summary : Summary), w.disk.IsTree →
    w.disk.get? w.cwd = some .directory → w.disk.get? (placeOf w.cwd out) = none →
    (generate registry index.pairs out announce).run.run w = (.ok summary, w') →
    ((buildIndex out).run.run w').1 = .ok index'

theorem loadPairs_run_ok {w : World} {path text : String} {pairs : List MappingPair}
    (hread : w.disk.readFile w.cwd path = .ok text.toUTF8) (hparse : parsePairs text = .ok pairs) :
    ((loadPairs path).run.run w).1 = .ok pairs := by
  have htext : (readText path).run.run w = (.ok text, w) := by
    rw [readText_run, hread]
    simp only [fromUTF8?_toUTF8]
  unfold loadPairs
  rw [Attempt.run_bind_ok (Attempt.run_orFail_ok htext), pairsFrom, hparse]
  simp only
  rw [Attempt.run_always_bind, Attempt.run_pure]

/-- Nothing stands in what is absent. -/
theorem Disk.IsTree.get?_append_of_absent {d : Disk} (h : d.IsTree) {loc : Location}
    (habsent : d.get? loc = none) (name : String) : d.get? (loc ++ [name]) = none := by
  by_contra hne
  obtain ⟨entry, hget⟩ := Option.ne_none_iff_exists'.mp hne
  rw [(h.get?_parent hget).2] at habsent
  cases habsent

/-- **A well-formed index feeds back**, if its text is read as it was printed. -/
theorem MappingIndex.WellFormed.feedsBack {index : MappingIndex} (h : index.WellFormed)
    (hyaml : Yaml.ReadsBack index.toValue) (registry : Registry) :
    FeedsBack registry index (registry.relabel index) where
  loads w w' path htree hrun := by
    have hwritten : Written _ _ _ w ((writeIndex path index).run.run w) :=
      atomicWrite_run htree path index.text.toUTF8
    rw [hrun] at hwritten
    exact loadPairs_run_ok (hwritten.readFile rfl) (parsePairs_text hyaml)
  indexes hdirs w w' out summary htree hcwd habsent hrun := by
    -- the empty path is that of the directory that the program works in, which is there
    have hne : out ≠ "" := by
      rintro rfl
      have hplace : placeOf w.cwd "" = w.cwd := by
        rw [placeOf, Path.bareSteps_empty]
        rfl
      rw [hplace, hcwd] at habsent
      cases habsent
    obtain ⟨index', hindex, hlists⟩ := (buildIndex_generate_iff htree
      (htree.get?_append_of_absent habsent) h.names hdirs hrun).mpr hne
    rw [hindex, hlists.eq_relabel h]

/-- **An index that is fed back reproduces itself.** The names come back in the same order, with the
kinds that the registry knows; and what has come back comes back again as it is. -/
theorem buildIndex_feedsBack {registry : Registry} {u : World} {root : String}
    {index : MappingIndex} (hindex : ((buildIndex root).run.run u).1 = .ok index)
    (hyaml : Yaml.ReadsBack index.toValue)
    (hyaml' : Yaml.ReadsBack (registry.relabel index).toValue) :
    (registry.relabel index).pairs = index.pairs ∧
      FeedsBack registry index (registry.relabel index) ∧
      FeedsBack registry (registry.relabel index) (registry.relabel index) := by
  have hwell := wellFormed_of_buildIndex hindex
  refine ⟨registry.relabel_pairs index, hwell.feedsBack hyaml registry, ?_⟩
  have hagain := (hwell.relabel registry).feedsBack hyaml' registry
  rw [registry.relabel_relabel] at hagain
  exact hagain

/-- An index of stubs that were changed by hand: the registry knows neither type, so the interface
comes back as a class. -/
theorem buildIndex_feedsBack_edited : ∃ (disk : Disk) (index : MappingIndex), disk.IsTree ∧
    index = ⟨[⟨⟨.interfaceKind, "K"⟩, ⟨.classKind, "p.J"⟩⟩]⟩ ∧
    ((buildIndex "out").run.run (.start disk ["work"])).1 = .ok index ∧
    Yaml.ReadsBack index.toValue ∧ Yaml.ReadsBack (Registry.empty.relabel index).toValue ∧
    (∃ w', (writeIndex "index.yaml" index).run.run (.start disk ["work"]) = (.ok (), w') ∧
      ((loadPairs "index.yaml").run.run w').1 = .ok [⟨"K", "p.J"⟩]) ∧
    ∃ summary w', (generate .empty [⟨"K", "p.J"⟩] "again" announce).run.run (.start disk ["work"]) =
        (.ok summary, w') ∧
      ((buildIndex "again").run.run w').1 =
        .ok ⟨[⟨⟨.classKind, "K"⟩, ⟨.classKind, "p.J"⟩⟩]⟩ := by
  refine ⟨⟨[(["work"], .directory), (["work", "out"], .directory),
    (["work", "out", "a"], .directory),
    (["work", "out", "a", javaFile], .file "package p;\nclass J".toUTF8),
    (["work", "out", "a", kotlinFile], .file "interface K".toUTF8)]⟩, _, ?_, rfl, ?_⟩
  · decide +kernel
  generalize hdisk : (⟨[_, _, _, _, _]⟩ : Disk) = disk
  have htree : disk.IsTree := by
    rw [← hdisk]
    decide +kernel
  have hindex : ((buildIndex "out").run.run (.start disk ["work"])).1 =
      .ok ⟨[⟨⟨.interfaceKind, "K"⟩, ⟨.classKind, "p.J"⟩⟩]⟩ := by
    rw [← hdisk]
    decide +kernel
  have hyaml : Yaml.ReadsBack
      (⟨[⟨⟨.interfaceKind, "K"⟩, ⟨.classKind, "p.J"⟩⟩]⟩ : MappingIndex).toValue :=
    Yaml.readsBack_of_agrees (by decide +kernel)
  have hyaml' : Yaml.ReadsBack (Registry.empty.relabel
      ⟨[⟨⟨.interfaceKind, "K"⟩, ⟨.classKind, "p.J"⟩⟩]⟩).toValue :=
    Yaml.readsBack_of_agrees (by decide +kernel)
  obtain ⟨-, hback, -⟩ := buildIndex_feedsBack hindex hyaml hyaml'
  refine ⟨hindex, hyaml, hyaml', ?_, ?_⟩
  · have hok : ((writeIndex "index.yaml" ⟨[⟨⟨.interfaceKind, "K"⟩, ⟨.classKind, "p.J"⟩⟩]⟩).run.run
        (.start disk ["work"])).1.isOk = true := by
      rw [← hdisk]
      decide +kernel
    obtain ⟨_, w', hrun⟩ := exists_of_isOk hok
    exact ⟨w', hrun, hback.loads _ w' _ htree hrun⟩
  · have hok : ((generate .empty [⟨"K", "p.J"⟩] "again" announce).run.run
        (.start disk ["work"])).1.isOk = true := by
      rw [← hdisk]
      decide +kernel
    have hcwd : disk.get? ["work"] = some .directory := by
      rw [← hdisk]
      decide +kernel
    have habsent : disk.get? (placeOf ["work"] "again") = none := by
      rw [← hdisk]
      decide +kernel
    have hone : ∀ pair ∈ [(⟨"K", "p.J"⟩ : MappingPair)], pair = ⟨"K", "p.J"⟩ := by simp
    obtain ⟨summary, w', hrun⟩ := exists_of_isOk hok
    refine ⟨summary, w', hrun, ?_⟩
    exact hback.indexes (fun p hp q hq _ => (hone p hp).trans (hone q hq).symm) _ w' _ summary htree
      hcwd habsent hrun

end TwinTypes
