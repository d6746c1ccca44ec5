import Mathlib.Data.List.Nodup
import TwinTypes.Proofs.Run.Generating

/-!
# Pairs that share a directory

Different pairs may have the same directory name, as a dot and an underscore become the same. The
later one then takes the place of the earlier one, and the run reports both as written. A successful
run keeps what belongs to every pair exactly if the directory names are all different: what two
pairs of one directory have in common is never the whole of their stubs.
-/

namespace TwinTypes

variable {registry : Registry} {pairs : List MappingPair} {out dir : String} {w w' : World}
  {summary : Summary}

/-- A directory holds one text under each name. -/
theorem World.Holds.stubs_eq {a b : Artifacts} (ha : w.Holds dir a) (hb : w.Holds dir b) :
    a.javaStub = b.javaStub ∧ a.kotlinStub = b.kotlinStub := by
  have htext : ∀ (name : String) {s t : String}, (name, s) ∈ a.files → (name, t) ∈ b.files →
      s = t := by
    intro name s t hs ht
    have hs' : w.disk.readFile w.cwd (Path.join dir name) = .ok s.toUTF8 := ha (name, s) hs
    have ht' : w.disk.readFile w.cwd (Path.join dir name) = .ok t.toUTF8 := hb (name, t) ht
    exact String.toByteArray_inj.mp (Except.ok.inj (hs'.symm.trans ht'))
  exact ⟨htext javaFile (by simp [Artifacts.files]) (by simp [Artifacts.files]),
    htext kotlinFile (by simp [Artifacts.files]) (by simp [Artifacts.files])⟩

/-- **A directory holds what belongs to one pair only** of those that have its name. -/
theorem World.Holds.pair_eq {p q : MappingPair} (hp : w.Holds dir (renderPair registry p))
    (hq : w.Holds dir (renderPair registry q)) (hdir : p.dirName = q.dirName) : p = q := by
  obtain ⟨hjava, hkotlin⟩ := hp.stubs_eq hq
  exact MappingPair.eq_of_stubs_eq hdir hkotlin hjava

/-- **A successful run keeps what belongs to every pair exactly if no two pairs have the same
directory name.** -/
theorem generate_keeps_iff (h : w.disk.IsTree) (hpairs : pairs.Nodup)
    (hrun : (generate registry pairs out announce).run.run w = (.ok summary, w')) :
    (∀ entry ∈ summary.pairs, w'.Holds entry.dir (renderPair registry ⟨entry.kotlin, entry.java⟩)) ↔
      (pairs.map MappingPair.dirName).Nodup := by
  obtain ⟨rfl, hleaves⟩ := of_generate_ok observes_announce h hrun
  constructor
  · intro hall
    refine hpairs.map_on fun p hp q hq hdir => ?_
    have hholds := hall _ (List.mem_map_of_mem hp)
    have hholds' := hall _ (List.mem_map_of_mem hq)
    rw [MappingPair.generatedIn_dir] at hholds
    rw [MappingPair.generatedIn_dir, ← hdir] at hholds'
    exact hholds.pair_eq hholds' hdir
  · intro hnodup entry hentry
    obtain ⟨p, hp, rfl⟩ := List.mem_map.mp hentry
    rw [MappingPair.generatedIn_dir]
    exact hleaves.holds_of_mem hp fun q hq hdir => List.inj_on_of_nodup_map hnodup hq hp hdir

/-- Two pairs with directories of their own, and no output directory before the run. -/
theorem generate_keeps_iff_distinct : ∃ summary w',
    (generate .empty [⟨"a.b", "c"⟩, ⟨"a.d", "c"⟩] "out" announce).run.run
        (.start ⟨[(["work"], .directory)]⟩ ["work"]) = (.ok summary, w') ∧
      ∀ entry ∈ summary.pairs,
        w'.Holds entry.dir (renderPair .empty ⟨entry.kotlin, entry.java⟩) := by
  have htree : (⟨[(["work"], .directory)]⟩ : Disk).IsTree := by decide +kernel
  have hok : ((generate .empty [⟨"a.b", "c"⟩, ⟨"a.d", "c"⟩] "out" announce).run.run
      (.start ⟨[(["work"], .directory)]⟩ ["work"])).1.isOk = true := by decide +kernel
  obtain ⟨summary, w', hrun⟩ := exists_of_isOk hok
  exact ⟨summary, w', hrun, (generate_keeps_iff htree (by decide) hrun).mpr (by decide)⟩

/-- **A successful run may write over what it has written**: `a.b` and `a_b` share a directory, and
only the stubs of the later one are left. -/
theorem generate_overwrites : ∃ summary w',
    (⟨[(["work"], .directory)]⟩ : Disk).IsTree ∧
      (⟨[(["work"], .directory)]⟩ : Disk).get? ["work", "out"] = none ∧
      [⟨"a.b", "c"⟩, (⟨"a_b", "c"⟩ : MappingPair)].Nodup ∧
      (generate .empty [⟨"a.b", "c"⟩, ⟨"a_b", "c"⟩] "out" announce).run.run
        (.start ⟨[(["work"], .directory)]⟩ ["work"]) = (.ok summary, w') ∧
      ¬∀ entry ∈ summary.pairs,
        w'.Holds entry.dir (renderPair .empty ⟨entry.kotlin, entry.java⟩) := by
  have htree : (⟨[(["work"], .directory)]⟩ : Disk).IsTree := by decide +kernel
  have hok : ((generate .empty [⟨"a.b", "c"⟩, ⟨"a_b", "c"⟩] "out" announce).run.run
      (.start ⟨[(["work"], .directory)]⟩ ["work"])).1.isOk = true := by decide +kernel
  obtain ⟨summary, w', hrun⟩ := exists_of_isOk hok
  refine ⟨summary, w', htree, by decide, by decide, hrun, fun hall => ?_⟩
  obtain ⟨rfl, -⟩ := of_generate_ok observes_announce htree hrun
  have hfirst := hall (MappingPair.generatedIn ⟨"a.b", "c"⟩ "out") (by simp)
  have hsecond := hall (MappingPair.generatedIn ⟨"a_b", "c"⟩ "out") (by simp)
  have hdir : MappingPair.dirName ⟨"a.b", "c"⟩ = MappingPair.dirName ⟨"a_b", "c"⟩ := by decide
  rw [MappingPair.generatedIn_dir] at hfirst
  rw [MappingPair.generatedIn_dir, ← hdir] at hsecond
  have hsame : (⟨"a.b", "c"⟩ : MappingPair) = ⟨"a_b", "c"⟩ := hfirst.pair_eq hsecond hdir
  exact absurd hsame (by decide)

end TwinTypes
