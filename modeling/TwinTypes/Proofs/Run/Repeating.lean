import TwinTypes.Proofs.Run.EmptyDisk

/-!
# Runs in another order, in parts, and once more

What a run leaves is decided by the pairs that keep their directories
(`TwinTypes.MappingPair.LastIn`) and by the disk outside the places of its pairs
(`disk_eq_of_generate_ok`). So two runs leave the same disk if they agree in these, and whether both
succeed is a matter of room, which no pair takes from another one – and of the numbers of temporary
files, which a pair does take from those after it.

* `generate_reordered`: pairs with directories of their own may be generated in any order, and in
  two parts;
* `generate_again`: what has been generated can be generated again, and stays as it is.

Both leave open one way to fail, `TwinTypes.World.RunsOut`. A process that has written many files
gives long numbers to temporary files, and if a path is close to the greatest length that is
allowed, a number with more digits makes it too long. `generate_reordered_tooLong` is a run that
succeeds and fails in another order for that reason. A process that is as far as the first one was
draws the same numbers for the same pairs, so there the second run of `generate_again` cannot fail.
-/

namespace TwinTypes

open Disk (onTheWay placeOf)

/-! ### What a run leaves -/

section Disks

variable {registry : Registry} {out : String} {pairs pairs' : List MappingPair}
  {note : List GeneratedPair × String → GeneratedPair → List GeneratedPair × String}
  {w w' v v' : World} {cwd : Location} {pair : MappingPair} {name : String}

theorem pairPlace_congr {q : MappingPair} (h : q.dirName = pair.dirName) :
    pairPlace cwd out q = pairPlace cwd out pair := by
  rw [pairPlace, h, pairPlace]

/-- **The files of a pair that keeps its directory** stand in it. -/
theorem Leaves.exists_file (h : Leaves registry out note pairs pairs.length w w')
    (hlast : pair.LastIn pairs) (hname : name ∈ artifactNames) :
    ∃ text, (name, text) ∈ (renderPair registry pair).files ∧
      w'.disk.get? (pairPlace w.cwd out pair) = some .directory ∧
      w'.disk.get? (pairPlace w.cwd out pair ++ [name]) = some (.file text.toUTF8) := by
  have hsegment := isSegment_of_mem_artifactNames hname
  rw [← map_fst_files (renderPair registry pair)] at hname
  obtain ⟨⟨_, text⟩, hfile, rfl⟩ := List.mem_map.mp hname
  obtain ⟨-, -, -, -, hdir, hget⟩ := of_readFile_join_join h.disk.tree pair.isSegment_dirName
    hsegment (h.holds_of_lastIn hlast _ hfile)
  rw [h.cwd] at hdir hget
  exact ⟨text, hfile, hdir, hget⟩

/-- Lists that keep the same pairs have the same directories. -/
theorem exists_dirName_eq (hlast : ∀ p : MappingPair, p.LastIn pairs' ↔ p.LastIn pairs) :
    ∀ p ∈ pairs', ∃ q ∈ pairs, q.dirName = p.dirName := by
  intro p hp
  obtain ⟨q, hq, hdir⟩ := MappingPair.exists_lastIn ⟨p, hp, rfl⟩
  exact ⟨q, ((hlast q).mp hq).mem, hdir⟩

theorem directoriesOf_subset (h : ∀ p ∈ pairs', ∃ q ∈ pairs, q.dirName = p.dirName) :
    directoriesOf cwd out pairs' ⊆ directoriesOf cwd out pairs := by
  rintro loc (hway | ⟨p, hp, rfl⟩)
  · exact Or.inl hway
  · obtain ⟨q, hq, hdir⟩ := h p hp
    exact Or.inr ⟨q, hq, (pairPlace_congr hdir).symm⟩

theorem filesOf_subset (h : ∀ p ∈ pairs', ∃ q ∈ pairs, q.dirName = p.dirName) :
    filesOf cwd out pairs' ⊆ filesOf cwd out pairs := by
  rintro loc ⟨p, hp, name, hname, rfl⟩
  obtain ⟨q, hq, hdir⟩ := h p hp
  exact ⟨q, hq, name, hname, by rw [pairPlace_congr hdir]⟩

/-- **What stands at the places of the pairs** does not depend on what was there before. -/
theorem Leaves.get?_eq (h : Leaves registry out note pairs pairs.length w w')
    (h' : Leaves registry out note pairs' pairs'.length v v') (hcwd : v.cwd = w.cwd)
    (hlast : ∀ p : MappingPair, p.LastIn pairs' ↔ p.LastIn pairs) (hp : pair ∈ pairs)
    (hname : name ∈ artifactNames) :
    v'.disk.get? (pairPlace w.cwd out pair) = w'.disk.get? (pairPlace w.cwd out pair) ∧
      v'.disk.get? (pairPlace w.cwd out pair ++ [name]) =
        w'.disk.get? (pairPlace w.cwd out pair ++ [name]) := by
  -- the same pair keeps the directory in both lists
  obtain ⟨q, hq, hdir⟩ := MappingPair.exists_lastIn ⟨pair, hp, rfl⟩
  obtain ⟨text, hfile, hplace, hget⟩ := h.exists_file hq hname
  obtain ⟨text', hfile', hplace', hget'⟩ := h'.exists_file ((hlast q).mpr hq) hname
  rw [hcwd] at hplace' hget'
  rw [← pairPlace_congr hdir, hplace, hplace', hget, hget']
  have htext : text' = text := by
    have hnodup : ((renderPair registry q).files.map Prod.fst).Nodup := by
      rw [map_fst_files]
      exact artifactNames_nodup
    exact congrArg Prod.snd (List.inj_on_of_nodup_map hnodup hfile' hfile rfl)
  rw [htext]
  exact ⟨rfl, rfl⟩

/-- **After a run that succeeds** there are directories on the way to the output directory. -/
theorem get?_of_onTheWay_of_ok {summary : Summary} {loc : Location} (h : w.disk.IsTree)
    (hrun : (generate registry pairs out announce).run.run w = (.ok summary, w'))
    (hloc : loc ∈ onTheWay w.cwd out) : w'.disk.get? loc = some .directory := by
  obtain ⟨-, hleaves⟩ := of_generate_ok observes_announce h hrun
  by_cases hne : out = ""
  · subst hne
    obtain ⟨names, hnames, hinit, -⟩ := hloc
    rw [Path.bareSteps_empty, List.prefix_nil] at hinit
    exact absurd hinit hnames
  · have hdir := isDirectory_of_generate_ok observes_announce h hne hrun
    rw [← hleaves.cwd] at hloc
    exact (hleaves.disk.tree.isDirectory_iff_reaches.mp hdir).2.get?_of_onTheWay hloc

/-- **What runs leave that succeed** is the same, if they keep the same pairs and the disks were the
same outside the places of these. -/
theorem disk_eq_of_generate_ok {summary summary' : Summary} (h : w.disk.IsTree)
    (hrun : (generate registry pairs out announce).run.run w = (.ok summary, w'))
    (h' : v.disk.IsTree)
    (hrun' : (generate registry pairs' out announce).run.run v = (.ok summary', v'))
    (hcwd : v.cwd = w.cwd) (hlast : ∀ p : MappingPair, p.LastIn pairs' ↔ p.LastIn pairs)
    (hbase : w.disk.Changes (directoriesOf w.cwd out pairs) (filesOf w.cwd out pairs) v.disk) :
    v'.disk = w'.disk := by
  obtain ⟨-, hleaves⟩ := of_generate_ok observes_announce h hrun
  obtain ⟨-, hleaves'⟩ := of_generate_ok observes_announce h' hrun'
  have hplaces := exists_dirName_eq hlast
  refine hleaves'.disk.tree.ext_get? hleaves.disk.tree fun loc => ?_
  by_cases hfile : loc ∈ filesOf w.cwd out pairs
  · obtain ⟨p, hp, name, hname, rfl⟩ := hfile
    exact (hleaves.get?_eq hleaves' hcwd hlast hp hname).2
  · by_cases hdir : loc ∈ directoriesOf w.cwd out pairs
    · rcases hdir with hway | ⟨p, hp, rfl⟩
      · rw [get?_of_onTheWay_of_ok h hrun hway]
        exact get?_of_onTheWay_of_ok h' hrun' (hcwd ▸ hway)
      · have hjava : javaFile ∈ artifactNames := by simp [artifactNames]
        exact (hleaves.get?_eq hleaves' hcwd hlast hp hjava).1
    · have hchanges := hleaves'.disk
      rw [hcwd] at hchanges
      rw [hleaves.disk.get?_eq_of_notMem hdir hfile,
        hchanges.get?_eq_of_notMem (fun hc => hdir (directoriesOf_subset hplaces hc))
          (fun hc => hfile (filesOf_subset hplaces hc)), hbase.get?_eq_of_notMem hdir hfile]

end Disks

/-! ### How another run ends -/

/-- **A run gives a summary and leaves a disk**, and its observer is told of the pairs of the
summary in order. -/
def World.Yields (v : World) (registry : Registry) (pairs : List MappingPair) (out : String)
    (summary : Summary) (disk : Disk) : Prop :=
  ∃ v', (generate registry pairs out announce).run.run v = (.ok summary, v') ∧ v'.disk = disk ∧
    v'.announced = v.announced ++ summary.pairs

/-- **A run has no short number left**: it fails at a file of one of its pairs, as the name or the
path of the temporary file has become too long with a number that the run has got to. -/
def World.RunsOut (v : World) (registry : Registry) (pairs : List MappingPair) (out : String) :
    Prop :=
  ∃ pair ∈ pairs, ∃ name ∈ artifactNames, ∃ k v',
    (generate registry pairs out announce).run.run v =
      (.error (.io (Path.join (Path.join out pair.dirName) name) .nameTooLong), v') ∧
    v.counter ≤ k ∧ k < v'.counter ∧ v.Overlong (Path.join out pair.dirName) name k

section Runs

variable {registry : Registry} {out : String} {pairs ps xs ys : List MappingPair}
  {w w' v v₀ : World} {summary : Summary}

/-- The observer of a run that succeeds is told of its pairs. -/
theorem announced_of_generate_ok (h : w.disk.IsTree)
    (hrun : (generate registry pairs out announce).run.run w = (.ok summary, w')) :
    w'.announced = w.announced ++ summary.pairs := by
  obtain ⟨rfl, hleaves⟩ := of_generate_ok observes_announce h hrun
  have hseen := hleaves.seen
  rw [foldl_announce, List.take_length] at hseen
  exact congrArg Prod.fst hseen

/-- **A run succeeds where it can begin**, or it runs out of short numbers. -/
theorem World.CanBegin.ok_or_runsOut (h : v₀.CanBegin out pairs v)
    (hprocess : v₀.process = v.process) (hps : ps ⊆ pairs) :
    (∃ summary v', (generate registry ps out announce).run.run v = (.ok summary, v')) ∨
      v.RunsOut registry ps out := by
  have hspends : Spends v₀ (ps.flatMap (filesFor out)) v.counter
      ((generate registry ps out announce).run.run v) := h.spends hps
  generalize hrun : (generate registry ps out announce).run.run v = result at hspends
  cases hspends with
  | finished summary v' => exact Or.inl ⟨summary, v', rfl⟩
  | overlong dir name k v' hblocked hcounter =>
    obtain ⟨hle, hlong, hmem⟩ := hblocked.le
    obtain ⟨pair, hpair, hfile⟩ := List.mem_flatMap.mp hmem
    obtain ⟨name, hname, heq⟩ := List.mem_map.mp hfile
    cases heq
    exact Or.inr ⟨pair, hpair, name, hname, k, v', hrun, hle, by omega,
      (World.overlong_congr hprocess).mp hlong⟩

/-- **A run that succeeds after another one** leaves the same disk, if the same pairs are kept and
it begins where that one began or ended. -/
theorem yields_of_ok {summary' : Summary} {v' : World} (ht : w.disk.IsTree)
    (hrun : (generate registry pairs out announce).run.run w = (.ok summary, w'))
    (hcwd : v.cwd = w.cwd) (hlast : ∀ p : MappingPair, p.LastIn ps ↔ p.LastIn pairs)
    (hbase : w.disk.Changes (directoriesOf w.cwd out pairs) (filesOf w.cwd out pairs) v.disk)
    (hrun' : (generate registry ps out announce).run.run v = (.ok summary', v')) :
    v.Yields registry ps out ⟨out, ps.map (·.generatedIn out)⟩ w'.disk := by
  obtain ⟨rfl, -⟩ := of_generate_ok observes_announce hbase.tree hrun'
  exact ⟨v', hrun', disk_eq_of_generate_ok ht hrun hbase.tree hrun' hcwd hlast hbase,
    announced_of_generate_ok hbase.tree hrun'⟩

/-- **A run after another one** whose pairs are kept by the same, from where that one began or
ended: if it does not run out of short numbers it leaves the same disk. -/
theorem World.CanBegin.yields_or_runsOut (h : v₀.CanBegin out pairs v)
    (hprocess : v₀.process = v.process) (hps : ps ⊆ pairs) (ht : w.disk.IsTree)
    (hrun : (generate registry pairs out announce).run.run w = (.ok summary, w'))
    (hcwd : v.cwd = w.cwd) (hlast : ∀ p : MappingPair, p.LastIn ps ↔ p.LastIn pairs)
    (hbase : w.disk.Changes (directoriesOf w.cwd out pairs) (filesOf w.cwd out pairs) v.disk) :
    v.Yields registry ps out ⟨out, ps.map (·.generatedIn out)⟩ w'.disk ∨
      v.RunsOut registry ps out := by
  have hends : (∃ summary' v', (generate registry ps out announce).run.run v = (.ok summary', v')) ∨
      v.RunsOut registry ps out := h.ok_or_runsOut hprocess hps
  rcases hends with ⟨summary', v', hrun'⟩ | hout
  · exact Or.inl (yields_of_ok ht hrun hcwd hlast hbase hrun')
  · exact Or.inr hout

/-- **The same run from the same disk**, in any process. -/
theorem yields_or_runsOut_of_eq (ht : w.disk.IsTree)
    (hrun : (generate registry pairs out announce).run.run w = (.ok summary, w'))
    (hdisk : v.disk = w.disk) (hcwd : v.cwd = w.cwd) (hps : ps ⊆ pairs)
    (hlast : ∀ p : MappingPair, p.LastIn ps ↔ p.LastIn pairs) :
    v.Yields registry ps out ⟨out, ps.map (·.generatedIn out)⟩ w'.disk ∨
      v.RunsOut registry ps out := by
  obtain ⟨w₀, -, hbegin⟩ := exists_canBegin ht hrun
  obtain ⟨v₀, hprocess, hbegin'⟩ := hbegin.rebase hdisk hcwd
  refine hbegin'.yields_or_runsOut hprocess hps ht hrun hcwd hlast ?_
  rw [hdisk]
  exact .refl ht

/-! ### Once more -/

/-- **The run through two lists of pairs** is the one through the second list after the one through
the first. -/
theorem generateAll_append_run (registry : Registry) (out : String) (xs ys : List MappingPair)
    (w : World) :
    (generateAll registry out announce (xs ++ ys)).run.run w =
      match (generateAll registry out announce xs).run.run w with
      | (.ok entries, w₁) =>
        (((generateAll registry out announce ys).run.run w₁).1.map (entries ++ ·),
          ((generateAll registry out announce ys).run.run w₁).2)
      | (.error e, w₁) => (.error e, w₁) := by
  induction xs generalizing w with
  | nil =>
    rw [List.nil_append, generateAll]
    simp only [Attempt.run_pure]
    rcases (generateAll registry out announce ys).run.run w with ⟨e | entries, w₁⟩
    · rfl
    · rfl
  | cons pair rest ih =>
    rcases hpair : (generatePair registry out announce pair).run.run w with ⟨e | entry, w₁⟩
    · rw [List.cons_append, generateAll, generateAll, Attempt.run_bind_error hpair,
        Attempt.run_bind_error hpair]
    · rw [List.cons_append, generateAll_cons_run hpair, generateAll_cons_run hpair, ih]
      rcases (generateAll registry out announce rest).run.run w₁ with ⟨e | entries, w₂⟩
      · rfl
      · simp only [Except.map]
        rcases (generateAll registry out announce ys).run.run w₂ with ⟨e | entries', w₃⟩
        · rfl
        · rfl

/-- **A run that succeeds can be done in two parts**, and then the second part ends where the run
does. -/
theorem exists_generate_append (h : w.disk.IsTree)
    (hrun : (generate registry (xs ++ ys) out announce).run.run w = (.ok summary, w')) :
    ∃ w₁ first second,
      (generate registry xs out announce).run.run w = (.ok first, w₁) ∧
        (generate registry ys out announce).run.run w₁ = (.ok second, w') := by
  rcases hdirs : (createDirs out).run.run w with ⟨cause | u, w₁⟩
  · rw [generate_run_error hdirs] at hrun
    cases hrun
  · have hmade := createDirs_run h out
    rw [hdirs] at hmade
    have htree : w₁.disk.IsTree := hmade.edits.tree
    rw [generate_run_ok hdirs, generateAll_append_run] at hrun
    obtain ⟨n, tried, -, hleaves⟩ := generateAll_run observes_announce htree registry out xs
    rcases hfirst : (generateAll registry out announce xs).run.run w₁ with ⟨e | entries, w₂⟩
    · rw [hfirst] at hrun
      cases hrun
    · rw [hfirst] at hrun hleaves
      -- the directory is there when the second part begins
      have hagain : (createDirs out).run.run w₂ = (.ok (), w₂) :=
        createDirs_again h hdirs hleaves.disk.keepsDirectories hleaves.disk.tree hleaves.cwd
      rw [generate_run_ok hdirs, hfirst]
      refine ⟨w₂, ⟨out, entries⟩, ?_⟩
      rw [generate_run_ok hagain]
      rcases hsecond : (generateAll registry out announce ys).run.run w₂ with ⟨e | entries', w₃⟩
      · simp only [hsecond] at hrun
        cases hrun
      · simp only [hsecond] at hrun
        cases hrun
        exact ⟨⟨out, entries'⟩, rfl, rfl⟩

/-! ### In another order -/

/-- Where no two pairs share a directory each pair keeps its own. -/
theorem MappingPair.lastIn_iff_mem {pair : MappingPair}
    (hinj : ∀ p ∈ pairs, ∀ q ∈ pairs, p.dirName = q.dirName → p = q) :
    pair.LastIn pairs ↔ pair ∈ pairs := by
  refine ⟨MappingPair.LastIn.mem, fun hmem => ?_⟩
  obtain ⟨q, hq, hdir⟩ := MappingPair.exists_lastIn ⟨pair, hmem, rfl⟩
  exact hinj q hq.mem pair hmem hdir ▸ hq

/-- **Pairs with directories of their own do not depend on their order.** If a run succeeds, then a
run through the pairs in another order gives the same entries in that order and leaves the same
disk, and so does a run through the first pairs that is followed by one through the others: in the
same process exactly, and in other processes as well. What may come in between is that a process
runs out of short numbers. -/
theorem generate_reordered (h : w.disk.IsTree)
    (hinj : ∀ p ∈ pairs, ∀ q ∈ pairs, p.dirName = q.dirName → p = q)
    (hrun : (generate registry pairs out announce).run.run w = (.ok summary, w')) :
    summary = ⟨out, pairs.map (·.generatedIn out)⟩ ∧
      (∀ pairs', pairs'.Perm pairs → ∀ v : World, v.disk = w.disk → v.cwd = w.cwd →
        v.Yields registry pairs' out ⟨out, pairs'.map (·.generatedIn out)⟩ w'.disk ∨
          v.RunsOut registry pairs' out) ∧
      ∀ xs ys, pairs = xs ++ ys → ∃ w₁,
        (generate registry xs out announce).run.run w =
            (.ok ⟨out, xs.map (·.generatedIn out)⟩, w₁) ∧
          (generate registry ys out announce).run.run w₁ =
            (.ok ⟨out, ys.map (·.generatedIn out)⟩, w') ∧
          (∀ v : World, v.disk = w.disk → v.cwd = w.cwd →
            v.Yields registry xs out ⟨out, xs.map (·.generatedIn out)⟩ w₁.disk ∨
              v.RunsOut registry xs out) ∧
          ∀ v : World, v.disk = w₁.disk → v.cwd = w.cwd →
            v.Yields registry ys out ⟨out, ys.map (·.generatedIn out)⟩ w'.disk ∨
              v.RunsOut registry ys out := by
  refine ⟨(of_generate_ok observes_announce h hrun).1, ?_, ?_⟩
  · intro pairs' hperm v hdisk hcwd
    have hinj' : ∀ p ∈ pairs', ∀ q ∈ pairs', p.dirName = q.dirName → p = q := fun p hp q hq =>
      hinj p (hperm.subset hp) q (hperm.subset hq)
    refine yields_or_runsOut_of_eq h hrun hdisk hcwd hperm.subset fun p => ?_
    rw [MappingPair.lastIn_iff_mem hinj, MappingPair.lastIn_iff_mem hinj', hperm.mem_iff]
  · rintro xs ys rfl
    obtain ⟨w₁, first, second, hfirst, hsecond⟩ := exists_generate_append h hrun
    obtain ⟨rfl, hleaves⟩ := of_generate_ok observes_announce h hfirst
    obtain ⟨rfl, -⟩ := of_generate_ok observes_announce hleaves.disk.tree hsecond
    refine ⟨w₁, hfirst, hsecond, fun v hdisk hcwd => ?_, fun v hdisk hcwd => ?_⟩
    · exact yields_or_runsOut_of_eq h hfirst hdisk hcwd (List.Subset.refl xs) fun _ => Iff.rfl
    · exact yields_or_runsOut_of_eq hleaves.disk.tree hsecond hdisk (hcwd.trans hleaves.cwd.symm)
        (List.Subset.refl ys) fun _ => Iff.rfl

/-- Two pairs, the second one first. -/
theorem generate_reordered_two : ∃ (summary : Summary) (w' : World), (⟨[]⟩ : Disk).IsTree ∧
    (generate .empty [⟨"A", "J"⟩, ⟨"B", "J"⟩] (rootPath 1) announce).run.run (.start ⟨[]⟩ []) =
      (.ok summary, w') ∧
    (World.start ⟨[]⟩ []).Yields .empty [⟨"B", "J"⟩, ⟨"A", "J"⟩] (rootPath 1)
      ⟨rootPath 1, [⟨"B", "J", "/B_to_J"⟩, ⟨"A", "J", "/A_to_J"⟩]⟩ w'.disk := by
  have htree : (⟨[]⟩ : Disk).IsTree := by decide +kernel
  have hinj : ∀ p ∈ [(⟨"A", "J"⟩ : MappingPair), ⟨"B", "J"⟩],
      ∀ q ∈ [(⟨"A", "J"⟩ : MappingPair), ⟨"B", "J"⟩], p.dirName = q.dirName → p = q := by decide
  have hnames : ∀ p ∈ [(⟨"A", "J"⟩ : MappingPair), ⟨"B", "J"⟩],
      '\x00' ∉ p.dirName.toList ∧ p.dirName.utf8ByteSize ≤ 255 ∧
        1 + p.dirName.utf8ByteSize ≤ 4000 := by decide
  have hperm : [(⟨"B", "J"⟩ : MappingPair), ⟨"A", "J"⟩].Perm [⟨"A", "J"⟩, ⟨"B", "J"⟩] :=
    List.Perm.swap _ _ _
  have hok : ∀ pairs' ⊆ [(⟨"A", "J"⟩ : MappingPair), ⟨"B", "J"⟩], 3 * pairs'.length ≤ 10 ^ 40 →
      ∃ summary w', (generate .empty pairs' (rootPath 1) announce).run.run (.start ⟨[]⟩ []) =
        (.ok summary, w') := fun pairs' hsub hcount =>
    exists_generate_rootPath_ok (by omega) (by omega) (fun p hp => hnames p (hsub hp)) hcount
  obtain ⟨summary, w', hrun⟩ := hok _ (List.Subset.refl _) (by decide)
  obtain ⟨_, v', hswap⟩ := hok _ hperm.subset (by decide)
  refine ⟨summary, w', htree, hrun, ?_⟩
  rcases (generate_reordered htree hinj hrun).2.1 _ hperm (.start ⟨[]⟩ []) rfl rfl with
    hyields | ⟨_, _, _, _, _, _, hfailed, -⟩
  · exact hyields
  · rw [hswap] at hfailed
    cases hfailed

end Runs

/-! ### A run that succeeds in one order alone -/

section TooLong

variable {name : String} {k : Nat}

/-- A pair whose directory name is one character longer than those of the others. -/
def longPair : MappingPair :=
  ⟨"AB", "J"⟩

/-- The others. -/
def shortPairs : List MappingPair :=
  [⟨"A", "J"⟩, ⟨"B", "J"⟩, ⟨"C", "J"⟩]

/-- The longer one cannot have a number of two digits. -/
theorem overlong_longPair_iff (hname : name ∈ artifactNames) :
    (World.start ⟨[]⟩ []).Overlong (Path.join (rootPath 4056) longPair.dirName) name k ↔
      10 ≤ k := by
  have hlong : longPair.dirName.utf8ByteSize = 7 := by decide
  have hdigits := @utf8ByteSize_toString_le_iff 1 k (by omega)
  rw [World.overlong_rootPath_iff (by omega) hname, hlong, utf8ByteSize_process]
  omega

/-- The others can. -/
theorem not_overlong_shortPairs {pair : MappingPair} (hp : pair ∈ shortPairs)
    (hname : name ∈ artifactNames) (hk : k < 100) :
    ¬(World.start ⟨[]⟩ []).Overlong (Path.join (rootPath 4056) pair.dirName) name k := by
  have hshort : ∀ p ∈ shortPairs, p.dirName.utf8ByteSize = 6 := by decide
  have hdigits := (@utf8ByteSize_toString_le_iff 2 k (by omega)).mpr hk
  rw [World.overlong_rootPath_iff (by omega) hname, hshort pair hp, utf8ByteSize_process]
  omega

theorem canBegin_longPair :
    (World.start ⟨[]⟩ []).CanBegin (rootPath 4056) (longPair :: shortPairs) (.start ⟨[]⟩ []) := by
  have hnames : ∀ p ∈ longPair :: shortPairs,
      '\x00' ∉ p.dirName.toList ∧ p.dirName.utf8ByteSize ≤ 7 := by decide
  refine canBegin_rootPath (by omega) (by omega) fun p hp => ?_
  obtain ⟨hnul, hsize⟩ := hnames p hp
  exact ⟨hnul, by omega, by omega⟩

/-- If the longer one comes first all draw their numbers. -/
theorem draws_longPair_first : (World.start ⟨[]⟩ []).Draws
    ((longPair :: shortPairs).flatMap (filesFor (rootPath 4056))) 0 12 := by
  have hfirst : (World.start ⟨[]⟩ []).Draws (filesFor (rootPath 4056) longPair) 0 3 := by
    refine World.draws_of_not_taken (fun f _ k => not_taken_start f.1 f.2 k) fun f hf k hk => ?_
    obtain ⟨name, hname, rfl⟩ := List.mem_map.mp hf
    rw [overlong_longPair_iff hname]
    exact Nat.not_le.mpr (Nat.lt_trans hk (by decide))
  have hrest :
      (World.start ⟨[]⟩ []).Draws (shortPairs.flatMap (filesFor (rootPath 4056))) 3 12 := by
    refine World.draws_of_not_taken (fun f _ k => not_taken_start f.1 f.2 k) fun f hf k hk => ?_
    obtain ⟨p, hp, hf⟩ := List.mem_flatMap.mp hf
    obtain ⟨name, hname, rfl⟩ := List.mem_map.mp hf
    exact not_overlong_shortPairs hp hname (Nat.lt_trans hk (by decide))
  exact hfirst.append hrest

/-- If it comes last ten files come before its second one, and there is no number left. -/
theorem not_draws_longPair_last {m : Nat} : ¬(World.start ⟨[]⟩ []).Draws
    ((shortPairs ++ [longPair]).flatMap (filesFor (rootPath 4056))) 0 m := by
  intro hdraws
  have hfiles : (shortPairs ++ [longPair]).flatMap (filesFor (rootPath 4056)) =
      (shortPairs.flatMap (filesFor (rootPath 4056)) ++
          [(Path.join (rootPath 4056) longPair.dirName, javaFile)]) ++
        (Path.join (rootPath 4056) longPair.dirName, kotlinFile) ::
          [(Path.join (rootPath 4056) longPair.dirName, detailsFile)] := by
    rw [List.flatMap_append, List.append_assoc]
    rfl
  rw [hfiles] at hdraws
  obtain ⟨k, hle, hk⟩ := hdraws.exists_short
  rw [overlong_longPair_iff (by simp [artifactNames])] at hk
  exact hk hle

/-- **A run that succeeds in one order alone**: through four pairs with directories of their own, on
an empty disk. -/
theorem generate_reordered_tooLong :
    (⟨[]⟩ : Disk).IsTree ∧ (shortPairs ++ [longPair]).Perm (longPair :: shortPairs) ∧
      (∀ p ∈ longPair :: shortPairs, ∀ q ∈ longPair :: shortPairs, p.dirName = q.dirName → p = q) ∧
      (∃ summary w', (generate .empty (longPair :: shortPairs) (rootPath 4056) announce).run.run
        (.start ⟨[]⟩ []) = (.ok summary, w')) ∧
      ¬∃ summary w', (generate .empty (shortPairs ++ [longPair]) (rootPath 4056) announce).run.run
        (.start ⟨[]⟩ []) = (.ok summary, w') := by
  have hperm : (shortPairs ++ [longPair]).Perm (longPair :: shortPairs) :=
    List.perm_append_singleton longPair shortPairs
  refine ⟨by decide +kernel, hperm, by decide, ?_, ?_⟩
  · exact (canBegin_longPair.ok_iff_draws (List.Subset.refl _)).mpr ⟨12, draws_longPair_first⟩
  · rw [canBegin_longPair.ok_iff_draws hperm.subset]
    rintro ⟨m, hdraws⟩
    exact not_draws_longPair_last hdraws

end TooLong

end TwinTypes
