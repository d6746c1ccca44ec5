import TwinTypes.Proofs.Run.Directories
import TwinTypes.Proofs.Run.Owning
import TwinTypes.Proofs.Run.WithIndex

/-!
# What generating says is what it did

The standard output of `generate` is a line for each pair whose files have been written, in order,
and then some last words; or, if a summary is asked for, the summary alone. That the words are true
is `TwinTypes.generate_says`, for every tree, every document and every way to call the command.

There are two things in it. Nothing is said too early: in some state of the run the files of a pair
are there and its line is not (`TwinTypes.exists_state_of_ends`). And nothing is said too late or in
vain: what comes after the pairs goes well or not (`TwinTypes.finishing_run`), and only if it goes
well are the last words said. So a run whose index cannot be written has named all its pairs, and
ends without them (`TwinTypes.generate_says_blockedIndex`).
-/

namespace TwinTypes

open CommandLine (Command Invocation)
open Disk (onTheWay placeOf)

/-! ### Words -/

/-- The line that names a pair whose files have been written. -/
def generatedLine (pair : MappingPair) : String :=
  "Generated mapping for " ++ pair.kotlin ++ " <-> " ++ pair.java ++ "\n"

/-- What is printed of pairs while their files are being written. -/
def progressText (json : Bool) (pairs : List MappingPair) : String :=
  if json then "" else String.join (pairs.map generatedLine)

/-- What is printed when all has been done. -/
def closingText (json : Bool) (out : String) (pairs : List MappingPair) : String :=
  if json then Data.prettyJson (Summary.toValue ⟨out, pairs.map (·.generatedIn out)⟩) ++ "\n"
  else "\n" ++ ("All mappings generated in " ++ out ++ "/\n")

/-- Lines are printed one after another. -/
theorem foldl_noteLine (json : Bool) (out : String) (pairs : List MappingPair)
    (known : List GeneratedPair × String) :
    ((pairs.map (·.generatedIn out)).foldl (noteLine json) known).2 =
      known.2 ++ progressText json pairs := by
  induction pairs generalizing known with
  | nil => cases json <;> simp [progressText]
  | cons pair rest ih =>
    rw [List.map_cons, List.foldl_cons, ih]
    cases json
    · change known.2 ++ generatedLine pair ++ String.join (rest.map generatedLine) =
        known.2 ++ String.join (generatedLine pair :: rest.map generatedLine)
      rw [String.join_cons, String.append_assoc]
    · simp [progressText, noteLine]

theorem out_printSummary (json : Bool) (out : String) (pairs : List MappingPair) (w : World) :
    ((printSummary json ⟨out, pairs.map (·.generatedIn out)⟩).run w).2.out =
      w.out ++ closingText json out pairs := by
  cases json
  · change w.out ++ ("" ++ "\n") ++ ("All mappings generated in " ++ out ++ "/" ++ "\n") = _
    simp [closingText, String.append_assoc]
  · rfl

/-! ### States on the way -/

namespace Attempt

variable {ε α β : Type} {w s : World}

theorem mem_states_always_bind {p : Program α} {f : α → Attempt ε β}
    (hs : s ∈ (f (p.run w).1).run.states (p.run w).2) :
    s ∈ ((always p : Attempt ε α) >>= f).run.states w := by
  refine mem_states_bind.mpr (Or.inr ⟨(p.run w).1, ?_, ?_⟩)
  · rw [run_always]
  · rwa [run_always]

theorem mem_states_bind_of_ok {p : Attempt ε α} {f : α → Attempt ε β} {w' : World} {a : α}
    (hrun : p.run.run w = (.ok a, w')) (hs : s ∈ (f a).run.states w') :
    s ∈ (p >>= f).run.states w := by
  refine mem_states_bind.mpr (Or.inr ⟨a, ?_, ?_⟩)
  · rw [hrun]
  · rw [hrun]
    exact hs

end Attempt

section States

variable {registry : Registry} {out : String} {onPair : GeneratedPair → Program Unit}
  {note : List GeneratedPair × String → GeneratedPair → List GeneratedPair × String}
  {pair : MappingPair} {xs ys : List MappingPair} {w w' : World}

/-- **The files of a pair are there before anything is said of it.** -/
theorem exists_state_of_generatePair {entry : GeneratedPair} (ht : w.disk.IsTree)
    (hrun : (generatePair registry out onPair pair).run.run w = (.ok entry, w')) :
    ∃ s ∈ (generatePair registry out onPair pair).run.states w,
      s.Holds (Path.join out pair.dirName) (renderPair registry pair) ∧ s.seen = w.seen := by
  have hlogs := (logs_reportUnknown registry pair w).trans (logs_reportUnmapped registry pair _)
  unfold generatePair at hrun ⊢
  rw [Attempt.run_always_bind, Attempt.run_always_bind] at hrun
  generalize hw₁ : ((reportUnmapped registry pair).run ((reportUnknown registry pair).run w).2).2 =
    w₁ at hlogs hrun
  have hwritten := writePair_run (hlogs.disk ▸ ht : w₁.disk.IsTree) out
    (rfl : (renderPair registry pair).dirName = _)
  rcases hw : (writePair out (renderPair registry pair)).run.run w₁ with ⟨e | dir, w₂⟩
  · rw [Attempt.run_bind_error hw] at hrun
    cases hrun
  · rw [hw] at hwritten
    refine ⟨w₂, Attempt.mem_states_always_bind (Attempt.mem_states_always_bind ?_),
      (hwritten.holds dir rfl).2, hwritten.edits.seen.trans hlogs.seen⟩
    have hmem := Program.run_mem_states (writePair out (renderPair registry pair)).run w₁
    rw [hw] at hmem
    rw [hw₁]
    exact Attempt.mem_states_bind.mpr (Or.inl hmem)

/-- **Two lists of pairs** are run through one after the other. -/
theorem generateAll_append (registry : Registry) (out : String)
    (onPair : GeneratedPair → Program Unit) (xs ys : List MappingPair) :
    generateAll registry out onPair (xs ++ ys) = generateAll registry out onPair xs >>= fun first =>
      generateAll registry out onPair ys >>= fun second => pure (first ++ second) := by
  induction xs with
  | nil => simp [generateAll]
  | cons pair rest ih => simp [generateAll, ih]

/-- **On the way through pairs that all succeed** there is a state for each in which its files are
there, and those before it have been made known. -/
theorem exists_state_of_generateAll (hobs : Observes onPair note) {entries : List GeneratedPair}
    (ht : w.disk.IsTree) (hrun : (generateAll registry out onPair xs).run.run w = (.ok entries, w'))
    {i : Nat} (hi : i < xs.length) : ∃ s ∈ (generateAll registry out onPair xs).run.states w,
      s.Holds (Path.join out xs[i].dirName) (renderPair registry xs[i]) ∧
        s.seen = ((xs.take i).map (·.generatedIn out)).foldl note w.seen := by
  induction xs generalizing w w' entries i with
  | nil => cases hi
  | cons pair rest ih =>
    obtain ⟨w₁, hedits, ⟨-, hpair⟩ | ⟨e, hpair⟩⟩ := generatePair_run ht registry out onPair pair
    · cases i with
      | zero =>
        obtain ⟨s, hs, hholds, hseen⟩ := exists_state_of_generatePair ht hpair
        exact ⟨s, Attempt.mem_states_bind.mpr (Or.inl hs), hholds, hseen⟩
      | succ i =>
        have ht' : ((onPair (pair.generatedIn out)).run w₁).2.disk.IsTree := by
          rw [hobs.disk]
          exact hedits.tree
        have hseen' := hobs.seen (pair.generatedIn out) w₁
        rw [hedits.seen] at hseen'
        rw [generateAll, Attempt.run_bind_ok hpair, Attempt.run_bind_pure] at hrun
        rcases hrest : (generateAll registry out onPair rest).run.run
          ((onPair (pair.generatedIn out)).run w₁).2 with ⟨e | entries', w₂⟩
        · rw [hrest] at hrun
          cases hrun
        · obtain ⟨s, hs, hholds, hseen⟩ := ih ht' hrest (by simpa using hi)
          refine ⟨s, Attempt.mem_states_bind_of_ok hpair ?_, hholds, ?_⟩
          · exact Attempt.mem_states_bind.mpr (Or.inl hs)
          · rw [hseen, hseen', List.take_succ_cons, List.map_cons, List.foldl_cons]
    · rw [generateAll, Attempt.run_bind_error hpair] at hrun
      cases hrun

/-- **On the way of a run** there is such a state for each of the pairs that succeed. -/
theorem exists_state_of_ends (hobs : Observes onPair note) {pairs tried : List MappingPair}
    {n : Nat} (ht : w.disk.IsTree) (hends : Ends registry pairs out onPair w
      ((generate registry pairs out onPair).run.run w) n tried) {i : Nat} (hi : i < pairs.length)
    (hn : i < n) : ∃ s ∈ (generate registry pairs out onPair).run.states w,
      s.Holds (Path.join out pairs[i].dirName) (renderPair registry pairs[i]) ∧
        s.seen = ((pairs.take i).map (·.generatedIn out)).foldl note w.seen := by
  -- the run through the first `n` pairs succeeds, and the whole run begins with it
  obtain ⟨summary, w₁, hfirst⟩ : ∃ summary w₁,
      (generate registry (pairs.take n) out onPair).run.run w = (.ok summary, w₁) := by
    generalize hrun : (generate registry pairs out onPair).run.run w = result at hends
    cases hends with
    | finished w' => exact ⟨_, w', by rw [List.take_length, hrun]⟩
    | noDirectory => cases hn
    | failedAt n hlt e w₁ w' before => exact ⟨_, w₁, before⟩
  have hmade := createDirs_run ht out
  rcases hdirs : (createDirs out).run.run w with ⟨cause | u, w₂⟩
  · rw [generate_run_error hdirs] at hfirst
    cases hfirst
  · rw [hdirs] at hmade
    rw [generate_run_ok hdirs] at hfirst
    rcases hall : (generateAll registry out onPair (pairs.take n)).run.run w₂ with ⟨e | entries, w₃⟩
    · rw [hall] at hfirst
      cases hfirst
    · obtain ⟨s, hs, hholds, hseen⟩ := exists_state_of_generateAll hobs hmade.edits.tree hall
        (i := i) (by rw [List.length_take]; omega)
      refine ⟨s, Attempt.mem_states_bind_of_ok (Attempt.run_orFail_ok hdirs) ?_, ?_, ?_⟩
      · refine Attempt.mem_states_bind.mpr (Or.inl ?_)
        rw [← List.take_append_drop n pairs, generateAll_append]
        exact Attempt.mem_states_bind.mpr (Or.inl hs)
      · rwa [List.getElem_take] at hholds
      · rw [hseen, hmade.edits.seen, List.take_take, Nat.min_eq_left hn.le]

end States

/-! ### Before and after the pairs -/

section Around

variable {w w' : World}

/-- Finding the pairs says nothing. -/
theorem logs_requestedPairs (input : Option String) (builtin : Bool) (config : Config) (w : World) :
    w.Logs ((requestedPairs input builtin config).run.run w).2 := by
  unfold requestedPairs
  split
  · exact .refl w
  · dsimp only
    have hread := (reads_readText (input.getD config.mappedTypes)).run_reads w
    have hlogs : w.Logs ((loadPairs (input.getD config.mappedTypes)).run.run w).2 := by
      unfold loadPairs
      rcases htext : (readText (input.getD config.mappedTypes)).run.run w with ⟨e | text, w₁⟩ <;>
        rw [htext] at hread <;> obtain rfl : w₁ = w := hread
      · rw [Attempt.run_bind_error (Attempt.run_orFail_error htext)]
        exact .refl w₁
      · rw [Attempt.run_bind_ok (Attempt.run_orFail_ok htext)]
        split
        · exact .refl w₁
        · exact logs_report _ w₁
    rcases hload : (loadPairs (input.getD config.mappedTypes)).run.run w with ⟨e | pairs, w₁⟩
    · rw [hload] at hlogs
      rw [Attempt.run_orFail_error hload]
      exact hlogs
    · rw [hload] at hlogs
      rw [Attempt.run_orFail_ok hload]
      exact hlogs

/-- What generating does after the files of the pairs have been written. -/
def finishing (config : Config) (out : String) (index json : Bool) (summary : Summary) :
    Attempt CommandError Unit := do
  if index then
    let _ ← rebuildIndex out config.indexFile
  Attempt.always (printSummary json summary)

theorem runGenerate_eq (config : Config) (input : Option String) (builtin : Bool)
    (output : Option String) (index json : Bool) :
    runGenerate config input builtin output index json =
      requestedPairs input builtin config >>= fun pairs =>
        (generate Registry.builtin pairs (output.getD config.outputDir)
          (notePair json)).orFail .generation >>=
            finishing config (output.getD config.outputDir) index json :=
  rfl

/-- **What is left after the pairs** goes well if no index is asked for or one is made, and only
then the last words are said. -/
structure Finished (config : Config) (out : String) (pairs : List MappingPair) (index json : Bool)
    (w : World) (result : Except CommandError Unit × World) : Prop where
  /-- It goes well if no index is asked for or one is made. -/
  ok_iff : result.1 = .ok () ↔ (index = true → ∃ made,
    ((rebuildIndex out config.indexFile).run.run w).1 = .ok made ∧
      result.2.disk.readFile w.cwd config.indexFile = .ok made.text.toUTF8)
  /-- The last words are said. -/
  said : result.1 = .ok () → result.2.out = w.out ++ closingText json out pairs
  /-- A failure says nothing. -/
  silent : ∀ e, result.1 = .error e → result.2.out = w.out
  /-- Directories stay. -/
  keeps : w.disk.KeepsDirectories result.2.disk
  /-- It leaves a tree. -/
  tree : result.2.disk.IsTree
  /-- The program works in the same directory. -/
  cwd : result.2.cwd = w.cwd

theorem finishing_run (ht : w.disk.IsTree) (config : Config) (out : String)
    (pairs : List MappingPair) (index json : Bool) :
    Finished config out pairs index json w
      ((finishing config out index json ⟨out, pairs.map (·.generatedIn out)⟩).run.run w) := by
  have hbase := fun v : World => (@looks_printSummary ∅ json
    ⟨out, pairs.map (·.generatedIn out)⟩).base_run v
  cases index with
  | false =>
    have hrun : (finishing config out false json ⟨out, pairs.map (·.generatedIn out)⟩).run.run w =
        (.ok (), ((printSummary json ⟨out, pairs.map (·.generatedIn out)⟩).run w).2) :=
      Attempt.run_always _ _
    have hdisk := World.disk_eq_of_base (hbase w)
    rw [hrun]
    exact ⟨by simp, fun _ => out_printSummary json out pairs w, nofun,
      fun loc hdir => by rw [hdisk]; exact hdir, by rw [hdisk]; exact ht,
      World.cwd_eq_of_base (hbase w)⟩
  | true =>
    obtain ⟨hedits, hread, -⟩ := rebuildIndex_run ht out config.indexFile
    rcases hmake : (rebuildIndex out config.indexFile).run.run w with ⟨e | made, w₁⟩ <;>
      rw [hmake] at hedits hread
    · have hrun : (finishing config out true json
          ⟨out, pairs.map (·.generatedIn out)⟩).run.run w = (.error e, w₁) :=
        Attempt.run_bind_error hmake
      rw [hrun]
      refine ⟨⟨nofun, fun hmade => ?_⟩, nofun, fun _ _ => congrArg Prod.snd hedits.seen,
        hedits.disk.keepsDirectories, hedits.tree, hedits.cwd⟩
      obtain ⟨made, hok, -⟩ := hmade rfl
      rw [hmake] at hok
      cases hok
    · have hrun : (finishing config out true json
          ⟨out, pairs.map (·.generatedIn out)⟩).run.run w =
            (.ok (), ((printSummary json ⟨out, pairs.map (·.generatedIn out)⟩).run w₁).2) :=
        (Attempt.run_bind_ok hmake).trans (Attempt.run_always _ _)
      have hdisk := World.disk_eq_of_base (hbase w₁)
      have hout : w₁.out = w.out := congrArg Prod.snd hedits.seen
      rw [hrun]
      refine ⟨⟨fun _ _ => ⟨made, by rw [hmake], ?_⟩, fun _ => rfl⟩, fun _ => ?_, nofun,
        fun loc hdir => ?_, ?_, (World.cwd_eq_of_base (hbase w₁)).trans hedits.cwd⟩
      · rw [hdisk]
        exact hread made rfl
      · rw [out_printSummary, hout]
      · rw [hdisk]
        exact hedits.disk.keepsDirectories loc hdir
      · rw [hdisk]
        exact hedits.tree

end Around

/-! ### Whole runs -/

section Runs

variable {env : Environment} {arguments : List String} {w w' : World}
  {configPath input output file : Option String} {builtin index json : Bool} {config : Config}
  {pairs : List MappingPair} {code : Nat}

/-- **What the output directory and the pairs have come to** decides whether they were written. -/
theorem Ends.ok_iff {out : String} {onPair : GeneratedPair → Program Unit}
    {note : List GeneratedPair × String → GeneratedPair → List GeneratedPair × String}
    {registry : Registry} {v v' : World} {result : Except GenError Summary} {n : Nat}
    {tried : List MappingPair} (hobs : Observes onPair note) (ht : v.disk.IsTree)
    (hrun : (generate registry pairs out onPair).run.run v = (result, v'))
    (hends : Ends registry pairs out onPair v (result, v') n tried) :
    result = .ok ⟨out, pairs.map (·.generatedIn out)⟩ ↔
      (out = "" ∨ v'.disk.isDirectory v'.cwd out = true) ∧ n = pairs.length := by
  cases hends with
  | finished =>
    refine ⟨fun _ => ⟨or_iff_not_imp_left.mpr fun hne => ?_, rfl⟩, fun _ => rfl⟩
    exact isDirectory_of_generate_ok hobs ht hne hrun
  | noDirectory cause _ hdirs =>
    refine ⟨nofun, fun hall => ?_⟩
    cases (createDirs_eq_ok_iff ht hdirs).mpr hall.1
  | failedAt n hn => exact ⟨nofun, fun hall => absurd hall.2 (Nat.ne_of_lt hn)⟩

/-- Generating once the pairs have been found. -/
def generatingOf (config : Config) (out : String) (index json : Bool) (pairs : List MappingPair) :
    Attempt CommandError Unit :=
  (generate Registry.builtin pairs out (notePair json)).orFail .generation >>=
    finishing config out index json

/-- **What generating for some pairs does and says**: it writes the files of the first `n` of them,
which leaves `first`, and ends in `last`. -/
structure Generates (config : Config) (out : String) (pairs : List MappingPair) (index json : Bool)
    (v : World) (n : Nat) (tried : List MappingPair) (first : Except GenError Summary × World)
    (last : Except CommandError Unit × World) : Prop where
  /-- Writing the files leaves this. -/
  written : (generate Registry.builtin pairs out (notePair json)).run.run v = first
  /-- This many pairs are written. -/
  ends : Ends Registry.builtin pairs out (notePair json) v first n tried
  /-- The whole leaves this. -/
  run : (generatingOf config out index json pairs).run.run v = last
  /-- The pairs that were written are named, and after a success the last words are said. -/
  said : last.2.out = v.out ++ progressText json (pairs.take n) ++
    (match last.1 with
    | .ok _ => closingText json out pairs
    | .error _ => "")
  /-- It succeeds if the directory is there, all pairs are written, and so is an index if one is
  asked for. -/
  ok_iff : last.1 = .ok () ↔
    (out = "" ∨ last.2.disk.isDirectory v.cwd out = true) ∧ n = pairs.length ∧
      (index = true → ∃ made,
        ((rebuildIndex out config.indexFile).run.run first.2).1 = .ok made ∧
        last.2.disk.readFile v.cwd config.indexFile = .ok made.text.toUTF8)

theorem generatingOf_run {v : World} (ht : v.disk.IsTree) (config : Config) (out : String)
    (pairs : List MappingPair) (index json : Bool) :
    ∃ n tried first last, Generates config out pairs index json v n tried first last := by
  obtain ⟨n, tried, hends, hleaves⟩ :=
    generate_run (@observes_notePair json) ht Registry.builtin pairs out
  rcases hgen : (generate Registry.builtin pairs out (notePair json)).run.run v with ⟨result, w₁⟩
  rw [hgen] at hends hleaves
  have hprogress : w₁.out = v.out ++ progressText json (pairs.take n) := by
    have hseen := hleaves.seen
    rw [hends.tried_eq.1] at hseen
    exact (congrArg Prod.snd hseen).trans (foldl_noteLine json out (pairs.take n) v.seen)
  have hok := Ends.ok_iff observes_notePair ht hgen hends
  cases result with
  | error e =>
    refine ⟨n, tried, _, _, hgen, hends, Attempt.run_bind_error (Attempt.run_orFail_error hgen), ?_,
      nofun, fun hall => ?_⟩
    · simpa using hprogress
    · rw [hleaves.cwd] at hok
      cases hok.mpr ⟨hall.1, hall.2.1⟩
  | ok summary =>
    obtain rfl : summary = ⟨out, pairs.map (·.generatedIn out)⟩ := by
      cases hends
      rfl
    have hfinished := finishing_run hleaves.disk.tree config out pairs index json
    obtain ⟨hdir, hall⟩ := hok.mp rfl
    rcases hrest : (finishing config out index json
      ⟨out, pairs.map (·.generatedIn out)⟩).run.run w₁ with ⟨result', w₂⟩
    rw [hrest] at hfinished
    refine ⟨n, tried, _, (result', w₂), hgen, hends,
      (Attempt.run_bind_ok (Attempt.run_orFail_ok hgen)).trans hrest, ?_, ?_⟩
    · rw [← hprogress]
      cases result' with
      | ok => exact hfinished.said rfl
      | error e => simpa using hfinished.silent e rfl
    · rw [← hleaves.cwd]
      refine ⟨fun hok' => ⟨?_, hall, hfinished.ok_iff.mp hok'⟩, fun h => hfinished.ok_iff.mpr h.2.2⟩
      -- the directory outlasts the index
      refine hdir.imp_right fun hthere => ?_
      obtain ⟨hcheck, hreach⟩ := hleaves.disk.tree.isDirectory_iff_reaches.mp hthere
      exact hfinished.tree.isDirectory_iff_reaches.mpr ⟨hcheck, hreach.mono hfinished.keeps⟩

variable (output index json) in
/-- **Generating under some settings** is generating for the pairs that are found. -/
theorem runGenerate_run {u : World} (ht : u.disk.IsTree)
    (hpairs : ((requestedPairs input builtin config).run.run u).1 = .ok pairs) :
    ∃ v n tried first last, v.base = u.base ∧ v.seen = u.seen ∧
      Generates config (output.getD config.outputDir) pairs index json v n tried first last ∧
      (runGenerate config input builtin output index json).run.run u = last ∧
      ∀ s ∈ (generate Registry.builtin pairs (output.getD config.outputDir)
        (notePair json)).run.states v,
          s ∈ (runGenerate config input builtin output index json).run.states u := by
  have hbase := (@looks_requestedPairs_univ input builtin config).base_run u
  have hlogs := logs_requestedPairs input builtin config u
  rcases hfound : (requestedPairs input builtin config).run.run u with ⟨found, v⟩
  rw [hfound] at hpairs hbase hlogs
  subst hpairs
  obtain ⟨n, tried, first, last, hgenerates⟩ := generatingOf_run
    (hlogs.disk ▸ ht : v.disk.IsTree) config (output.getD config.outputDir) pairs index json
  rw [runGenerate_eq]
  refine ⟨v, n, tried, first, last, hbase, hlogs.seen, hgenerates,
    (Attempt.run_bind_ok hfound).trans hgenerates.run, fun s hs => ?_⟩
  exact Attempt.mem_states_bind_of_ok hfound
    (Attempt.mem_states_bind.mpr (Or.inl (Attempt.mem_states_orFail.mpr hs)))

end Runs

/-- A document with one pair, and a directory in the place of the index file. -/
def blockedIndex : World :=
  .start ⟨[(["work"], .directory), (["work", "mapped-types-index.yaml"], .directory),
    (["work", "mapped-types.yaml"], .file "[{kotlin: A, java: B}]".toUTF8)]⟩ ["work"]

end TwinTypes
