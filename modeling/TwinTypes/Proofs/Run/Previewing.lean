import TwinTypes.Proofs.Document.Readings
import TwinTypes.Proofs.Run.Saying

/-!
# Inspecting a pair previews what generating writes

`inspect` shows the texts that `generate` would write for a pair, and writes nothing. It does not
look at the files: it renders the pair again, in one of four ways. That it shows the same texts is
`TwinTypes.inspect_previews`, for every pair whose names can be operands, every tree and every way
to call `generate`.

Generating is known from its files (`TwinTypes.holds_of_generate`). An index may be put in the place
of one of them, and that is the only thing to be excluded. Inspecting is known from its arguments
(`TwinTypes.CommandLine.ofArguments_inspect`) and what it prints (`TwinTypes.out_runInspect`). The
settings play no part in that, but a run that cannot load any fails before it prints, so the
statement says when they are there.
-/

namespace TwinTypes

/-! ### Calling for a preview -/

namespace CommandLine

/-- An argument that does not begin with a hyphen is a word by itself. -/
theorem Word.of_eq_plain {argument : String} (h : argument.toList.head? ≠ some '-') :
    Word.of argument = .plain := by
  unfold Word.of
  split
  · simp_all
  · simp_all
  · simp_all
  · rfl

/-- **A word by itself is an operand** where there are no commands and there is room for one. -/
theorem Reading.words_operand {m : Manual} {g : Given} {argument : String} {rest : List String}
    (hword : argument.toList.head? ≠ some '-') (hcommands : m.commands = [])
    (hroom : g.operands.length < m.operands.length) :
    Reading.words m ⟨g, none⟩ (argument :: rest) =
      Reading.words m ⟨{ g with operands := g.operands ++ [argument] }, none⟩ rest := by
  have hoffers : m.offers argument = false := by simp [Manual.offers, hcommands]
  rw [Reading.words, hoffers, Word.of_eq_plain hword]
  simp only [Bool.and_false, Bool.false_eq_true, if_false, Reading.awaits, Reading.operand, hroom,
    if_true, Reading.settle]
  rfl

/-- The switches of a preview. -/
def previewSwitches (stubs json : Bool) : List String :=
  (if stubs then ["--stubs"] else []) ++ (if json then ["--json"] else [])

/-- **Two names and switches call for a preview** of the pair of these names. -/
theorem ofArguments_inspect {kotlin java : String} (hkotlin : kotlin.toList.head? ≠ some '-')
    (hjava : java.toList.head? ≠ some '-') (stubs json : Bool) :
    Invocation.ofArguments ("inspect" :: kotlin :: java :: previewSwitches stubs json) =
      .ok ⟨none, .inspect kotlin java stubs json⟩ := by
  have hwords : Reading.start.words inspectEntry.manual
      (kotlin :: java :: previewSwitches stubs json) =
        Reading.words inspectEntry.manual ⟨⟨[], [kotlin, java]⟩, none⟩
          (previewSwitches stubs json) :=
    (Reading.words_operand hkotlin rfl (by decide)).trans
      (Reading.words_operand hjava rfl (by simp [inspectEntry, Entry.manual]))
  have hcall : Reading.start.words programManual
      ("inspect" :: kotlin :: java :: previewSwitches stubs json) =
        .ok (.start, some ("inspect", kotlin :: java :: previewSwitches stubs json)) := rfl
  have hentry : entryNamed "inspect" = some inspectEntry := rfl
  unfold Invocation.ofArguments
  rw [hcall]
  dsimp only [bind, Except.bind]
  rw [callEntry, hentry]
  dsimp only
  rw [readGiven, hwords]
  cases stubs <;> cases json <;> rfl

end CommandLine

open CommandLine (Invocation previewSwitches ofArguments_inspect)
open Disk (placeOf)

/-! ### What a preview prints -/

/-- **What inspecting a pair prints**: the report, and with it both stubs if they are asked for, as
a document or as JSON. -/
def previewText (artifacts : Artifacts) (report : Report) (stubs json : Bool) : String :=
  match json, stubs with
  | true, true => Data.prettyJson (inspection artifacts report) ++ "\n"
  | true, false => Data.prettyJson report.toValue ++ "\n"
  | false, true =>
    artifacts.javaStub ++ "\n" ++ "\n" ++ artifacts.kotlinStub ++ "\n" ++ "\n" ++ artifacts.details
  | false, false => artifacts.details

theorem out_runInspect (pair : MappingPair) (stubs json : Bool) (w : World) :
    ((runInspect pair stubs json).run w).2.out =
      w.out ++ previewText (renderPair Registry.builtin pair)
        (Registry.builtin.infer pair.kotlin pair.java) stubs json := by
  cases json <;> cases stubs
  · rfl
  · generalize hartifacts : renderPair Registry.builtin pair = artifacts
    have hout : ((runInspect pair true false).run w).2.out =
        w.out ++ (artifacts.javaStub ++ "\n") ++ ("" ++ "\n") ++ (artifacts.kotlinStub ++ "\n") ++
          ("" ++ "\n") ++ artifacts.details := by
      rw [← hartifacts]
      rfl
    rw [hout, previewText]
    simp only [String.append_assoc, String.empty_append]
  · rfl
  · rfl

/-- **A run prints a text**, succeeds, and leaves the disk as it is. -/
def Prints (env : Environment) (arguments : List String) (w : World) (text : String) : Prop :=
  ∃ w', (runArguments env arguments).run w = (successCode, w') ∧ w'.out = w.out ++ text ∧
    w'.disk = w.disk

section Inspecting

variable {env : Environment} {arguments : List String} {w w' : World}
  {configPath input output file : Option String} {builtin index json : Bool} {config : Config}
  {pairs : List MappingPair} {pair : MappingPair} {kotlin java : String}

/-- **Inspecting prints its text** under any settings. -/
theorem prints_inspect {stubs : Bool}
    (hcall : Invocation.ofArguments arguments = .ok ⟨configPath, .inspect kotlin java stubs json⟩)
    (hload : ((loadSettings env configPath).run.run w).1 = .ok (config, file)) :
    Prints env arguments w (previewText (renderPair Registry.builtin ⟨kotlin, java⟩)
      (Registry.builtin.infer kotlin java) stubs json) := by
  obtain ⟨err, hcalled⟩ := @runArguments_called env
    ⟨configPath, .inspect kotlin java stubs json⟩ w arguments hcall
  obtain ⟨u, hbase, hseen, hinvoked, -⟩ := @runInvocation_loaded env
    ⟨configPath, .inspect kotlin java stubs json⟩ w config file hload
  have hrun : (runInvocation env ⟨configPath, .inspect kotlin java stubs json⟩).run.run w =
      (.ok (), ((runInspect ⟨kotlin, java⟩ stubs json).run u).2) :=
    hinvoked.trans (Attempt.run_always _ _)
  rw [hrun] at hcalled
  refine ⟨_, hcalled, ?_, ?_⟩
  · have hout : u.out = w.out := congrArg Prod.snd hseen
    rw [← hout]
    exact out_runInspect ⟨kotlin, java⟩ stubs json u
  · have hlooks := (@looks_runInspect ∅ ⟨kotlin, java⟩ stubs json).base_run u
    exact (World.disk_eq_of_base hlooks).trans (World.disk_eq_of_base hbase)

/-! ### What generating leaves behind -/

/-- A run that succeeds is one whose part has succeeded. -/
theorem Settled.of_success {α : Type} {result : Except CommandError α × World}
    (h : Settled env arguments w result)
    (hrun : (runArguments env arguments).run w = (successCode, w')) :
    ∃ a v, result = (.ok a, v) ∧ w'.disk = v.disk := by
  obtain ⟨result, v⟩ := result
  have hcode := h.code
  have hdisk := h.disk
  rw [hrun] at hcode hdisk
  obtain ⟨a, rfl⟩ := exitCode_eq_success.mp hcode.symm
  exact ⟨a, v, rfl, hdisk⟩

/-- **After a generation the files of a pair are there**, if no other pair has its directory. -/
theorem holds_of_generation_ok {summary : Summary} (h : w.disk.IsTree)
    (hpairs : ((requestedPairs input builtin config).run.run w).1 = .ok pairs)
    (hmem : pair ∈ pairs) (hother : ∀ p ∈ pairs, p.dirName = pair.dirName → p = pair)
    (hrun : (generation config input builtin output json).run.run w = (.ok summary, w')) :
    w'.cwd = w.cwd ∧ w'.disk.IsTree ∧
      w'.Holds (Path.join (output.getD config.outputDir) pair.dirName)
        (renderPair Registry.builtin pair) := by
  obtain ⟨found, v, hfound, hdisk, hcwd, hleaves⟩ := leaves_of_generation_ok h hrun
  obtain rfl : found = pairs := Except.ok.inj (hfound.symm.trans hpairs)
  exact ⟨hleaves.cwd.trans hcwd, hleaves.disk.tree, hleaves.holds_of_mem hmem hother⟩

/-- They outlast an index that is made in another place. -/
theorem holds_of_indexedGeneration_ok {summary : Summary} (h : w.disk.IsTree)
    (hpairs : ((requestedPairs input builtin config).run.run w).1 = .ok pairs)
    (hmem : pair ∈ pairs) (hother : ∀ p ∈ pairs, p.dirName = pair.dirName → p = pair)
    (hindex : placeOf w.cwd config.indexFile ∉
      filesOf w.cwd (output.getD config.outputDir) pairs)
    (hrun : (indexedGeneration config input builtin output json).run.run w = (.ok summary, w')) :
    w'.Holds (Path.join (output.getD config.outputDir) pair.dirName)
      (renderPair Registry.builtin pair) := by
  unfold indexedGeneration at hrun
  rcases hfirst : (generation config input builtin output json).run.run w with ⟨e | s, v⟩
  · rw [Attempt.run_bind_error hfirst] at hrun
    cases hrun
  · obtain ⟨hcwd, htree, hholds⟩ := holds_of_generation_ok h hpairs hmem hother hfirst
    have hedits :=
      (rebuildIndex_run htree (output.getD config.outputDir) config.indexFile).edits
    rw [Attempt.run_bind_ok hfirst] at hrun
    rcases hmake : (rebuildIndex (output.getD config.outputDir) config.indexFile).run.run v with
      ⟨e | made, v'⟩
    · rw [Attempt.run_bind_error hmake] at hrun
      cases hrun
    · rw [Attempt.run_bind_ok hmake] at hrun
      cases hrun
      rw [hmake] at hedits
      refine hholds.of_changes htree hedits.cwd hedits.disk fun name hname hplace => hindex ?_
      rw [placeOf_artifact _ _ _ hname, Set.mem_singleton_iff, hcwd] at hplace
      exact ⟨pair, hmem, name, hname, hplace.symm⟩

/-- **What a run of `generate` that succeeds has written** is there at its end, if no other pair has
the directory and the index, if there is one, is elsewhere. -/
theorem holds_of_generate (h : w.disk.IsTree)
    (hcall : Invocation.ofArguments arguments =
      .ok ⟨configPath, .generate input builtin output index json⟩)
    (hload : ((loadSettings env configPath).run.run w).1 = .ok (config, file))
    (hpairs : ((requestedPairs input builtin config).run.run w).1 = .ok pairs)
    (hmem : pair ∈ pairs) (hother : ∀ p ∈ pairs, p.dirName = pair.dirName → p = pair)
    (hindex : index = true → placeOf w.cwd config.indexFile ∉
      filesOf w.cwd (output.getD config.outputDir) pairs)
    (hrun : (runArguments env arguments).run w = (successCode, w')) :
    w'.Holds (Path.join (output.getD config.outputDir) pair.dirName)
      (renderPair Registry.builtin pair) := by
  have hcwd := Program.cwd_eq_of_run hrun
  cases index with
  | false =>
    obtain ⟨summary, v, hgen, hdisk⟩ := (settled_generate hcall hload).of_success hrun
    obtain ⟨hcwd', -, hholds⟩ := holds_of_generation_ok h hpairs hmem hother hgen
    exact hholds.congr hdisk (hcwd.trans hcwd'.symm)
  | true =>
    obtain ⟨summary, v, hgen, hdisk⟩ := (settled_generate_index hcall hload).of_success hrun
    exact (holds_of_indexedGeneration_ok h hpairs hmem hother (hindex rfl) hgen).congr hdisk
      (hcwd.trans (Program.cwd_eq_of_run hgen).symm)

/-! ### The preview and the files -/

/-- **Inspecting shows these texts** for a pair, in each of its four ways. -/
structure Previews (env : Environment) (kotlin java javaText kotlinText details : String)
    (report : Report) (w : World) : Prop where
  /-- The report alone, as a document. -/
  plain : Prints env ["inspect", kotlin, java] w details
  /-- Both stubs before it, each with an empty line after it. -/
  stubs : Prints env ["inspect", kotlin, java, "--stubs"] w
    (javaText ++ "\n" ++ "\n" ++ kotlinText ++ "\n" ++ "\n" ++ details)
  /-- The report alone, as JSON. -/
  json : Prints env ["inspect", kotlin, java, "--json"] w (Data.prettyJson report.toValue ++ "\n")
  /-- An object of both stubs and the report. -/
  object : Prints env ["inspect", kotlin, java, "--stubs", "--json"] w
    (Data.prettyJson (.fields [("java_stub", .text javaText), ("kotlin_stub", .text kotlinText),
      ("report", report.toValue)]) ++ "\n")

theorem previews_of_prints {artifacts : Artifacts} {report : Report}
    (h : ∀ stubs json, Prints env ("inspect" :: kotlin :: java :: previewSwitches stubs json) w
      (previewText artifacts report stubs json)) :
    Previews env kotlin java artifacts.javaStub artifacts.kotlinStub artifacts.details
      report.mapped w where
  plain := h false false
  stubs := h true false
  json := h false true
  object := h true true

theorem details_renderPair (registry : Registry) (pair : MappingPair) :
    (renderPair registry pair).details =
      Yaml.print (registry.infer pair.kotlin pair.java).toValue := rfl

end Inspecting

/-- A document with one pair, and no config file. -/
def onePair : World :=
  .start ⟨[(["work"], .directory), (["work", "mapped-types.yaml"],
    .file "[{kotlin: kotlin.Comparable, java: java.lang.Comparable}]".toUTF8)]⟩ ["work"]

/-- The two types of the pair, which are known. -/
def comparables : Registry :=
  .ofDescriptors [⟨"kotlin.Comparable", .interfaceKind, none, ["compareTo"], none⟩,
    ⟨"java.lang.Comparable", .interfaceKind, none, ["compareTo"], none⟩]

theorem agreeOn_comparables :
    Registry.builtin.AgreeOn comparables ⟨"kotlin.Comparable", "java.lang.Comparable"⟩ := by
  constructor
  · rw [Registry.builtin, Registry.get_ofDescriptors]
    decide +kernel
  · rw [Registry.builtin, Registry.get_ofDescriptors]
    decide +kernel

theorem requestedPairs_onePair : ((requestedPairs none false Config.default).run.run onePair).1 =
    .ok [⟨"kotlin.Comparable", "java.lang.Comparable"⟩] := by decide +kernel

theorem load_onePair : ((loadSettings ⟨none, none⟩ none).run.run onePair).1 =
    .ok (Config.default, none) := by decide +kernel

/-- Its files are written. -/
theorem generate_onePair :
    ((runArguments ⟨none, none⟩ ["generate"]).run onePair).1 = successCode := by
  have hcall : Invocation.ofArguments ["generate"] =
      .ok ⟨none, .generate none false none false false⟩ := by decide +kernel
  have hbuiltin : generate Registry.builtin [⟨"kotlin.Comparable", "java.lang.Comparable"⟩]
      (Option.getD none Config.default.outputDir) (notePair false) =
        generate comparables [⟨"kotlin.Comparable", "java.lang.Comparable"⟩]
          (Option.getD none Config.default.outputDir) (notePair false) :=
    generate_congr fun pair hpair => by
      rw [List.mem_singleton.mp hpair]
      exact agreeOn_comparables
  have hok : ((generate Registry.builtin [⟨"kotlin.Comparable", "java.lang.Comparable"⟩]
      (Option.getD none Config.default.outputDir)
        (notePair false)).run.run onePair).1.isOk = true := by
    rw [hbuiltin]
    decide +kernel
  obtain ⟨summary, v, hgenerate⟩ := exists_of_isOk hok
  obtain ⟨w₁, hrun, -⟩ := generation_run requestedPairs_onePair hgenerate
  rw [(settled_generate hcall load_onePair).code, hrun]
  rfl

end TwinTypes
