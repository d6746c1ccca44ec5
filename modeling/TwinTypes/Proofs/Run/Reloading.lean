import TwinTypes.Proofs.Run.Deciding
import TwinTypes.Proofs.Run.Indexing
import TwinTypes.Proofs.Run.RoundTrip

/-!
# Loading the same settings again

A process that comes after another one loads the same settings if the first one has left the config
file alone, wherever that is, and has made no file that would be found in its place
(`loadSettings_of_changes`). Directories that are made in between make no difference, as a directory
is no config file.
-/

namespace TwinTypes

open Disk (placeOf)

variable {d d' : Disk} {cwd : Location} {dirs files : Set Location} {path : String}
  {bytes : ByteArray}

theorem Disk.isFile_iff : d.isFile cwd path = true ↔ ∃ bytes, d.readFile cwd path = .ok bytes := by
  unfold isFile readFile
  cases d.resolve cwd true path with
  | error e => simp
  | ok target =>
    cases target with
    | vacant loc => simp
    | found loc entry => cases entry <;> simp

/-- A config file of the working directory stands in it. -/
theorem readFile_configName (h : d.IsTree) {name : String} (hname : name ∈ configNames) :
    d.readFile cwd (Path.join "." name) = .ok bytes ↔
      d.get? (cwd ++ [name]) = some (.file bytes) := by
  have hpath : Disk.checkPath (Path.join "." name) = .ok () ∧
      Disk.steps (Path.join "." name) = [".", name] ∧
      Disk.bareSteps (Path.join "." name) = [".", name] ∧
      Path.isAbsolute (Path.join "." name) = false ∧ name ≠ "." ∧ name ≠ ".." ∧
      name.utf8ByteSize ≤ Disk.nameLimit := by
    simp only [configNames, List.mem_cons, List.not_mem_nil, or_false] at hname
    rcases hname with rfl | rfl
    · decide
    · decide
  obtain ⟨hcheck, hsteps, hbare, habs, hdot, hup, hsize⟩ := hpath
  have horigin : Disk.origin cwd (Path.join "." name) = cwd := by
    rw [Disk.origin, habs]
    rfl
  have hplace : placeOf cwd (Path.join "." name) = cwd ++ [name] := by
    rw [placeOf, horigin, hbare]
    simp [Disk.move, hdot, hup]
  rw [h.readFile_eq_ok_iff, hcheck, horigin, hsteps, hplace]
  constructor
  · rintro ⟨-, -, hget⟩
    exact hget
  · intro hget
    have hcwd := (h.get?_parent hget).2
    have hone : ".".utf8ByteSize ≤ Disk.nameLimit := by decide
    exact ⟨rfl, ⟨hcwd, hone, by simpa [Disk.move] using hcwd, hsize, trivial⟩, hget⟩

/-- **The config files of the working directory** are there after a change if they were there
before. -/
theorem Disk.Changes.isFile_configName (h : d.IsTree) (hchanges : d.Changes dirs files d')
    {name : String} (hname : name ∈ configNames) (hfiles : cwd ++ [name] ∉ files) :
    d'.isFile cwd (Path.join "." name) = d.isFile cwd (Path.join "." name) := by
  have hget : ∀ bytes, d'.get? (cwd ++ [name]) = some (.file bytes) ↔
      d.get? (cwd ++ [name]) = some (.file bytes) := by
    intro bytes
    rcases hchanges.cases (cwd ++ [name]) with hsame | ⟨-, hnone, hdir⟩ | ⟨hmem, -, -⟩
    · rw [hsame]
    · simp [hnone, hdir]
    · exact absurd hmem hfiles
  rw [Bool.eq_iff_iff, isFile_iff, isFile_iff]
  exact exists_congr fun bytes => by
    rw [readFile_configName hchanges.tree hname, readFile_configName h hname, hget]

variable {env : Environment} {v w : World}

theorem readText_run_of_readFile {text : String}
    (hread : w.disk.readFile w.cwd path = .ok text.toUTF8) :
    (readText path).run.run w = (.ok text, w) := by
  rw [readText_run, hread]
  simp only [fromUTF8?_toUTF8]

theorem loadConfig_run_ok {text : String} {config : Config}
    (hread : w.disk.readFile w.cwd path = .ok text.toUTF8)
    (hparse : Config.parse text = .ok config) :
    ((loadConfig path).run.run w).1 = .ok (config.resolvedAt path) := by
  unfold loadConfig
  rw [Attempt.run_bind_ok (Attempt.run_orFail_ok (readText_run_of_readFile hread)), hparse]
  rfl

theorem loadConfig_run_error {text message : String}
    (hread : w.disk.readFile w.cwd path = .ok text.toUTF8)
    (hparse : Config.parse text = .error message) :
    ((loadConfig path).run.run w).1 = .error (.settings message) := by
  unfold loadConfig
  rw [Attempt.run_bind_ok (Attempt.run_orFail_ok (readText_run_of_readFile hread)), hparse]
  rfl

theorem loadConfig_congr (h : v.disk.readFile v.cwd path = w.disk.readFile w.cwd path) :
    ((loadConfig path).run.run v).1 = ((loadConfig path).run.run w).1 := by
  have htext : ((readText path).run.run v).1 = ((readText path).run.run w).1 := by
    rw [readText_run, readText_run, h]
  unfold loadConfig
  rcases hv : (readText path).run.run v with ⟨e | text, v'⟩ <;>
    rcases hw : (readText path).run.run w with ⟨e' | text', w'⟩ <;> rw [hv, hw] at htext <;>
    cases htext
  · rw [Attempt.run_bind_error (Attempt.run_orFail_error hv),
      Attempt.run_bind_error (Attempt.run_orFail_error hw)]
  · rw [Attempt.run_bind_ok (Attempt.run_orFail_ok hv),
      Attempt.run_bind_ok (Attempt.run_orFail_ok hw)]
    cases Config.parse text <;> rfl

/-- A config file that could be loaded before a change is loaded after it, if the change leaves it
alone. -/
theorem loadConfig_of_changes {config : Config} (h : w.disk.IsTree)
    (hchanges : w.disk.Changes dirs files v.disk) (hcwd : v.cwd = w.cwd)
    (hload : ((loadConfig path).run.run w).1 = .ok config) (hfiles : placeOf w.cwd path ∉ files) :
    ((loadConfig path).run.run v).1 = .ok config := by
  cases hread : w.disk.readFile w.cwd path with
  | error e =>
    have htext : (readText path).run.run w = (.error e, w) := by rw [readText_run, hread]
    unfold loadConfig at hload
    rw [Attempt.run_bind_error (Attempt.run_orFail_error htext)] at hload
    cases hload
  | ok bytes =>
    rw [← hload]
    refine loadConfig_congr ?_
    rw [hcwd, hread]
    exact hchanges.readFile h hread hfiles

theorem firstFile_congr {paths : List String}
    (h : ∀ path ∈ paths, v.disk.isFile v.cwd path = w.disk.isFile w.cwd path) :
    ((firstFile paths).run v).1 = ((firstFile paths).run w).1 := by
  induction paths with
  | nil => rfl
  | cons path rest ih =>
    have hrest := ih fun p hp => h p (List.mem_cons_of_mem _ hp)
    have hrun : ∀ u : World, (firstFile (path :: rest)).run u =
        (if u.disk.isFile u.cwd path then pure (some path) else firstFile rest :
          Program (Option String)).run u := fun _ => rfl
    rw [hrun, hrun, h path List.mem_cons_self]
    split
    · rfl
    · exact hrest

/-- The settings of a file that the arguments name. -/
theorem loadSettings_some {file : Option String} {config : Config} :
    ((loadSettings env (some path)).run.run w).1 = .ok (config, file) ↔
      file = some path ∧ ((loadConfig path).run.run w).1 = .ok config := by
  rw [loadSettings]
  rcases hload : (loadConfig path).run.run w with ⟨e | loaded, w'⟩
  · rw [Attempt.run_bind_error (Attempt.run_orFail_error hload)]
    simp
  · rw [Attempt.run_bind_ok (Attempt.run_orFail_ok hload), Attempt.run_pure]
    simp [and_comm, eq_comm]

/-- The settings of the file that is found, or the default ones. -/
theorem loadSettings_none {file : Option String} {config : Config} :
    ((loadSettings env none).run.run w).1 = .ok (config, file) ↔
      file = ((discoverConfig env ".").run w).1 ∧
        match file with
        | none => config = Config.default
        | some path => ((loadConfig path).run.run w).1 = .ok config := by
  have hworld : ((discoverConfig env ".").run w).2 = w := (reads_discoverConfig env ".").run_reads w
  have hroot : (loadForRoot env ".").run.run w =
      (match ((discoverConfig env ".").run w).1 with
      | none => pure (Config.default, none)
      | some path => do
        let c ← loadConfig path
        pure (c, some path) : Attempt LoadError (Config × Option String)).run.run w := by
    unfold loadForRoot
    rewrite [Attempt.run_always_bind, hworld]
    rfl
  rw [loadSettings]
  cases hfound : ((discoverConfig env ".").run w).1 with
  | none =>
    rw [hfound] at hroot
    rw [Attempt.run_orFail_ok hroot]
    constructor
    · intro h
      cases h
      exact ⟨rfl, rfl⟩
    · rintro ⟨rfl, rfl⟩
      rfl
  | some path =>
    rw [hfound] at hroot
    dsimp only at hroot
    rcases hload : (loadConfig path).run.run w with ⟨e | loaded, w'⟩
    · rw [Attempt.run_bind_error hload] at hroot
      rw [Attempt.run_orFail_error hroot]
      constructor
      · intro h
        cases h
      · rintro ⟨rfl, h⟩
        dsimp only at h
        rw [hload] at h
        cases h
    · rw [Attempt.run_bind_ok hload, Attempt.run_pure] at hroot
      rw [Attempt.run_orFail_ok hroot]
      constructor
      · intro h
        cases h
        exact ⟨rfl, congrArg Prod.fst hload⟩
      · rintro ⟨rfl, h⟩
        dsimp only at h
        rw [hload] at h
        cases h
        rfl

/-- **The settings of a directory are found and loaded again** after a change that leaves the config
file alone and makes none. -/
theorem loadSettings_of_changes {configPath file : Option String} {config : Config}
    (h : w.disk.IsTree) (hchanges : w.disk.Changes dirs files v.disk) (hcwd : v.cwd = w.cwd)
    (hnames : ∀ name ∈ configNames, w.cwd ++ [name] ∉ files)
    (hload : ((loadSettings env configPath).run.run w).1 = .ok (config, file))
    (hfile : ∀ path, file = some path → placeOf w.cwd path ∉ files) :
    ((loadSettings env configPath).run.run v).1 = .ok (config, file) := by
  cases configPath with
  | some path =>
    rw [loadSettings_some] at hload ⊢
    exact ⟨hload.1, loadConfig_of_changes h hchanges hcwd hload.2 (hfile path hload.1)⟩
  | none =>
    rw [loadSettings_none] at hload ⊢
    have hfound : ((discoverConfig env ".").run v).1 = ((discoverConfig env ".").run w).1 := by
      unfold discoverConfig
      cases env.configPath with
      | some path => rfl
      | none =>
        refine firstFile_congr fun path hpath => ?_
        obtain ⟨name, hname, rfl⟩ := List.mem_map.mp hpath
        rw [hcwd]
        exact hchanges.isFile_configName h hname (hnames name hname)
    rw [hfound]
    refine ⟨hload.1, ?_⟩
    cases file with
    | none => exact hload.2
    | some path => exact loadConfig_of_changes h hchanges hcwd hload.2 (hfile path rfl)

end TwinTypes
