import TwinTypes.Proofs.Disk.Trail
import TwinTypes.Proofs.Run.Reloading

/-!
# Three ways to name the config file

The arguments can name the config file, the environment can, and else one is looked for in the
working directory. The settings do not come out letter by letter the same: a file is found and read
with a dot in front of its path, and so `./a` has `./x` for the path `x` in it where `a` leaves `x`
alone. What the three ways share is where the paths lead, which is their trail
(`TwinTypes.Path.trail`), and the reports (`TwinTypes.Agree`).

The load-bearing statement is `Config.placed_resolvedAt`: in whatever letters the path of a config
file is written, a path in the file keeps its letters if it is one from the root, and otherwise has
the trail of the file's directory in front of its own. Nothing but the trail of the file's path
enters, and the trail does not change with a dot in front.

Two things keep the ways apart, and the main statement `loadSettings_agree` says so. With a dot in
front a path may be too long, and looking passes over a name that is no file where naming it is a
mistake; `loadSettings_disagree` has an instance of each.
-/

namespace TwinTypes

open Path (trail join isAbsolute)

variable {w : World} {env : Environment} {file file' path path' written written' : String}

/-! ### Where the paths in a config file lead -/

/-- **A path as it is written in a config file and as it is used**: from the root it is the same
path, and otherwise it leads below the directory of the file. -/
def LeadsTo (file written path : String) : Prop :=
  if isAbsolute written then path = written
  else trail path = (trail file).dropLast ++ trail written

/-- **The settings that a config file stands for**, given those in its text. -/
structure Config.Placed (file : String) (written c : Config) : Prop where
  /-- Reports do not depend on where the file is. -/
  logging : c.logging = written.logging
  /-- The document is below the directory of the file. -/
  mappedTypes : LeadsTo file written.mappedTypes c.mappedTypes
  /-- So is the directory of the pairs. -/
  outputDir : LeadsTo file written.outputDir c.outputDir
  /-- So is the index. -/
  indexFile : LeadsTo file written.indexFile c.indexFile

/-- **Settings alike**: they report in one way, and their paths lead to the same places. -/
structure Config.Alike (c c' : Config) : Prop where
  /-- They report in one way. -/
  logging : c.logging = c'.logging
  /-- The documents are the same. -/
  mappedTypes : trail c.mappedTypes = trail c'.mappedTypes
  /-- The directories of the pairs are the same. -/
  outputDir : trail c.outputDir = trail c'.outputDir
  /-- The indexes are the same. -/
  indexFile : trail c.indexFile = trail c'.indexFile

/-- A path in a config file is resolved against the directory of the file. -/
theorem leadsTo_resolveAgainst {dir : String} (h : Path.parent file = some dir) (path : String) :
    LeadsTo file path (resolveAgainst dir path) := by
  rw [LeadsTo, resolveAgainst]
  cases habs : isAbsolute path with
  | true => rfl
  | false => exact (Path.trail_join habs).trans (by rw [Path.trail_parent h])

/-- Where the directory of a file has no trail, paths lead where they are written. -/
theorem leadsTo_self (h : (trail file).dropLast = []) (path : String) : LeadsTo file path path := by
  rw [LeadsTo, h]
  split
  · rfl
  · rfl

/-- **Paths are resolved to where they lead**, in whatever letters the path of the file is
written. -/
theorem Config.placed_resolvedAt (c : Config) (file : String) :
    c.Placed file (c.resolvedAt file) := by
  rw [Config.resolvedAt]
  have hself (h : (trail file).dropLast = []) : c.Placed file c :=
    ⟨rfl, leadsTo_self h _, leadsTo_self h _, leadsTo_self h _⟩
  cases hparent : Path.parent file with
  | none => exact hself (Path.dropLast_trail_of_parent hparent)
  | some dir =>
    dsimp only
    split
    · rename_i hempty
      obtain rfl := String.isEmpty_iff.mp hempty
      exact hself (by rw [← Path.trail_parent hparent, Path.trail_empty])
    · exact ⟨rfl, leadsTo_resolveAgainst hparent _, leadsTo_resolveAgainst hparent _,
        leadsTo_resolveAgainst hparent _⟩

theorem LeadsTo.trail_eq (h : LeadsTo file written path) (h' : LeadsTo file' written path')
    (htrail : trail file = trail file') : trail path = trail path' := by
  rw [LeadsTo] at h h'
  split at h
  · rename_i habs
    rw [if_pos habs] at h'
    rw [h, h']
  · rename_i habs
    rw [if_neg habs] at h'
    rw [h, h', htrail]

/-- **Files with one trail and one text** stand for settings alike. -/
theorem Config.Placed.alike {written c c' : Config} (h : written.Placed file c)
    (h' : written.Placed file' c') (htrail : trail file = trail file') : c.Alike c' where
  logging := h.logging.trans h'.logging.symm
  mappedTypes := h.mappedTypes.trail_eq h'.mappedTypes htrail
  outputDir := h.outputDir.trail_eq h'.outputDir htrail
  indexFile := h.indexFile.trail_eq h'.indexFile htrail

/-! ### Settings of one file -/

/-- **A file holds settings**: it can be read, and its text sets them. -/
def World.Sets (w : World) (file : String) (c : Config) : Prop :=
  ∃ text : String, w.disk.readFile w.cwd file = .ok text.toUTF8 ∧ Config.parse text = .ok c

/-- What comes of loading settings: the settings and the file that they are from. -/
abbrev Loaded : Type :=
  Except CommandError (Config × Option String)

/-- **The settings of one file and no other**: they are loaded if the file holds any, and from
nowhere else. -/
structure LoadedFrom (w : World) (file : String) (r : Loaded) : Prop where
  /-- What is loaded is what the file holds. -/
  sound : ∀ {c found}, r = .ok (c, found) →
    found = some file ∧ ∃ written : Config, w.Sets file written ∧ written.Placed file c
  /-- What the file holds is loaded. -/
  complete : ∀ {written : Config}, w.Sets file written → ∃ c, r = .ok (c, some file)

/-- **Agreement**: both fail, or both succeed with settings alike. -/
inductive Agree : Loaded → Loaded → Prop
  /-- Both fail. -/
  | fail (e e' : CommandError) : Agree (.error e) (.error e')
  /-- Both succeed. -/
  | succeed {c c' : Config} (found found' : Option String) (h : c.Alike c') :
    Agree (.ok (c, found)) (.ok (c', found'))

theorem World.Sets.unique {c c' : Config} (h : w.Sets file c) (h' : w.Sets file c') : c = c' := by
  obtain ⟨text, hread, hparse⟩ := h
  obtain ⟨text', hread', hparse'⟩ := h'
  obtain rfl : text = text' := by
    rw [hread] at hread'
    exact String.toByteArray_inj.mp (Except.ok.inj hread')
  rw [hparse] at hparse'
  exact Except.ok.inj hparse'

/-- **Two loadings agree** if they are from files that have one trail and hold the same. -/
theorem LoadedFrom.agree {r r' : Loaded} (h : LoadedFrom w file r) (h' : LoadedFrom w file' r')
    (htrail : trail file = trail file') (hsame : ∀ c, w.Sets file c ↔ w.Sets file' c) :
    Agree r r' := by
  rcases r with e | ⟨c, found⟩ <;> rcases r' with e' | ⟨c', found'⟩
  · exact .fail e e'
  · obtain ⟨-, written, hholds, -⟩ := h'.sound rfl
    obtain ⟨_, hok⟩ := h.complete ((hsame written).mpr hholds)
    cases hok
  · obtain ⟨-, written, hholds, -⟩ := h.sound rfl
    obtain ⟨_, hok⟩ := h'.complete ((hsame written).mp hholds)
    cases hok
  · obtain ⟨-, written, hholds, hplaced⟩ := h.sound rfl
    obtain ⟨-, written', hholds', hplaced'⟩ := h'.sound rfl
    obtain rfl := ((hsame written).mp hholds).unique hholds'
    exact .succeed found found' (hplaced.alike hplaced' htrail)

theorem toUTF8_of_fromUTF8? {bytes : ByteArray} {text : String}
    (h : String.fromUTF8? bytes = some text) : text.toUTF8 = bytes := by
  unfold String.fromUTF8? at h
  split at h
  · cases h
    rfl
  · cases h

/-- **A text is read** exactly if its bytes are there. -/
theorem readText_eq_ok_iff {text : String} : ((readText file).run.run w).1 = .ok text ↔
    w.disk.readFile w.cwd file = .ok text.toUTF8 := by
  rw [readText_run]
  cases hread : w.disk.readFile w.cwd file with
  | error e => simp
  | ok bytes =>
    dsimp only
    constructor
    · intro h
      cases htext : String.fromUTF8? bytes with
      | none =>
        rw [htext] at h
        cases h
      | some found =>
        rw [htext] at h
        obtain rfl := Except.ok.inj h
        rw [toUTF8_of_fromUTF8? htext]
    · intro h
      rw [Except.ok.inj h, fromUTF8?_toUTF8]

/-- **A config file is loaded** exactly if it holds settings. -/
theorem loadConfig_run_iff {c : Config} : ((loadConfig file).run.run w).1 = .ok c ↔
    ∃ written, w.Sets file written ∧ c = written.resolvedAt file := by
  constructor
  · intro h
    unfold loadConfig at h
    rcases hrun : (readText file).run.run w with ⟨e | text, w'⟩
    · rw [Attempt.run_bind_error (Attempt.run_orFail_error hrun)] at h
      cases h
    · rw [Attempt.run_bind_ok (Attempt.run_orFail_ok hrun)] at h
      have hread := readText_eq_ok_iff.mp (congrArg Prod.fst hrun)
      cases hparse : Config.parse text with
      | error message =>
        rw [hparse] at h
        cases h
      | ok written =>
        rw [hparse] at h
        exact ⟨written, ⟨text, hread, hparse⟩, (Except.ok.inj h).symm⟩
  · rintro ⟨written, ⟨text, hread, hparse⟩, rfl⟩
    exact loadConfig_run_ok hread hparse

/-- **A file that the arguments name** is the one that the settings are from. -/
theorem loadedFrom_some : LoadedFrom w file ((loadSettings env (some file)).run.run w).1 where
  sound h := by
    obtain ⟨rfl, hload⟩ := loadSettings_some.mp h
    obtain ⟨written, hholds, rfl⟩ := loadConfig_run_iff.mp hload
    exact ⟨rfl, written, hholds, written.placed_resolvedAt file⟩
  complete hholds := ⟨_, loadSettings_some.mpr ⟨rfl, loadConfig_run_iff.mpr ⟨_, hholds, rfl⟩⟩⟩

/-- **So is a file that is found.** -/
theorem loadedFrom_none (hfound : ((discoverConfig env ".").run w).1 = some file) :
    LoadedFrom w file ((loadSettings env none).run.run w).1 where
  sound h := by
    obtain ⟨rfl, hload⟩ := loadSettings_none.mp h
    rw [hfound] at hload
    obtain ⟨written, hholds, rfl⟩ := loadConfig_run_iff.mp hload
    exact ⟨hfound, written, hholds, written.placed_resolvedAt file⟩
  complete hholds := ⟨_, loadSettings_none.mpr
    ⟨hfound.symm, loadConfig_run_iff.mpr ⟨_, hholds, rfl⟩⟩⟩

/-! ### Two paths of one file -/

/-- A file that is found and cannot be read ends the loading. -/
theorem loadSettings_of_readFile {e : DiskError}
    (hfound : ((discoverConfig env ".").run w).1 = some file)
    (hread : w.disk.readFile w.cwd file = .error e) :
    ((loadSettings env none).run.run w).1 = .error (.settings none (.io file e)) := by
  have hworld : ((discoverConfig env ".").run w).2 = w := (reads_discoverConfig env ".").run_reads w
  have htext : (readText file).run.run w = (.error e, w) := by rw [readText_run, hread]
  have hload : (loadConfig file).run.run w = (.error (.io file e), w) := by
    unfold loadConfig
    rw [Attempt.run_bind_error (Attempt.run_orFail_error htext)]
  have hroot : (loadForRoot env ".").run.run w = (.error (.io file e), w) := by
    unfold loadForRoot
    rewrite [Attempt.run_always_bind, hworld, hfound]
    exact Attempt.run_bind_error hload
  rw [loadSettings, Attempt.run_orFail_error hroot]

/-- **A file holds the same with a dot in front of its path**, unless the dot makes the path too
long. -/
theorem sets_join_dot (w : World) (file : String) :
    (∀ c, w.Sets file c ↔ w.Sets (join "." file) c) ∨
      (Disk.pathLimit < (join "." file).utf8ByteSize ∧
        w.disk.readFile w.cwd (join "." file) = .error .nameTooLong) := by
  rcases w.disk.readFile_join_dot w.cwd file with hsame | ⟨⟨e, hdot⟩, e', hplain⟩ | hlong
  · exact Or.inl fun c => by rw [World.Sets, World.Sets, hsame]
  · refine Or.inl fun c => ?_
    simp [World.Sets, hdot, hplain]
  · exact Or.inr hlong

/-- A name of a config file is found with a dot in front exactly if it is found. -/
theorem isFile_join_dot {name : String} (hname : name ∈ configNames) :
    w.disk.isFile w.cwd (join "." name) = w.disk.isFile w.cwd name := by
  have hfacts : isAbsolute name = false ∧ name ≠ "" ∧
      (join "." name).utf8ByteSize ≤ Disk.pathLimit := by
    simp only [configNames, List.mem_cons, List.not_mem_nil, or_false] at hname
    rcases hname with rfl | rfl <;> decide
  obtain ⟨habs, hne, hsize⟩ := hfacts
  rw [Disk.isFile, Disk.isFile, Disk.resolve_join_dot habs hne hsize]

/-- **The one that is found** is the first that is there. -/
theorem discoverConfig_eq {name : String} {rustLog : Option String}
    (hname : name = "ktmap.toml" ∨
      name = ".ktmap.toml" ∧ w.disk.isFile w.cwd "ktmap.toml" = false)
    (hfile : w.disk.isFile w.cwd name = true) :
    ((discoverConfig ⟨none, rustLog⟩ ".").run w).1 = some (join "." name) := by
  have hrun : ((discoverConfig ⟨none, rustLog⟩ ".").run w).1 =
      ((if w.disk.isFile w.cwd (join "." "ktmap.toml") then pure (some (join "." "ktmap.toml"))
        else firstFile [join "." ".ktmap.toml"] : Program (Option String)).run w).1 := rfl
  have hrun' : ((firstFile [join "." ".ktmap.toml"]).run w).1 =
      ((if w.disk.isFile w.cwd (join "." ".ktmap.toml") then pure (some (join "." ".ktmap.toml"))
        else pure none : Program (Option String)).run w).1 := rfl
  rcases hname with rfl | ⟨rfl, hfirst⟩
  · rw [hrun, isFile_join_dot (by decide), if_pos hfile]
    rfl
  · rw [hrun, isFile_join_dot (by decide), if_neg (by simp [hfirst]), hrun',
      isFile_join_dot (by decide), if_pos hfile]
    rfl

/-! ### The three ways -/

/-- **Whichever way the config file is named**, the settings are those of that file, or there are
none. The arguments and the environment agree, unless the path is too long with a dot in front; and
what is found by looking agrees with both where the file that they name is there to be found. -/
theorem loadSettings_agree (w : World) (env : Environment) (rustLog : Option String)
    (file : String) :
    let named := ((loadSettings env (some file)).run.run w).1
    let told := ((loadSettings ⟨some file, rustLog⟩ none).run.run w).1
    let found := ((loadSettings ⟨none, rustLog⟩ none).run.run w).1
    LoadedFrom w file named ∧ LoadedFrom w (join "." file) told ∧
      (∀ c other, found = .ok (c, some other) → LoadedFrom w other found) ∧
      (Agree named told ∨ (Disk.pathLimit < (join "." file).utf8ByteSize ∧
        told = .error (.settings none (.io (join "." file) .nameTooLong)))) ∧
      ((file = "ktmap.toml" ∨ file = ".ktmap.toml" ∧ w.disk.isFile w.cwd "ktmap.toml" = false) →
        w.disk.isFile w.cwd file = true → Agree found named ∧ Agree found told) := by
  intro named told found
  have hnamed : LoadedFrom w file named := loadedFrom_some
  have htold : LoadedFrom w (join "." file) told := loadedFrom_none rfl
  refine ⟨hnamed, htold, fun c other hother => ?_, ?_, fun hname hfile => ?_⟩
  · exact loadedFrom_none (loadSettings_none.mp hother).1.symm
  · rcases sets_join_dot w file with hsame | ⟨hlong, hread⟩
    · exact Or.inl (hnamed.agree htold (Path.trail_join_dot file).symm hsame)
    · exact Or.inr ⟨hlong, loadSettings_of_readFile rfl hread⟩
  · have hfound : LoadedFrom w (join "." file) found :=
      loadedFrom_none (discoverConfig_eq hname hfile)
    have hsize : (join "." file).utf8ByteSize ≤ Disk.pathLimit := by
      rcases hname with rfl | ⟨rfl, -⟩ <;> decide
    have hsame := (sets_join_dot w file).resolve_right fun hlong => Nat.not_lt.mpr hsize hlong.1
    exact ⟨hfound.agree hnamed (Path.trail_join_dot file) fun c => (hsame c).symm,
      hfound.agree htold rfl fun _ => Iff.rfl⟩

/-- A config file of the second name, with a path from the root and one that is not. -/
def hiddenFile : World :=
  .start ⟨[(["work"], .directory),
    (["work", ".ktmap.toml"], .file "mapped_types='a/../b'\noutput_dir='/o'\n".toUTF8)]⟩ ["work"]

/-- **At a file of the second name** the three ways agree, and the paths lead where they should. -/
theorem loadSettings_agree_hiddenFile :
    hiddenFile.disk.isFile hiddenFile.cwd "ktmap.toml" = false ∧
      hiddenFile.disk.isFile hiddenFile.cwd ".ktmap.toml" = true ∧
      Agree ((loadSettings ⟨none, none⟩ none).run.run hiddenFile).1
        ((loadSettings ⟨none, none⟩ (some ".ktmap.toml")).run.run hiddenFile).1 ∧
      Agree ((loadSettings ⟨none, none⟩ none).run.run hiddenFile).1
        ((loadSettings ⟨some ".ktmap.toml", none⟩ none).run.run hiddenFile).1 ∧
      ((loadSettings ⟨none, none⟩ none).run.run hiddenFile).1 =
        .ok (⟨"./a/../b", "/o", "./mapped-types-index.yaml", Logging.default⟩,
          some "./.ktmap.toml") := by
  have hfirst : hiddenFile.disk.isFile hiddenFile.cwd "ktmap.toml" = false := by decide +kernel
  have hfile : hiddenFile.disk.isFile hiddenFile.cwd ".ktmap.toml" = true := by decide +kernel
  obtain ⟨-, -, -, -, hagree⟩ := loadSettings_agree hiddenFile ⟨none, none⟩ none ".ktmap.toml"
  obtain ⟨hnamed, htold⟩ := hagree (Or.inr ⟨rfl, hfirst⟩) hfile
  exact ⟨hfirst, hfile, hnamed, htold, by decide +kernel⟩

/-! ### Where they part -/

section Dotted

/-- The first name of a config file, with dots in front. -/
def dotted : Nat → String
  | 0 => "ktmap.toml"
  | n + 1 => join "." (dotted n)

theorem isAbsolute_dotted (n : Nat) : isAbsolute (dotted n) = false := by
  induction n with
  | zero => decide
  | succ n ih => exact Path.isAbsolute_join ih

theorem utf8ByteSize_dotted (n : Nat) : (dotted n).utf8ByteSize = 2 * n + 10 := by
  induction n with
  | zero => decide
  | succ n ih =>
    rw [dotted, Path.utf8ByteSize_join_dot (isAbsolute_dotted n), ih]
    omega

theorem dotted_ne_empty (n : Nat) : dotted n ≠ "" := by
  intro hempty
  have hsize := utf8ByteSize_dotted n
  rw [hempty] at hsize
  simp at hsize

theorem nul_notMem_dotted (n : Nat) : '\x00' ∉ (dotted n).toList := by
  induction n with
  | zero => decide
  | succ n ih =>
    rw [dotted, Path.join_dot (isAbsolute_dotted n)]
    simpa using ih

/-- **As many dots as a path has room for** change nothing. -/
theorem readFile_dotted (d : Disk) (cwd : Location) {n : Nat} (hn : 2 * n + 10 ≤ Disk.pathLimit) :
    d.readFile cwd (dotted n) = d.readFile cwd "ktmap.toml" := by
  induction n with
  | zero => rfl
  | succ n ih =>
    rw [← ih (by omega), dotted, Disk.readFile, Disk.readFile,
      Disk.resolve_join_dot (isAbsolute_dotted n) (dotted_ne_empty n)]
    rw [← dotted, utf8ByteSize_dotted]
    exact hn

/-- **With one dot too many** nothing is read. -/
theorem checkPath_dotted {n : Nat} (hn : Disk.pathLimit < 2 * n + 10) :
    Disk.checkPath (dotted n) = .error .nameTooLong := by
  have hlong : Disk.pathLimit < (dotted n).utf8ByteSize := by rwa [utf8ByteSize_dotted]
  simp [Disk.checkPath, nul_notMem_dotted, dotted_ne_empty, hlong]

/-- **Between the two** lie the paths that the arguments can name and the environment cannot. -/
theorem not_agree_dotted {c : Config} {n : Nat} (hholds : w.Sets "ktmap.toml" c)
    (hn : 2 * n + 10 ≤ Disk.pathLimit) (hlong : Disk.pathLimit < 2 * (n + 1) + 10) :
    ¬Agree ((loadSettings env (some (dotted n))).run.run w).1
      ((loadSettings ⟨some (dotted n), env.rustLog⟩ none).run.run w).1 := by
  obtain ⟨text, hread, hparse⟩ := hholds
  have hfrom : LoadedFrom w (dotted n) ((loadSettings env (some (dotted n))).run.run w).1 :=
    loadedFrom_some
  obtain ⟨_, hnamed⟩ := hfrom.complete ⟨text, (readFile_dotted _ _ hn).trans hread, hparse⟩
  have hcheck := checkPath_dotted hlong
  rw [dotted] at hcheck
  have hlost : w.disk.readFile w.cwd (join "." (dotted n)) = .error .nameTooLong :=
    Disk.readFile_of_checkPath hcheck
  have htold : ((loadSettings ⟨some (dotted n), env.rustLog⟩ none).run.run w).1 =
      .error (.settings none (.io (join "." (dotted n)) .nameTooLong)) :=
    loadSettings_of_readFile rfl hlost
  rw [hnamed, htold]
  nofun

end Dotted

/-- A directory to work in, with nothing in it. -/
def noFile : World :=
  .start ⟨[(["work"], .directory)]⟩ ["work"]

/-- A config file that sets nothing. -/
def blankFile : World :=
  .start ⟨[(["work"], .directory), (["work", "ktmap.toml"], .file "".toUTF8)]⟩ ["work"]

/-- **Where the ways part**: with no config file at all, looking for one is no failure and naming
one is; and a path of one byte less than the longest has no room for a dot and a slash. -/
theorem loadSettings_disagree :
    ¬Agree ((loadSettings ⟨none, none⟩ none).run.run noFile).1
        ((loadSettings ⟨none, none⟩ (some "ktmap.toml")).run.run noFile).1 ∧
      ¬Agree ((loadSettings ⟨none, none⟩ (some (dotted 2042))).run.run blankFile).1
        ((loadSettings ⟨some (dotted 2042), none⟩ none).run.run blankFile).1 := by
  constructor
  · have hfound : ((loadSettings ⟨none, none⟩ none).run.run noFile).1 =
        .ok (Config.default, none) := by decide +kernel
    have hnamed : ((loadSettings ⟨none, none⟩ (some "ktmap.toml")).run.run noFile).1 =
        .error (.settings (some "ktmap.toml") (.io "ktmap.toml" .notFound)) := by decide +kernel
    rw [hfound, hnamed]
    nofun
  · have hplain : blankFile.disk.readFile blankFile.cwd "ktmap.toml" = .ok "".toUTF8 := by
      decide +kernel
    have hholds : blankFile.Sets "ktmap.toml" Config.default :=
      ⟨"", hplain, by decide +kernel⟩
    exact not_agree_dotted hholds (by decide) (by decide)

end TwinTypes
