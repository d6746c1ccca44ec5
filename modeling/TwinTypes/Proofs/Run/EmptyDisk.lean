import TwinTypes.Proofs.Run.Succeeding

/-!
# Runs on an empty disk

Where nothing stands a run can begin if the files can be named, and no number is taken, so the files
draw the numbers from the counter on one after another. Then whether it succeeds is settled by
lengths alone (`TwinTypes.World.overlong_rootPath_iff`). A path to the root may be of any length, as
slashes say nothing but are counted.
-/

namespace TwinTypes

open Disk (placeOf)

/-! ### Lengths -/

section Lengths

variable {w : World} {name : String} {n k : Nat}

theorem utf8ByteSize_ofList {cs : List Char} (h : ∀ c ∈ cs, c.utf8Size = 1) :
    (String.ofList cs).utf8ByteSize = cs.length := by
  rw [String.utf8ByteSize_ofList]
  induction cs with
  | nil => rfl
  | cons c rest ih =>
    rw [String.utf8Len_cons, ih fun c hc => h c (List.mem_cons_of_mem _ hc), h c List.mem_cons_self,
      List.length_cons]

/-- **How many digits a number has.** -/
theorem utf8ByteSize_toString_le_iff (hn : 0 < n) :
    (toString k).utf8ByteSize ≤ n ↔ k < 10 ^ n := by
  rw [Nat.toString_eq_ofList_toDigits, utf8ByteSize_ofList,
    Nat.length_toDigits_le_iff (by omega) hn]
  intro c hc
  have hdigit : c.isDigit = true := Nat.isDigit_of_mem_toDigits (by omega) (by omega) hc
  rw [Char.utf8Size_eq_one_iff]
  simp only [Char.isDigit, Bool.and_eq_true, decide_eq_true_eq] at hdigit
  exact UInt32.le_trans hdigit.2 (by decide)

/-- The root, by a path of some length. -/
def rootPath (n : Nat) : String :=
  String.ofList (List.replicate n '/')

theorem bareSteps_rootPath (n : Nat) : Disk.bareSteps (rootPath n) = [] := by
  induction n with
  | zero => exact Path.bareSteps_empty
  | succ n ih =>
    have hsplit : rootPath (n + 1) = rootPath n ++ "/" ++ "" :=
      String.toList_injective (by simp [rootPath, List.replicate_succ'])
    rw [hsplit, Path.bareSteps_append_slash, ih, Path.bareSteps_empty]
    rfl

theorem utf8ByteSize_rootPath (n : Nat) : (rootPath n).utf8ByteSize = n := by
  rw [rootPath, utf8ByteSize_ofList, List.length_replicate]
  intro c hc
  rw [List.eq_of_mem_replicate hc]
  decide

theorem join_rootPath (hn : 0 < n) (hname : Path.IsSegment name) :
    Path.join (rootPath n) name = rootPath n ++ name := by
  have hlast : (rootPath n).toList.getLast? = some '/' := by
    simp [rootPath, List.getLast?_replicate, Nat.ne_of_gt hn]
  simp [Path.join, Path.isAbsolute_of_notMem hname.slash, hlast]

/-- The length of a path to a name in a directory below the root. -/
theorem utf8ByteSize_join_rootPath (hn : 0 < n) {last : String} (hlast : Path.IsSegment last)
    (hname : Path.IsSegment name) :
    (Path.join (Path.join (rootPath n) last) name).utf8ByteSize =
      n + last.utf8ByteSize + 1 + name.utf8ByteSize := by
  rw [Path.join_join _ hlast hname, join_rootPath hn hlast]
  simp only [String.utf8ByteSize_append, utf8ByteSize_rootPath]
  rfl

theorem utf8ByteSize_artifactName (hname : name ∈ artifactNames) : name.utf8ByteSize = 20 := by
  simp only [artifactNames, List.mem_cons, List.not_mem_nil, or_false] at hname
  rcases hname with rfl | rfl | rfl
  · decide
  · decide
  · decide

theorem utf8ByteSize_tempName (hname : name ∈ artifactNames) (w : World) (k : Nat) :
    (w.tempName name k).utf8ByteSize =
      26 + (toString w.process).utf8ByteSize + (toString k).utf8ByteSize := by
  have htmp : ".tmp.".utf8ByteSize = 5 := by decide
  have hdot : ".".utf8ByteSize = 1 := by decide
  simp only [World.tempName, String.utf8ByteSize_append, utf8ByteSize_artifactName hname, htmp,
    hdot]
  omega

/-- **When a number is too long** for a file in a directory below the root. -/
theorem World.overlong_rootPath_iff (hn : 0 < n) (hname : name ∈ artifactNames)
    (pair : MappingPair) :
    w.Overlong (Path.join (rootPath n) pair.dirName) name k ↔
      229 < (toString w.process).utf8ByteSize + (toString k).utf8ByteSize ∨
        4068 < n + pair.dirName.utf8ByteSize + (toString w.process).utf8ByteSize +
          (toString k).utf8ByteSize := by
  have hsegment := isSegment_tempName w (isSegment_of_mem_artifactNames hname) k
  rw [World.Overlong, Disk.Overlong, utf8ByteSize_join_rootPath hn pair.isSegment_dirName hsegment,
    utf8ByteSize_tempName hname, Disk.nameLimit, Disk.pathLimit]
  omega

end Lengths

/-! ### Runs -/

section Run

variable {registry : Registry} {n : Nat} {pairs : List MappingPair}

/-- **On an empty disk** a run can begin below the root, if the files can be named. -/
theorem canBegin_rootPath (hn : 0 < n) (hlimit : n ≤ 4095)
    (hpairs : ∀ p ∈ pairs, '\x00' ∉ p.dirName.toList ∧ p.dirName.utf8ByteSize ≤ 255 ∧
      n + p.dirName.utf8ByteSize + 21 ≤ 4095) :
    (World.start ⟨[]⟩ []).CanBegin (rootPath n) pairs (.start ⟨[]⟩ []) := by
  have htree : (⟨[]⟩ : Disk).IsTree := by decide +kernel
  have hplace : placeOf [] (rootPath n) = [] := by
    rw [placeOf, bareSteps_rootPath, Disk.origin]
    simp
  have hreach : (⟨[]⟩ : Disk).Reaches [] (rootPath n) := by
    refine ⟨by rw [bareSteps_rootPath]; trivial, ?_⟩
    rw [hplace]
    rfl
  have hcheck : Disk.checkPath (rootPath n) = .ok () := by
    have hne : rootPath n ≠ "" := by
      intro hempty
      have hsize := utf8ByteSize_rootPath n
      rw [hempty, String.utf8ByteSize_empty] at hsize
      omega
    refine Disk.checkPath_eq_ok_iff.mpr ⟨by simp [rootPath], hne, ?_⟩
    rw [utf8ByteSize_rootPath]
    exact hlimit
  have hdirs := createDirs_of_isDirectory (w := .start ⟨[]⟩ []) htree
    (htree.isDirectory_iff_reaches.mpr ⟨hcheck, hreach⟩)
  refine ⟨⟨[]⟩, hdirs, htree, rfl, rfl, fun _ => hreach, fun p hp => ?_, fun _ _ _ _ _ => Iff.rfl⟩
  obtain ⟨hnul, hsize, hpath⟩ := hpairs p hp
  have hsegment := p.isSegment_dirName
  have hjoin := join_rootPath hn hsegment
  refine ⟨?_, ?_, ?_, Or.inl ?_, ?_⟩
  · rw [hjoin]
    simp [rootPath, hnul]
  · rw [Disk.Overlong, hjoin, String.utf8ByteSize_append, utf8ByteSize_rootPath, Disk.nameLimit,
      Disk.pathLimit]
    omega
  · intro name hname
    have hname' := isSegment_of_mem_artifactNames hname
    rw [Disk.Overlong, utf8ByteSize_join_rootPath hn hsegment hname',
      utf8ByteSize_artifactName hname, Disk.nameLimit, Disk.pathLimit]
    omega
  · simp [pairPlace, Disk.get?]
  · intro name _
    simp [pairPlace, Disk.get?]

theorem utf8ByteSize_process : (toString (World.start ⟨[]⟩ []).process).utf8ByteSize = 4 := by
  decide

theorem not_taken_start (dir name : String) (k : Nat) :
    ¬(World.start ⟨[]⟩ []).Taken dir name k := by
  simp [World.Taken, World.start, Disk.get?]

theorem length_flatMap_filesFor (out : String) (pairs : List MappingPair) :
    (pairs.flatMap (filesFor out)).length = 3 * pairs.length := by
  induction pairs with
  | nil => rfl
  | cons pair rest ih =>
    rw [List.flatMap_cons, List.length_append, ih, List.length_cons, Nat.mul_succ, Nat.add_comm]
    rfl

/-- **A run through pairs with short names** succeeds on an empty disk, in any order. -/
theorem exists_generate_rootPath_ok (hn : 0 < n) (hlimit : n ≤ 4000)
    (hpairs : ∀ p ∈ pairs, '\x00' ∉ p.dirName.toList ∧ p.dirName.utf8ByteSize ≤ 255 ∧
      n + p.dirName.utf8ByteSize ≤ 4000) (hcount : 3 * pairs.length ≤ 10 ^ 40) :
    ∃ summary w', (generate registry pairs (rootPath n) announce).run.run (.start ⟨[]⟩ []) =
      (.ok summary, w') := by
  have hbegin : (World.start ⟨[]⟩ []).CanBegin (rootPath n) pairs (.start ⟨[]⟩ []) := by
    refine canBegin_rootPath hn (by omega) fun p hp => ?_
    obtain ⟨hnul, hsize, hpath⟩ := hpairs p hp
    exact ⟨hnul, hsize, by omega⟩
  refine (hbegin.ok_iff_draws (List.Subset.refl pairs)).mpr ⟨_, World.draws_of_not_taken
    (fun f _ k => not_taken_start f.1 f.2 k) fun f hf k hk => ?_⟩
  obtain ⟨p, hp, hf⟩ := List.mem_flatMap.mp hf
  obtain ⟨name, hname, rfl⟩ := List.mem_map.mp hf
  rw [length_flatMap_filesFor] at hk
  have hdigits := (@utf8ByteSize_toString_le_iff 40 k (by omega)).mpr
    (Nat.lt_of_lt_of_le (by simpa [World.start] using hk) hcount)
  obtain ⟨-, -, hpath⟩ := hpairs p hp
  rw [World.overlong_rootPath_iff hn hname, utf8ByteSize_process]
  omega

end Run

end TwinTypes
