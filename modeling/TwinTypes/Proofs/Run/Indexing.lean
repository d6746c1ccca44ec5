import Mathlib.Data.String.Basic
import TwinTypes.Proofs.Run.Effect
import TwinTypes.Run.Index

/-!
# What indexing does

An index is read off the disk: `buildIndex_run` says which entries are found, as a function of the
disk (`TwinTypes.entriesAt`), and that nothing but the log changes. The rest is about lists. An
index has no two entries of the same names and is in strictly increasing order of them
(`indexOf_sorted`), and it has every entry found but those whose names were found before
(`mem_indexOf_iff`).
-/

namespace TwinTypes

/-! ### The order of an index -/

/-- **Before** in the order of an index: by the Kotlin names, and then by the Java names. -/
def MappingPair.Before (p q : MappingPair) : Prop :=
  p.kotlin < q.kotlin ∨ p.kotlin = q.kotlin ∧ p.java < q.java

theorem MappingPair.Before.trans {p q r : MappingPair} (h : p.Before q) (h' : q.Before r) :
    p.Before r := by
  rcases h with hlt | ⟨heq, hlt⟩
  · rcases h' with hlt' | ⟨heq', -⟩
    · exact Or.inl (lt_trans hlt hlt')
    · exact Or.inl (heq' ▸ hlt)
  · rcases h' with hlt' | ⟨heq', hlt'⟩
    · exact Or.inl (heq ▸ hlt')
    · exact Or.inr ⟨heq.trans heq', lt_trans hlt hlt'⟩

theorem MappingPair.before_or_eq_or_before (p q : MappingPair) :
    p.Before q ∨ p = q ∨ q.Before p := by
  rcases lt_trichotomy p.kotlin q.kotlin with hlt | heq | hlt
  · exact Or.inl (Or.inl hlt)
  · rcases lt_trichotomy p.java q.java with hlt' | heq' | hlt'
    · exact Or.inl (Or.inr ⟨heq, hlt'⟩)
    · cases p
      cases q
      exact Or.inr (Or.inl (by simp_all))
    · exact Or.inr (Or.inr (Or.inr ⟨heq.symm, hlt'⟩))
  · exact Or.inr (Or.inr (Or.inl hlt))

namespace IndexEntry

theorem precedes_iff {a b : IndexEntry} :
    a.precedes b = true ↔ a.pair.Before b.pair ∨ a.pair = b.pair := by
  simp only [precedes, MappingPair.Before, pair, Bool.or_eq_true, decide_eq_true_eq,
    Bool.and_eq_true, beq_iff_eq, Bool.not_eq_true', decide_eq_false_iff_not, not_lt,
    MappingPair.mk.injEq, le_iff_lt_or_eq]
  tauto

theorem precedes_trans (a b c : IndexEntry) (h : a.precedes b = true) (h' : b.precedes c = true) :
    a.precedes c = true := by
  rw [precedes_iff] at h h' ⊢
  rcases h with h | h
  · rcases h' with h' | h'
    · exact Or.inl (h.trans h')
    · exact Or.inl (h' ▸ h)
  · rw [h]
    exact h'

theorem precedes_total (a b : IndexEntry) : (a.precedes b || b.precedes a) = true := by
  rw [Bool.or_eq_true, precedes_iff, precedes_iff]
  rcases a.pair.before_or_eq_or_before b.pair with h | h | h
  · exact Or.inl (Or.inl h)
  · exact Or.inl (Or.inr h)
  · exact Or.inr (Or.inl h)

end IndexEntry

/-! ### Repeats -/

/-- An entry is found, and none of the same names before it. -/
def IndexEntry.FirstIn (e : IndexEntry) (found : List IndexEntry) : Prop :=
  ∃ before after, found = before ++ e :: after ∧ ∀ b ∈ before, b.pair ≠ e.pair

/-- The first entry of its names is the one at the front, or is further on and has other names. -/
theorem IndexEntry.firstIn_cons_iff {a e : IndexEntry} {rest : List IndexEntry} :
    e.FirstIn (a :: rest) ↔ a = e ∨ a.pair ≠ e.pair ∧ e.FirstIn rest := by
  constructor
  · rintro ⟨_ | ⟨b, before⟩, after, heq, hbefore⟩
    · exact Or.inl (List.cons.inj heq).1
    · obtain ⟨rfl, hrest⟩ := List.cons.inj heq
      exact Or.inr ⟨hbefore a (by simp), before, after, hrest,
        fun c hc => hbefore c (List.mem_cons_of_mem _ hc)⟩
  · rintro (rfl | ⟨hne, before, after, rfl, hbefore⟩)
    · exact ⟨[], rest, rfl, by simp⟩
    · refine ⟨a :: before, after, rfl, fun c hc => ?_⟩
      rcases List.mem_cons.mp hc with rfl | hc
      · exact hne
      · exact hbefore c hc

theorem IndexEntry.FirstIn.mem {e : IndexEntry} {found : List IndexEntry} (h : e.FirstIn found) :
    e ∈ found := by
  obtain ⟨before, after, rfl, -⟩ := h
  simp

/-- **The entries that are kept** are those whose names were neither seen nor found before. -/
theorem mem_dropRepeats_iff {e : IndexEntry} {seen : List MappingPair} {found : List IndexEntry} :
    e ∈ dropRepeats seen found ↔ e.pair ∉ seen ∧ e.FirstIn found := by
  -- the names seen grow along the list, so the induction is for all of them
  induction found generalizing seen with
  | nil => simp [dropRepeats, IndexEntry.FirstIn]
  | cons a rest ih =>
    rw [dropRepeats, IndexEntry.firstIn_cons_iff]
    split
    · rename_i hseen
      have hmem : a.pair ∈ seen := by simpa using hseen
      rw [ih]
      constructor
      · rintro ⟨hnot, hrest⟩
        exact ⟨hnot, Or.inr ⟨fun heq => hnot (heq ▸ hmem), hrest⟩⟩
      · rintro ⟨hnot, rfl | ⟨-, hrest⟩⟩
        · exact absurd hmem hnot
        · exact ⟨hnot, hrest⟩
    · rename_i hseen
      have hmem : a.pair ∉ seen := by simpa using hseen
      rw [List.mem_cons, ih]
      constructor
      · rintro (rfl | ⟨hnot, hrest⟩)
        · exact ⟨hmem, Or.inl rfl⟩
        · rw [List.mem_cons, not_or] at hnot
          exact ⟨hnot.2, Or.inr ⟨Ne.symm hnot.1, hrest⟩⟩
      · rintro ⟨hnot, rfl | ⟨hne, hrest⟩⟩
        · exact Or.inl rfl
        · exact Or.inr ⟨by simp [hnot, Ne.symm hne], hrest⟩

theorem pairwise_dropRepeats (seen : List MappingPair) (found : List IndexEntry) :
    (dropRepeats seen found).Pairwise fun a b => a.pair ≠ b.pair := by
  induction found generalizing seen with
  | nil => exact List.Pairwise.nil
  | cons a rest ih =>
    rw [dropRepeats]
    split
    · exact ih seen
    · refine List.pairwise_cons.mpr ⟨fun b hb heq => ?_, ih _⟩
      exact (mem_dropRepeats_iff.mp hb).1 (by simp [heq])

/-- **An index is in strictly increasing order**, so it has no two entries of the same names. -/
theorem indexOf_sorted (found : List IndexEntry) :
    (indexOf found).entries.Pairwise fun a b => a.pair.Before b.pair := by
  have hordered : ((dropRepeats [] found).mergeSort IndexEntry.precedes).Pairwise
      fun a b => a.precedes b = true :=
    List.pairwise_mergeSort IndexEntry.precedes_trans IndexEntry.precedes_total _
  have hdistinct : ((dropRepeats [] found).mergeSort IndexEntry.precedes).Pairwise
      fun a b => a.pair ≠ b.pair :=
    (List.mergeSort_perm _ _).symm.pairwise (pairwise_dropRepeats [] found) Ne.symm
  -- sorting leaves ties in place, but there are none
  refine (hordered.and hdistinct).imp fun h => ?_
  exact (IndexEntry.precedes_iff.mp h.1).resolve_right h.2

/-- **What an index has**: the first entry found of each two names. -/
theorem mem_indexOf_iff {e : IndexEntry} {found : List IndexEntry} :
    e ∈ (indexOf found).entries ↔ e.FirstIn found := by
  simp [indexOf, mem_dropRepeats_iff]

/-! ### Reading -/

/-- What the stub in a file declares, as it stands on the disk. -/
def stubAt (d : Disk) (cwd : Location) (path : String) : Option TypeInfo :=
  match d.readFile cwd path with
  | .ok bytes => (String.fromUTF8? bytes).bind readTypeInfo
  | .error _ => none

/-- The entry of a directory, as it stands on the disk. -/
def entryAt (d : Disk) (cwd : Location) (dir : String) : Option IndexEntry :=
  (stubAt d cwd (Path.join dir kotlinFile)).bind fun kotlin =>
    (stubAt d cwd (Path.join dir javaFile)).map fun java => ⟨kotlin, java⟩

/-- The entries of the directories among some names, as they stand on the disk. -/
def entriesAt (d : Disk) (cwd : Location) (root : String) (names : List (String × Bool)) :
    List IndexEntry :=
  names.flatMap fun name => if name.2 then (entryAt d cwd (Path.join root name.1)).toList else []

variable {w : World}

theorem readText_run (path : String) (w : World) :
    (readText path).run.run w =
      (match w.disk.readFile w.cwd path with
      | .ok bytes => match String.fromUTF8? bytes with
        | some text => .ok text
        | none => .error .notText
      | .error e => .error e, w) := by
  unfold readText
  rw [ExceptT.run_mk, Program.run_bind, Program.run_request, World.answer]
  cases w.disk.readFile w.cwd path with
  | error e => rfl
  | ok bytes =>
    dsimp only
    cases String.fromUTF8? bytes <;> rfl

theorem readStub_run (path : String) (w : World) :
    ((readStub path).run w).1 = stubAt w.disk w.cwd path ∧ w.Logs ((readStub path).run w).2 := by
  unfold readStub stubAt
  rw [Program.run_bind, readText_run]
  cases w.disk.readFile w.cwd path with
  | error e =>
    dsimp only
    split
    · rename_i heq
      cases heq
    · exact ⟨rfl, rfl, rfl, rfl⟩
    · exact ⟨rfl, rfl, rfl, rfl⟩
  | ok bytes =>
    dsimp only
    cases String.fromUTF8? bytes with
    | none => exact ⟨rfl, rfl, rfl, rfl⟩
    | some text => exact ⟨rfl, rfl, rfl, rfl⟩

theorem readEntry_run (dir : String) (w : World) :
    ((readEntry dir).run w).1 = entryAt w.disk w.cwd dir ∧ w.Logs ((readEntry dir).run w).2 := by
  obtain ⟨hkotlin, hlog⟩ := readStub_run (Path.join dir kotlinFile) w
  obtain ⟨hjava, hlog'⟩ := readStub_run (Path.join dir javaFile)
    ((readStub (Path.join dir kotlinFile)).run w).2
  rw [hlog.disk, hlog.cwd] at hjava
  have hlogs := hlog.trans hlog'
  unfold readEntry entryAt
  rw [Program.run_bind, Program.run_bind, hkotlin, hjava]
  generalize ((readStub (Path.join dir javaFile)).run
    ((readStub (Path.join dir kotlinFile)).run w).2).2 = w' at hlogs
  cases stubAt w.disk w.cwd (Path.join dir kotlinFile) with
  | none => exact ⟨rfl, hlogs.trans (logs_report _ w')⟩
  | some kotlin =>
    cases stubAt w.disk w.cwd (Path.join dir javaFile) with
    | none => exact ⟨rfl, hlogs.trans (logs_report _ w')⟩
    | some java => exact ⟨rfl, hlogs⟩

theorem readEntries_run (root : String) (names : List (String × Bool)) (w : World) :
    ((readEntries root names).run w).1 = entriesAt w.disk w.cwd root names ∧
      w.Logs ((readEntries root names).run w).2 := by
  induction names generalizing w with
  | nil => exact ⟨rfl, rfl, rfl, rfl⟩
  | cons name rest ih =>
    obtain ⟨name, isDir⟩ := name
    cases isDir with
    | false => exact ih w
    | true =>
      obtain ⟨hentry, hlog⟩ := readEntry_run (Path.join root name) w
      obtain ⟨hentries, hlog'⟩ := ih ((readEntry (Path.join root name)).run w).2
      rw [hlog.disk, hlog.cwd] at hentries
      rw [readEntries, if_pos rfl, Program.run_bind, Program.run_bind, hentry, hentries]
      exact ⟨rfl, hlog.trans hlog'⟩

/-- **Indexing a directory**: the entries are those of its directories, as they stand on the disk.
It fails only if the directory cannot be listed, and changes nothing but the log. -/
theorem buildIndex_run (root : String) (w : World) :
    (((buildIndex root).run.run w).1 = match w.disk.list w.cwd root with
      | .ok names => .ok (indexOf (entriesAt w.disk w.cwd root names))
      | .error e => .error (.scan root e)) ∧ w.Logs ((buildIndex root).run.run w).2 := by
  have hlist : (Attempt.ofProgram (Program.request (.list root)) :
      Attempt DiskError (List (String × Bool))).run.run w = (w.disk.list w.cwd root, w) := rfl
  unfold buildIndex
  cases hnames : w.disk.list w.cwd root with
  | error e =>
    rw [hnames] at hlist
    rw [Attempt.run_bind_error (Attempt.run_orFail_error hlist)]
    exact ⟨rfl, rfl, rfl, rfl⟩
  | ok names =>
    rw [hnames] at hlist
    obtain ⟨hentries, hlog⟩ := readEntries_run root names w
    rw [Attempt.run_bind_ok (Attempt.run_orFail_ok hlist), Attempt.run_always_bind, hentries]
    exact ⟨rfl, hlog⟩

end TwinTypes
