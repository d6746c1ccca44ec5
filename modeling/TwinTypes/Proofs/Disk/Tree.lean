import Mathlib.Data.List.Lex
import Mathlib.Data.String.Basic
import TwinTypes.Disk.Operation

/-!
# Disks that are trees

A disk is a table of locations, and not every table is a file system. `TwinTypes.Disk.IsTree` says
which ones are, if there are no links: the table is in order, everything on it is in a directory
that is there, under a name that a path can spell.

The file operations change such a disk in three ways only – they put something at a place in a
directory (`IsTree.put`), take away what is no directory (`IsTree.erase`), or leave it – and each
leaves a tree. Everything else in this development looks at a disk through `TwinTypes.Disk.get?`,
for which the two changes are point updates (`get?_put`, `get?_erase`).
-/

namespace TwinTypes

/-- Whether an entry is a link. -/
def Entry.isLink : Entry → Bool
  | link _ => true
  | _ => false

namespace Disk

/-! ### Looking up -/

@[simp] theorem get?_root (d : Disk) : d.get? [] = some .directory := rfl

theorem get?_eq_find? (d : Disk) {loc : Location} (h : loc ≠ []) :
    d.get? loc = (d.entries.find? fun e => e.1 == loc).map Prod.snd := by
  rw [get?, if_neg (by simpa using h)]

theorem find?_insertEntry_self (loc : Location) (entry : Entry) (l : List (Location × Entry)) :
    ((insertEntry loc entry l).find? fun e => e.1 == loc) = some (loc, entry) := by
  induction l with
  | nil => simp [insertEntry]
  | cons e rest ih =>
    rw [insertEntry]
    split
    · simp
    · split
      · simp
      · rename_i hne
        have hbeq : (e.1 == loc) = false := by simpa using Ne.symm hne
        rw [List.find?_cons, hbeq]
        exact ih

theorem find?_insertEntry_ne {loc other : Location} (h : other ≠ loc) (entry : Entry)
    (l : List (Location × Entry)) :
    ((insertEntry loc entry l).find? fun e => e.1 == other) = l.find? fun e => e.1 == other := by
  have hbeq : (loc == other) = false := by simpa using Ne.symm h
  induction l with
  | nil => simp [insertEntry, hbeq]
  | cons e rest ih =>
    rw [insertEntry]
    split
    · rw [List.find?_cons, hbeq]
    · split
      · rename_i heq
        rw [List.find?_cons, List.find?_cons, ← heq, hbeq]
      · rw [List.find?_cons, List.find?_cons, ih]

/-- **What is put at a location is there**, and nothing changes elsewhere. -/
theorem get?_put (d : Disk) {loc : Location} (hne : loc ≠ []) (entry : Entry) (other : Location) :
    (d.put loc entry).get? other = if other = loc then some entry else d.get? other := by
  by_cases hother : other = []
  · rw [hother, if_neg (Ne.symm hne)]
    rfl
  · rw [get?_eq_find? _ hother, get?_eq_find? _ hother, put]
    split
    · rename_i heq
      rw [heq, find?_insertEntry_self]
      rfl
    · rename_i hne'
      rw [find?_insertEntry_ne hne']

/-- **What is erased is gone**, and nothing changes elsewhere. -/
theorem get?_erase (d : Disk) {loc : Location} (hne : loc ≠ []) (other : Location) :
    (d.erase loc).get? other = if other = loc then none else d.get? other := by
  by_cases hother : other = []
  · rw [hother, if_neg (Ne.symm hne)]
    rfl
  · rw [get?_eq_find? _ hother, get?_eq_find? _ hother, erase, List.find?_filter]
    by_cases h : other = loc
    · simp [h]
    · have hsame : (fun e : Location × Entry =>
          decide ((e.1 != loc) = true ∧ (e.1 == other) = true)) = fun e => e.1 == other := by
        funext e
        by_cases he : e.1 = other <;> simp [he, h]
      rw [hsame, if_neg h]

/-! ### Trees -/

/-- A name that can stand between the slashes of a path, and means nothing but itself. -/
def isName (name : String) : Bool :=
  name != "" && name != "." && name != ".." && !name.toList.contains '/'
    && !name.toList.contains '\x00' && decide (name.utf8ByteSize ≤ nameLimit)

/-- **A place in a directory that is there**: something can stand at it. -/
def IsPlace (d : Disk) (loc : Location) : Prop :=
  loc ≠ [] ∧ (∀ name ∈ loc.getLast?, isName name = true) ∧ d.get? loc.dropLast = some .directory

instance (d : Disk) (loc : Location) : Decidable (d.IsPlace loc) :=
  inferInstanceAs (Decidable (_ ∧ _ ∧ _))

/-- **A file system of directories and files**: everything is in a directory, and nothing is a
link. -/
structure IsTree (d : Disk) : Prop where
  /-- The table is in order, with one entry for a location. -/
  ordered : d.entries.Pairwise fun a b => a.1 < b.1
  /-- Everything is in a directory. -/
  placed : ∀ e ∈ d.entries, d.IsPlace e.1
  /-- Nothing is a link. -/
  linkless : ∀ e ∈ d.entries, e.2.isLink = false

instance (d : Disk) : Decidable d.IsTree :=
  decidable_of_iff
    ((d.entries.Pairwise fun a b => a.1 < b.1) ∧ (∀ e ∈ d.entries, d.IsPlace e.1) ∧
      ∀ e ∈ d.entries, e.2.isLink = false)
    ⟨fun ⟨o, p, l⟩ => ⟨o, p, l⟩, fun ⟨o, p, l⟩ => ⟨o, p, l⟩⟩

theorem isPlace_append {d : Disk} {dir : Location} {name : String} :
    d.IsPlace (dir ++ [name]) ↔ isName name = true ∧ d.get? dir = some .directory := by
  simp [IsPlace]

theorem mem_of_get? {d : Disk} {loc : Location} {entry : Entry} (hne : loc ≠ [])
    (h : d.get? loc = some entry) : (loc, entry) ∈ d.entries := by
  rw [get?_eq_find? d hne] at h
  obtain ⟨e, he, rfl⟩ := Option.map_eq_some_iff.mp h
  have hloc : e.1 = loc := by simpa using List.find?_some he
  rw [← hloc]
  exact List.mem_of_find?_eq_some he

namespace IsTree

variable {d : Disk}

/-- In a table in order a location is found wherever it stands. -/
theorem get?_of_mem (h : d.IsTree) {e : Location × Entry} (he : e ∈ d.entries) :
    d.get? e.1 = some e.2 := by
  have hnodup : d.entries.Pairwise fun a b => a.1 ≠ b.1 := h.ordered.imp ne_of_lt
  rw [get?_eq_find? d (h.placed e he).1, List.find?_eq_some_iff_append.mpr]
  · rfl
  · obtain ⟨before, after, hsplit⟩ := List.append_of_mem he
    refine ⟨by simp, before, after, hsplit, fun a ha => ?_⟩
    rw [hsplit] at hnodup
    have hne := (List.pairwise_append.mp hnodup).2.2 a ha e List.mem_cons_self
    simpa using hne

theorem isPlace (h : d.IsTree) {loc : Location} {entry : Entry} (hne : loc ≠ [])
    (he : d.get? loc = some entry) : d.IsPlace loc :=
  h.placed _ (mem_of_get? hne he)

theorem get?_ne_link (h : d.IsTree) (loc : Location) (target : String) :
    d.get? loc ≠ some (.link target) := by
  intro he
  by_cases hne : loc = []
  · rw [hne] at he
    cases he
  · cases h.linkless _ (mem_of_get? hne he)

/-- What is not at the root is in a directory. -/
theorem get?_dropLast (h : d.IsTree) {loc : Location} {entry : Entry}
    (he : d.get? loc = some entry) : d.get? loc.dropLast = some .directory := by
  by_cases hne : loc = []
  · rw [hne]
    rfl
  · exact (h.isPlace hne he).2.2

theorem get?_parent (h : d.IsTree) {dir : Location} {name : String} {entry : Entry}
    (he : d.get? (dir ++ [name]) = some entry) :
    isName name = true ∧ d.get? dir = some .directory :=
  isPlace_append.mp (h.isPlace (by simp) he)

end IsTree

theorem childName_eq_some_iff {dir loc : Location} {name : String} :
    childName dir loc = some name ↔ loc = dir ++ [name] := by
  unfold childName
  constructor
  · intro h
    split at h
    · rename_i hinit
      obtain ⟨rest, rfl⟩ := List.isPrefixOf_iff_prefix.mp hinit
      rw [List.drop_left] at h
      split at h
      · rw [Option.some.inj h]
      · cases h
    · cases h
  · rintro rfl
    have hinit : dir.isPrefixOf (dir ++ [name]) = true :=
      List.isPrefixOf_iff_prefix.mpr (List.prefix_append dir [name])
    rw [if_pos hinit, List.drop_left]

/-- **What a directory holds** is what stands under a name in it. -/
theorem IsTree.mem_names_iff {d : Disk} (h : d.IsTree) {dir : Location} {name : String}
    {isDir : Bool} : (name, isDir) ∈ d.names dir ↔
      ∃ entry, d.get? (dir ++ [name]) = some entry ∧ isDir = decide (entry = .directory) := by
  unfold names children
  rw [List.mem_map]
  constructor
  · rintro ⟨child, hchild, hpair⟩
    obtain ⟨e, he, hmap⟩ := List.mem_filterMap.mp hchild
    obtain ⟨other, hother, rfl⟩ := Option.map_eq_some_iff.mp hmap
    cases hpair
    refine ⟨e.2, ?_, rfl⟩
    rw [← childName_eq_some_iff.mp hother]
    exact h.get?_of_mem he
  · rintro ⟨entry, hget, rfl⟩
    refine ⟨(name, entry), List.mem_filterMap.mpr ⟨(dir ++ [name], entry), ?_, ?_⟩, rfl⟩
    · exact mem_of_get? (by simp) hget
    · rw [childName_eq_some_iff.mpr rfl]
      rfl

/-! ### Changes that leave a tree -/

theorem mem_insertEntry {loc : Location} {entry : Entry} {e : Location × Entry}
    {l : List (Location × Entry)} (h : e ∈ insertEntry loc entry l) : e = (loc, entry) ∨ e ∈ l := by
  induction l with
  | nil => simpa [insertEntry] using h
  | cons a rest ih =>
    rw [insertEntry] at h
    split at h
    · simpa using h
    · split at h
      · rcases List.mem_cons.mp h with h | h
        · exact Or.inl h
        · exact Or.inr (List.mem_cons_of_mem _ h)
      · rcases List.mem_cons.mp h with h | h
        · exact Or.inr (by simp [h])
        · exact (ih h).imp_right (List.mem_cons_of_mem _)

theorem pairwise_insertEntry (loc : Location) (entry : Entry) {l : List (Location × Entry)}
    (h : l.Pairwise fun a b => a.1 < b.1) :
    (insertEntry loc entry l).Pairwise fun a b => a.1 < b.1 := by
  induction l with
  | nil => simp [insertEntry]
  | cons a rest ih =>
    obtain ⟨ha, hrest⟩ := List.pairwise_cons.mp h
    rw [insertEntry]
    split
    · rename_i hlt
      refine List.pairwise_cons.mpr ⟨fun b hb => ?_, h⟩
      rcases List.mem_cons.mp hb with rfl | hb
      · exact hlt
      · exact lt_trans hlt (ha b hb)
    · rename_i hlt
      split
      · rename_i heq
        exact List.pairwise_cons.mpr ⟨fun b hb => heq ▸ ha b hb, hrest⟩
      · rename_i hne
        refine List.pairwise_cons.mpr ⟨fun b hb => ?_, ih hrest⟩
        rcases mem_insertEntry hb with rfl | hb
        · exact lt_of_le_of_ne (not_lt.mp hlt) (Ne.symm hne)
        · exact ha b hb

/-- **Putting something at a place leaves a tree**, unless it takes the place of a directory, which
only a directory may. -/
theorem IsTree.put {d : Disk} (h : d.IsTree) {loc : Location} {entry : Entry}
    (hplace : d.IsPlace loc) (hlink : entry.isLink = false)
    (hdir : d.get? loc = some .directory → entry = .directory) : (d.put loc entry).IsTree where
  ordered := pairwise_insertEntry loc entry h.ordered
  placed e he := by
    have hold : d.IsPlace e.1 := by
      rcases mem_insertEntry he with rfl | he
      · exact hplace
      · exact h.placed e he
    refine ⟨hold.1, hold.2.1, ?_⟩
    rw [get?_put d hplace.1]
    split
    · rename_i heq
      rw [hdir (heq ▸ hold.2.2)]
    · exact hold.2.2
  linkless e he := by
    rcases mem_insertEntry he with rfl | he
    · exact hlink
    · exact h.linkless e he

/-- **Taking away what is no directory leaves a tree.** -/
theorem IsTree.erase {d : Disk} (h : d.IsTree) {loc : Location} (hne : loc ≠ [])
    (hdir : d.get? loc ≠ some .directory) : (d.erase loc).IsTree where
  ordered := h.ordered.filter _
  placed e he := by
    have hold := h.placed e (List.mem_filter.mp he).1
    refine ⟨hold.1, hold.2.1, ?_⟩
    have hother : e.1.dropLast ≠ loc := fun heq => hdir (by rw [← heq]; exact hold.2.2)
    rw [get?_erase d hne, if_neg hother]
    exact hold.2.2
  linkless e he := h.linkless e (List.mem_filter.mp he).1

end Disk

end TwinTypes
