import TwinTypes.Proofs.Run.RoundTrip

/-!
# Names in an index that nobody asked for

What is indexed after a run is what the stubs declare, and a stub may declare another name than the
one it was made for: a name that goes on with a dollar sign is cut there
(`TwinTypes.readTypeInfo_stub_cut`), so a nested type comes back as the type around it. A pair both
of whose stubs declare something is then indexed, under names that may not be those of any pair of
the list.

`buildIndex_generate_names_iff` says for which lists this happens, whatever the names in them are. A
pair matters only if it keeps its directory (`TwinTypes.MappingPair.LastIn`), as the stubs of the
others are gone; and it does no harm if the names that its stubs declare
(`TwinTypes.Registry.readBack`) are those of some pair of the list.
-/

namespace TwinTypes

open Disk (placeOf)
open Text (isWord)

/-- Of the entries found with the same names one is the first. -/
theorem IndexEntry.exists_firstIn {e : IndexEntry} {found : List IndexEntry} (h : e ∈ found) :
    ∃ first : IndexEntry, first.FirstIn found ∧ first.pair = e.pair := by
  induction found with
  | nil => cases h
  | cons a rest ih =>
    by_cases ha : a.pair = e.pair
    · exact ⟨a, IndexEntry.firstIn_cons_iff.mpr (Or.inl rfl), ha⟩
    · have hmem : e ∈ rest := by
        rcases List.mem_cons.mp h with rfl | hmem
        · exact absurd rfl ha
        · exact hmem
      obtain ⟨first, hfirst, hpair⟩ := ih hmem
      have hne : a.pair ≠ first.pair := fun heq => ha (heq.trans hpair)
      exact ⟨first, IndexEntry.firstIn_cons_iff.mpr (Or.inr ⟨hne, hfirst⟩), hpair⟩

/-- **The names in an index** are those that are found. -/
theorem forall_mem_indexOf_iff {found : List IndexEntry} {asked : MappingPair → Prop} :
    (∀ e ∈ (indexOf found).entries, asked e.pair) ↔ ∀ e ∈ found, asked e.pair := by
  constructor
  · intro h e he
    obtain ⟨first, hfirst, hpair⟩ := IndexEntry.exists_firstIn he
    exact hpair ▸ h first (mem_indexOf_iff.mpr hfirst)
  · exact fun h e he => h e (mem_indexOf_iff.mp he).mem

variable {registry : Registry} {pairs : List MappingPair} {out : String} {w w' : World}
  {summary : Summary}

/-- **A pair whose Java name is cut** comes back under the name that is left of it. -/
theorem Registry.readBack_of_cut {kotlin outer : String} {c : Char} {rest : List Char}
    (hkotlin : WellFormedName kotlin) (houter : WellFormedName outer) (hc : isWord c = false)
    (hdot : '.' ∉ c :: rest) :
    registry.readBack ⟨kotlin, outer ++ String.ofList (c :: rest)⟩ =
      some ⟨⟨(registry.lookup kotlin).kind, kotlin⟩,
        ⟨(registry.lookup (outer ++ String.ofList (c :: rest))).kind, outer⟩⟩ := by
  rw [readBack, renderPair, readTypeInfo_kotlinStub hkotlin,
    (readTypeInfo_stub_cut houter hc hdot _).1]
  rfl

/-- **The index of an output** has the entries that the stubs of the pairs declare, the directory of
each pair being left to the last pair of its name. -/
theorem Output.buildIndex_run (h : Output registry pairs out w w')
    (hdir : w'.disk.isDirectory w'.cwd out = true) :
    ∃ found, ((buildIndex out).run.run w').1 = .ok (indexOf found) ∧
      ∀ e, e ∈ found ↔ ∃ pair, pair.LastIn pairs ∧ registry.readBack pair = some e := by
  obtain ⟨hindex, -⟩ := TwinTypes.buildIndex_run out w'
  rw [h.tree.list_of_isDirectory hdir] at hindex
  exact ⟨_, hindex, h.mem_entriesAt_iff⟩

/-- **An index names only what was asked for exactly if** no pair that keeps its directory has stubs
that declare the names of no pair of the list. The path of the output directory must not be empty:
then there is an index. -/
theorem buildIndex_generate_names_iff (h : w.disk.IsTree)
    (hempty : ∀ name, w.disk.get? (placeOf w.cwd out ++ [name]) = none)
    (hrun : (generate registry pairs out announce).run.run w = (.ok summary, w')) :
    (out ≠ "" → ∃ index, ((buildIndex out).run.run w').1 = .ok index) ∧
      ((∀ index, ((buildIndex out).run.run w').1 = .ok index →
          ∀ e ∈ index.entries, e.pair ∈ pairs) ↔
        (out ≠ "" → ∀ pair, pair.LastIn pairs → ∀ e, registry.readBack pair = some e →
          e.pair ∈ pairs)) := by
  obtain ⟨-, hleaves⟩ := of_generate_ok observes_announce h hrun
  have houtput := output_of_leaves h hempty hleaves
  by_cases hne : out = ""
  · subst hne
    have hnone : ((buildIndex "").run.run w').1 = .error (.scan "" .notFound) := by
      rw [(TwinTypes.buildIndex_run "" w').1, Disk.list_empty]
    rw [hnone]
    simp
  · obtain ⟨found, hindex, hfound⟩ :=
      houtput.buildIndex_run (isDirectory_of_generate_ok observes_announce h hne hrun)
    rw [hindex]
    refine ⟨fun _ => ⟨_, rfl⟩, ?_⟩
    have hnames : (∀ index, (.ok (indexOf found) : Except GenError MappingIndex) = .ok index →
        ∀ e ∈ index.entries, e.pair ∈ pairs) ↔ ∀ e ∈ found, e.pair ∈ pairs := by
      rw [← forall_mem_indexOf_iff]
      exact ⟨fun hall => hall _ rfl, fun hall index heq => by cases heq; exact hall⟩
    rw [hnames]
    constructor
    · exact fun hall _ pair hlast e he => hall e ((hfound e).mpr ⟨pair, hlast, he⟩)
    · intro hall e he
      obtain ⟨pair, hlast, hback⟩ := (hfound e).mp he
      exact hall hne pair hlast e hback

/-- A nested type whose stub declares the type around it, which is asked for as well. -/
theorem buildIndex_generate_names_iff_outer : ∃ summary w' index,
    (generate .empty [⟨"K", "Map$Entry"⟩, ⟨"K", "Map"⟩] "out" announce).run.run
        (.start ⟨[(["work"], .directory)]⟩ ["work"]) = (.ok summary, w') ∧
      ((buildIndex "out").run.run w').1 = .ok index ∧
      ∀ e ∈ index.entries, e.pair ∈
        [(⟨"K", "Map$Entry"⟩ : MappingPair), ⟨"K", "Map"⟩] := by
  have htree : (⟨[(["work"], .directory)]⟩ : Disk).IsTree := by decide +kernel
  have hplace : placeOf ["work"] "out" = ["work", "out"] := by decide +kernel
  have hok : ((generate .empty [⟨"K", "Map$Entry"⟩, ⟨"K", "Map"⟩] "out"
      announce).run.run (.start ⟨[(["work"], .directory)]⟩ ["work"])).1.isOk = true := by
    decide +kernel
  have hback : ∀ pair ∈ [(⟨"K", "Map$Entry"⟩ : MappingPair), ⟨"K", "Map"⟩],
      Registry.readBack .empty pair =
        some ⟨⟨.classKind, "K"⟩, ⟨.classKind, "Map"⟩⟩ := by decide +kernel
  obtain ⟨summary, w', hrun⟩ := exists_of_isOk hok
  obtain ⟨hexists, hiff⟩ := buildIndex_generate_names_iff (w := .start _ ["work"]) htree
    (fun name => by
      change Disk.get? _ (placeOf ["work"] "out" ++ [name]) = none
      rw [hplace]
      rfl) hrun
  obtain ⟨index, hindex⟩ := hexists (by decide)
  refine ⟨summary, w', index, hrun, hindex, hiff.mpr (fun _ pair hlast e he => ?_) index hindex⟩
  rw [hback pair hlast.mem] at he
  cases he
  simp [IndexEntry.pair]

/-- **A nested type is indexed as the type around it**, which was not asked for. -/
theorem buildIndex_generate_renames : ∃ summary w' index,
    (⟨[(["work"], .directory)]⟩ : Disk).IsTree ∧
      (∀ name, (⟨[(["work"], .directory)]⟩ : Disk).get?
        (placeOf ["work"] "out" ++ [name]) = none) ∧
      (generate .empty [⟨"K", "Map$Entry"⟩] "out" announce).run.run
        (.start ⟨[(["work"], .directory)]⟩ ["work"]) = (.ok summary, w') ∧
      ((buildIndex "out").run.run w').1 = .ok index ∧
      ∃ e ∈ index.entries, e.pair = ⟨"K", "Map"⟩ ∧
        e.pair ∉ [(⟨"K", "Map$Entry"⟩ : MappingPair)] := by
  have htree : (⟨[(["work"], .directory)]⟩ : Disk).IsTree := by decide +kernel
  have hplace : placeOf ["work"] "out" = ["work", "out"] := by decide +kernel
  have hempty : ∀ name, (⟨[(["work"], .directory)]⟩ : Disk).get?
      (placeOf ["work"] "out" ++ [name]) = none := fun name => by
    rw [hplace]
    rfl
  have hok : ((generate .empty [⟨"K", "Map$Entry"⟩] "out" announce).run.run
      (.start ⟨[(["work"], .directory)]⟩ ["work"])).1.isOk = true := by decide +kernel
  obtain ⟨summary, w', hrun⟩ := exists_of_isOk hok
  obtain ⟨-, hleaves⟩ := of_generate_ok observes_announce htree hrun
  have houtput := output_of_leaves (w := .start _ ["work"]) htree hempty hleaves
  obtain ⟨found, hindex, hfound⟩ := houtput.buildIndex_run
    (isDirectory_of_generate_ok observes_announce htree (by decide) hrun)
  have hback := @Registry.readBack_of_cut .empty _ _ _ _
    (Or.inl (isRun_singleton 'K' (by decide)))
    (Or.inl ⟨by decide, List.all_eq_true.mp (by decide +kernel)⟩ : WellFormedName "Map")
    (by decide : isWord '$' = false) (by decide +kernel : '.' ∉ '$' :: "Entry".toList)
  have hname : "Map" ++ String.ofList ('$' :: "Entry".toList) = "Map$Entry" := by decide
  rw [hname] at hback
  obtain ⟨first, hfirst, hpair⟩ := IndexEntry.exists_firstIn
    ((hfound _).mpr ⟨_, ⟨[], [], rfl, by simp⟩, hback⟩)
  refine ⟨summary, w', _, htree, hempty, hrun, hindex, first, mem_indexOf_iff.mpr hfirst, hpair, ?_⟩
  rw [hpair]
  simp [IndexEntry.pair]

end TwinTypes
