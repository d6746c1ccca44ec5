import TwinTypes.Config.Logging
import TwinTypes.Proofs.Text.LineEnds

/-!
# The directives of the settings

What is reported is decided by the level of the settings, and after it by the directives of the
environment. The level may be written in several ways, and `TwinTypes.Logging.levelDirectives` turns
each of them into one that filters know. Its image is `TwinTypes.Logging.Settled`: a text without
blanks around it that is a list of directives, or else is in small letters and none of the two words
that filters do not know. Every level is turned into such a text
(`TwinTypes.Logging.settled_levelDirectives`), and such a text is left as it is
(`TwinTypes.Logging.levelDirectives_of_settled`); that nothing happens the second time is no more
than the two together.

The branches of the rule are told apart on the trimmed level, so blanks around it cannot change the
branch. That capitals cannot either is a matter of the characters asked for: making a letter small
makes no blank and no mark, and takes none away.
-/

namespace TwinTypes

open Text

namespace Logging

/-! ### Small letters -/

/-- The code points of the letters that have a small one. -/
def capitals : List Nat :=
  List.range' 65 26

/-- A character that is no capital is as it is when made small. -/
theorem toLower_eq_or_mem_capitals (c : Char) : c.toLower = c ∨ c.toNat ∈ capitals := by
  by_cases h : c.val ≥ 'A'.val ∧ c.val ≤ 'Z'.val
  · refine .inr (List.mem_range'_1.mpr ?_)
    simp only [UInt32.le_iff_toNat_le, ge_iff_le] at h
    exact ⟨h.1, Nat.lt_succ_of_le h.2⟩
  · exact .inl (dif_neg h)

/-- A mark by which a list of directives is told. -/
def isMark (c : Char) : Bool :=
  c == '=' || c == ','

/-- A capital is neither a blank nor a mark, and the letter that it is made into is neither, and is
small. -/
theorem toLower_of_mem_capitals : ∀ n ∈ capitals,
    (Char.ofNat n).toLower.toLower = (Char.ofNat n).toLower ∧
      (isBlank (Char.ofNat n) = false ∧ isBlank (Char.ofNat n).toLower = false) ∧
        isMark (Char.ofNat n) = false ∧ isMark (Char.ofNat n).toLower = false := by
  decide +kernel

section ToLower

variable {c : Char}

theorem toLower_of_capital (h : c.toNat ∈ capitals) : c.toLower.toLower = c.toLower ∧
    (isBlank c = false ∧ isBlank c.toLower = false) ∧
      isMark c = false ∧ isMark c.toLower = false := by
  have hall := toLower_of_mem_capitals c.toNat h
  rwa [Char.ofNat_toNat] at hall

theorem toLower_toLower (c : Char) : c.toLower.toLower = c.toLower := by
  rcases toLower_eq_or_mem_capitals c with h | h
  · rw [h, h]
  · exact (toLower_of_capital h).1

theorem isBlank_toLower (c : Char) : isBlank c.toLower = isBlank c := by
  rcases toLower_eq_or_mem_capitals c with h | h
  · rw [h]
  · obtain ⟨-, ⟨hcapital, hsmall⟩, -⟩ := toLower_of_capital h
    rw [hcapital, hsmall]

theorem isMark_toLower (c : Char) : isMark c.toLower = isMark c := by
  rcases toLower_eq_or_mem_capitals c with h | h
  · rw [h]
  · obtain ⟨-, -, hcapital, hsmall⟩ := toLower_of_capital h
    rw [hcapital, hsmall]

end ToLower

section Lowered

variable {cs : List Char}

@[simp] theorem lowered_lowered (cs : List Char) : lowered (lowered cs) = lowered cs := by
  rw [lowered, lowered, List.map_map]
  exact List.map_congr_left fun c _ => toLower_toLower c

theorem trim_lowered (cs : List Char) : trim (lowered cs) = lowered (trim cs) :=
  trim_map isBlank_toLower cs

theorem lowered_eq_nil_iff : lowered cs = [] ↔ cs = [] :=
  List.map_eq_nil_iff

end Lowered

/-! ### The level -/

/-- **A list of directives**, which is told by an equals sign or a comma. -/
def IsList (cs : List Char) : Prop :=
  '=' ∈ cs ∨ ',' ∈ cs

instance (cs : List Char) : Decidable (IsList cs) :=
  inferInstanceAs (Decidable (_ ∨ _))

theorem isList_iff_any {cs : List Char} : IsList cs ↔ cs.any isMark = true := by
  simp only [IsList, List.any_eq_true, isMark, Bool.or_eq_true, beq_iff_eq]
  constructor
  · rintro (h | h)
    · exact ⟨_, h, .inl rfl⟩
    · exact ⟨_, h, .inr rfl⟩
  · rintro ⟨c, hc, rfl | rfl⟩
    · exact .inl hc
    · exact .inr hc

/-- **A level as filters know it.** -/
structure Settled (level : String) : Prop where
  /-- It says something. -/
  ne_nil : level.toList ≠ []
  /-- There are no blanks around it. -/
  trimmed : trim level.toList = level.toList
  /-- It is a list of directives, or in small letters and neither of the words that filters do not
  know. -/
  plain : ¬IsList level.toList →
    lowered level.toList = level.toList ∧ level ≠ "warning" ∧ level ≠ "none"

section Level

variable {level level' : String}

/-- To make letters small makes no list of a word, and no word of a list. -/
theorem isList_lowered_iff {cs : List Char} : IsList (lowered cs) ↔ IsList cs := by
  have hmark : isMark ∘ Char.toLower = isMark := funext isMark_toLower
  rw [isList_iff_any, isList_iff_any, lowered, List.any_map, hmark]

theorem contains_or_contains_iff {cs : List Char} :
    (cs.contains '=' || cs.contains ',') = true ↔ IsList cs := by
  simp [IsList]

/-- Only the trimmed level is looked at. -/
theorem levelDirectives_congr (h : trim level.toList = trim level'.toList) :
    levelDirectives level = levelDirectives level' := by
  rw [levelDirectives, levelDirectives, h]

/-- A list of directives is kept as it is. -/
theorem levelDirectives_of_isList (h : IsList (trim level.toList)) :
    levelDirectives level = Text.trimmed level := by
  have hne : trim level.toList ≠ [] := by
    intro hnil
    rw [hnil] at h
    simp [IsList] at h
  rw [levelDirectives]
  simp only [List.isEmpty_iff, if_neg hne, if_pos (contains_or_contains_iff.mpr h)]
  rfl

/-- **Of any other level only the small letters are looked at.** -/
theorem levelDirectives_congr_lowered (hlist : ¬IsList (trim level.toList))
    (h : lowered level'.toList = lowered level.toList) :
    levelDirectives level' = levelDirectives level := by
  have htrim : lowered (trim level'.toList) = lowered (trim level.toList) := by
    rw [← trim_lowered, ← trim_lowered, h]
  have hlist' : ¬IsList (trim level'.toList) := by
    rwa [← isList_lowered_iff, htrim, isList_lowered_iff]
  have hnil : trim level'.toList = [] ↔ trim level.toList = [] := by
    rw [← lowered_eq_nil_iff, htrim, lowered_eq_nil_iff]
  rw [levelDirectives, levelDirectives]
  simp only [List.isEmpty_iff, hnil, if_neg (mt contains_or_contains_iff.mp hlist),
    if_neg (mt contains_or_contains_iff.mp hlist'), htrim]

/-- A word in small letters is settled. -/
theorem settled_ofList (cs : List Char) (hne : cs ≠ []) (htrim : trim cs = cs)
    (hlower : lowered cs = cs) (hwarning : cs ≠ "warning".toList) (hnone : cs ≠ "none".toList) :
    Settled (String.ofList cs) where
  ne_nil := by rwa [String.toList_ofList]
  trimmed := by rwa [String.toList_ofList]
  plain _ := by
    refine ⟨by rwa [String.toList_ofList], fun h => hwarning ?_, fun h => hnone ?_⟩ <;>
      rw [← h, String.toList_ofList]

theorem settled_warn : Settled "warn" :=
  settled_ofList "warn".toList (by decide) (by decide) (by decide) (by decide) (by decide)

theorem settled_off : Settled "off" :=
  settled_ofList "off".toList (by decide) (by decide) (by decide) (by decide) (by decide)

/-- **Every level is turned into one that filters know.** -/
theorem settled_levelDirectives (level : String) : Settled (levelDirectives level) := by
  have htrim : trim (trim level.toList) = trim level.toList := trim_trim level.toList
  unfold levelDirectives
  dsimp only
  split
  · exact settled_warn
  · rename_i hne
    rw [List.isEmpty_iff] at hne
    split
    · rename_i hlist
      refine ⟨by rwa [String.toList_ofList], by rwa [String.toList_ofList], fun hno => ?_⟩
      rw [String.toList_ofList] at hno
      exact absurd (contains_or_contains_iff.mp hlist) hno
    · split
      · exact settled_warn
      · rename_i hwarning
        split
        · exact settled_off
        · rename_i hnone
          refine settled_ofList _ (mt lowered_eq_nil_iff.mp hne) ?_ (lowered_lowered _) hwarning
            hnone
          rw [trim_lowered, htrim]

/-- **Such a level is left as it is.** -/
theorem levelDirectives_of_settled (h : Settled level) : levelDirectives level = level := by
  by_cases hlist : IsList level.toList
  · rw [levelDirectives_of_isList (by rwa [h.trimmed]), Text.trimmed, h.trimmed,
      String.ofList_toList]
  · obtain ⟨hlower, hwarning, hnone⟩ := h.plain hlist
    have hwarning' : level.toList ≠ "warning".toList := mt String.toList_inj.mp hwarning
    have hnone' : level.toList ≠ "none".toList := mt String.toList_inj.mp hnone
    rw [levelDirectives]
    simp only [h.trimmed, List.isEmpty_iff, if_neg h.ne_nil,
      if_neg (mt contains_or_contains_iff.mp hlist), hlower, if_neg hwarning', if_neg hnone',
      String.ofList_toList]

end Level

/-! ### The directives -/

/-- A text of blanks, or none at all. -/
def Blanks (s : String) : Prop :=
  ∀ c ∈ s.toList, isBlank c = true

instance (s : String) : Decidable (Blanks s) :=
  List.decidableBAll _ s.toList

section Directives

variable {l : Logging} {s front back more : String} {rustLog : Option String}

theorem trimmed_isEmpty_iff : (Text.trimmed s).isEmpty = true ↔ Blanks s := by
  rw [String.isEmpty_iff, Text.trimmed, String.ofList_eq_empty_iff, trim_eq_nil_iff, Blanks]

theorem trim_between (hfront : Blanks front) (hback : Blanks back) (s : String) :
    trim (front ++ s ++ back).toList = trim s.toList := by
  rw [String.toList_append, trim_append_blanks hback, String.toList_append,
    trim_blanks_append hfront]

/-- An environment that says nothing leaves the level alone. -/
theorem directives_of_blanks (h : Blanks more) :
    l.directives (some more) = levelDirectives l.level := by
  simp [directives, trimmed_isEmpty_iff.mpr h]

/-- **The directives of the environment come last.** -/
theorem directives_of_not_blanks (h : ¬Blanks more) : l.directives (some more) =
    levelDirectives l.level ++ "," ++ Text.trimmed more := by
  simp [directives, mt trimmed_isEmpty_iff.mp h]

/-- The settings matter by what their level stands for. -/
theorem directives_congr {l' : Logging} (h : levelDirectives l'.level = levelDirectives l.level)
    (rustLog : Option String) : l'.directives rustLog = l.directives rustLog := by
  rw [directives, directives, h]

/-- A level that filters know is never blank. -/
theorem Settled.not_blanks (h : Settled s) : ¬Blanks s := by
  intro hblanks
  have hnil : trim s.toList = [] := trim_eq_nil_iff.mpr hblanks
  exact h.ne_nil (h.trimmed ▸ hnil)

/-- Nor is what begins with such a level. -/
theorem not_blanks_directives (l : Logging) (rustLog : Option String) :
    ¬Blanks (l.directives rustLog) := by
  have hlevel := (settled_levelDirectives l.level).not_blanks
  cases rustLog with
  | none => exact hlevel
  | some more =>
    by_cases hmore : Blanks more
    · rwa [directives_of_blanks hmore]
    · rw [directives_of_not_blanks hmore]
      intro hblanks
      refine hlevel fun c hc => hblanks c ?_
      rw [String.toList_append, String.toList_append, List.append_assoc]
      exact List.mem_append_left _ hc

/-- Blanks around the directives of the environment change nothing. -/
theorem directives_between (hfront : Blanks front) (hback : Blanks back) (l : Logging)
    (rustLog : Option String) :
    l.directives (rustLog.map fun more => front ++ more ++ back) = l.directives rustLog := by
  cases rustLog with
  | none => rfl
  | some more =>
    rw [Option.map_some, directives, directives, Option.map_some, Option.map_some, Text.trimmed,
      Text.trimmed, trim_between hfront hback]

end Directives

/-- **The directives of the settings do not depend on how the level is written.** They are never
blank, and blanks around the level or around the directives of the environment change nothing. A
level that is a list of directives is kept; of any other one the capitals may be made small, and the
other way round. To put the directives in the place of the level changes nothing either. Those of
the environment, unless they are blank, come after those of the level, which stay as they are. -/
theorem directives_stable (l : Logging) (rustLog : Option String) :
    ¬Blanks (l.directives rustLog) ∧
    (∀ front back, Blanks front → Blanks back →
      { l with level := front ++ l.level ++ back }.directives rustLog = l.directives rustLog ∧
        l.directives (rustLog.map fun more => front ++ more ++ back) = l.directives rustLog) ∧
    (IsList (trim l.level.toList) → l.directives none = Text.trimmed l.level) ∧
    (¬IsList (trim l.level.toList) →
      ∀ level : String, lowered level.toList = lowered l.level.toList →
        { l with level := level }.directives rustLog = l.directives rustLog) ∧
    { l with level := l.directives none }.directives rustLog = l.directives rustLog ∧
    ∀ more, (Blanks more → l.directives (some more) = l.directives none) ∧
      (¬Blanks more →
        l.directives (some more) = l.directives none ++ "," ++ Text.trimmed more) := by
  refine ⟨not_blanks_directives l rustLog, fun front back hfront hback => ⟨?_, ?_⟩,
    levelDirectives_of_isList, fun hlist level hlower => ?_, ?_,
    fun more => ⟨directives_of_blanks, directives_of_not_blanks⟩⟩
  · refine directives_congr ?_ rustLog
    exact levelDirectives_congr (trim_between hfront hback l.level)
  · exact directives_between hfront hback l rustLog
  · refine directives_congr ?_ rustLog
    exact levelDirectives_congr_lowered hlist hlower
  · refine directives_congr ?_ rustLog
    exact levelDirectives_of_settled (settled_levelDirectives l.level)

/-- A word that filters do not know, in capitals and with a blank before it. -/
def loudWarning : Logging :=
  ⟨" WARNING", false, true⟩

/-- However the word is written it stands for the same directives, and so do these. -/
theorem directives_stable_loudWarning :
    loudWarning.directives (some "\tktmap.gen=trace") = "warn,ktmap.gen=trace" ∧
      { loudWarning with level := " Warning" }.directives (some "\tktmap.gen=trace") =
        "warn,ktmap.gen=trace" ∧
      { loudWarning with level := "\n" ++ loudWarning.level ++ "\u2003" }.directives
        (some "\tktmap.gen=trace") = "warn,ktmap.gen=trace" ∧
      { loudWarning with level := "warn" }.directives (some "\tktmap.gen=trace") =
        "warn,ktmap.gen=trace" := by
  obtain ⟨-, hblanks, -, hsmall, hagain, henvironment⟩ :=
    directives_stable loudWarning (some "\tktmap.gen=trace")
  have hnone : loudWarning.directives none = "warn" := by decide +kernel
  have hall : loudWarning.directives (some "\tktmap.gen=trace") = "warn,ktmap.gen=trace" := by
    rw [(henvironment _).2 (by decide), hnone]
    decide +kernel
  refine ⟨hall, ?_, ?_, ?_⟩
  · rw [hsmall (by decide) _ (by decide), hall]
  · rw [(hblanks _ _ (by decide) (by decide)).1, hall]
  · rw [hnone] at hagain
    rw [hagain, hall]

end Logging

end TwinTypes
