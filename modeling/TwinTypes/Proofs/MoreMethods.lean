import TwinTypes.Proofs.Accounting

/-!
# More methods on the Java side

A Java type with more methods takes nothing away from a Kotlin type: what was matched is matched
again, and fewer members are left over (`correspond_mono`). So of the methods of a Java type only
the set counts, and neither their order nor their repeats (`correspond_congr`).

What was matched is matched *as before*, with one exception. Indexed access falls back to `charAt`
only where there is no `get`, so a type that has `get` as well puts the method itself in the place
of the fallback. `TwinTypes.MemberMatch.within` says what becomes of a match, and
`Descriptor.CalledBy.mono` that nothing else happens to it.

A type may list a method several times, and then each occurrence is matched on its own. The two
reports are therefore compared occurrence by occurrence: `TakenApart.mono` goes through one list for
both of them at once, and `TwinTypes.Descriptor.MapsAt` singles out one occurrence by what stands
before it and after it.
-/

namespace TwinTypes

/-! ### One list, taken apart twice -/

/-- **More is matched and less is left over** where whatever an element becomes in the one way it
becomes in the other way too, up to a change. -/
theorem TakenApart.mono {α β : Type} {becomes becomes' : α → β → Prop} {xs rest rest' : List α}
    {ys ys' : List β} {change : β → β} (h : TakenApart becomes xs ys rest)
    (h' : TakenApart becomes' xs ys' rest') (hkeeps : ∀ x y, becomes x y → becomes' x (change y))
    (hone : ∀ x y y', becomes' x y → becomes' x y' → y = y') :
    (ys.map change).Sublist ys' ∧ rest'.Sublist rest := by
  induction h generalizing ys' rest' with
  | nil =>
    cases h'
    exact ⟨.slnil, .slnil⟩
  | matched hx _ ih =>
    cases h' with
    | matched hx' others' =>
      obtain ⟨hys, hrest⟩ := ih others'
      rw [List.map_cons, hone _ _ _ hx' (hkeeps _ _ hx)]
      exact ⟨hys.cons_cons _, hrest⟩
    | unmatched hx' _ => exact absurd (hkeeps _ _ hx) (hx' _)
  | unmatched hx _ ih =>
    cases h' with
    | matched _ others' =>
      obtain ⟨hys, hrest⟩ := ih others'
      exact ⟨hys.cons _, hrest.cons _⟩
    | unmatched _ others' =>
      obtain ⟨hys, hrest⟩ := ih others'
      exact ⟨hys, hrest.cons_cons _⟩

/-! ### What a member becomes in a type with more methods -/

/-- **What a match is in a type with more methods**: the same match, unless it is the fallback of
indexed access and the type has no need of it. -/
def MemberMatch.within (java : Descriptor) (m : MemberMatch) : MemberMatch :=
  if m.kotlin = indexedAccessKotlin ∧ m.java = indexedAccessJava ∧
      indexedAccessKotlin ∈ java.methods then
    ⟨indexedAccessKotlin, indexedAccessKotlin, directNote⟩
  else m

theorem MemberMatch.kotlin_within (java : Descriptor) (m : MemberMatch) :
    (m.within java).kotlin = m.kotlin := by
  unfold within
  split
  · rename_i h
    exact h.1.symm
  · rfl

namespace Descriptor

variable {java java' : Descriptor} {member : String} {m m' : MemberMatch}

theorem ReadBy.unique (h : java.ReadBy member m) (h' : java.ReadBy member m') : m = m' := by
  rw [← matchProperty_eq_some_iff] at h h'
  exact Option.some.inj (h.symm.trans h')

theorem CalledBy.unique (h : java.CalledBy member m) (h' : java.CalledBy member m') : m = m' := by
  rw [← matchMethod_eq_some_iff] at h h'
  exact Option.some.inj (h.symm.trans h')

theorem CalledBy.kotlin_eq (h : java.CalledBy member m) : m.kotlin = member := by
  rcases h with ⟨-, rfl⟩ | ⟨-, -, -, rfl⟩ <;> rfl

theorem ReadBy.mono (h : java.ReadBy member m)
    (hmethods : ∀ name ∈ java.methods, name ∈ java'.methods) : java'.ReadBy member m := by
  obtain ⟨rule, hrule, hproperty, hmethod, hm⟩ := h
  exact ⟨rule, hrule, hproperty, hmethods _ hmethod, hm⟩

/-- **A method that is called is called again**, and as before but for the fallback. -/
theorem CalledBy.mono (h : java.CalledBy member m)
    (hmethods : ∀ name ∈ java.methods, name ∈ java'.methods) :
    java'.CalledBy member (m.within java') := by
  rcases h with ⟨hmethod, rfl⟩ | ⟨-, rfl, hcharAt, rfl⟩
  · -- a method of the same name is not the fallback, which has two different names
    have hsame : MemberMatch.within java' ⟨member, member, directNote⟩ =
        ⟨member, member, directNote⟩ := by
      refine if_neg fun hfallback => ?_
      have hnames := hfallback.1.symm.trans hfallback.2.1
      exact absurd hnames (by decide)
    exact Or.inl ⟨hmethods _ hmethod, hsame⟩
  · by_cases hget : indexedAccessKotlin ∈ java'.methods
    · exact Or.inl ⟨hget, if_pos ⟨rfl, rfl, hget⟩⟩
    · exact Or.inr ⟨hget, rfl, hmethods _ hcharAt, if_neg fun hfallback => hget hfallback.2.2⟩

/-! ### One occurrence of a method -/

/-- **An occurrence of a method is matched**, the one with these methods before it and these after
it: the report has the match between what becomes of the former and what becomes of the latter. -/
structure MapsAt (kotlin java : Descriptor) (before : List String) (m : MemberMatch)
    (after : List String) : Prop where
  /-- The type lists the method there. -/
  listed : kotlin.methods = before ++ m.kotlin :: after
  /-- The report lists the match there. -/
  reported : (correspond kotlin java).methods =
    (correspond { kotlin with methods := before } java).methods ++
      m :: (correspond { kotlin with methods := after } java).methods

/-- Whether an occurrence is matched does not depend on where it stands. -/
theorem mapsAt_iff {kotlin : Descriptor} {before after : List String} :
    kotlin.MapsAt java before m after ↔
      kotlin.methods = before ++ m.kotlin :: after ∧ java.CalledBy m.kotlin m := by
  rw [← matchMethod_eq_some_iff]
  constructor
  · rintro ⟨hlisted, hreported⟩
    refine ⟨hlisted, ?_⟩
    change kotlin.methods.filterMap (matchMethod java) = before.filterMap (matchMethod java) ++
      m :: after.filterMap (matchMethod java) at hreported
    rw [hlisted, List.filterMap_append] at hreported
    have htail := List.append_cancel_left hreported
    cases hm : matchMethod java m.kotlin with
    | none =>
      rw [List.filterMap_cons_none hm] at htail
      have hlength := congrArg List.length htail
      rw [List.length_cons] at hlength
      omega
    | some found =>
      rw [List.filterMap_cons_some hm] at htail
      rw [List.head_eq_of_cons_eq htail]
  · rintro ⟨hlisted, hm⟩
    refine ⟨hlisted, ?_⟩
    change kotlin.methods.filterMap (matchMethod java) = _
    rw [hlisted, List.filterMap_append, List.filterMap_cons_some hm]
    rfl

/-- Each match of a report is that of an occurrence. -/
theorem exists_mapsAt {kotlin : Descriptor} (h : m ∈ (correspond kotlin java).methods) :
    ∃ before after, kotlin.MapsAt java before m after := by
  obtain ⟨method, hmethod, hcalled⟩ := (takenApart_methods kotlin java).exists_of_mem h
  obtain ⟨before, after, hlisted⟩ := List.append_of_mem hmethod
  obtain rfl : m.kotlin = method := hcalled.kotlin_eq
  exact ⟨before, after, mapsAt_iff.mpr ⟨hlisted, hcalled⟩⟩

theorem MapsAt.mono {kotlin : Descriptor} {before after : List String}
    (h : kotlin.MapsAt java before m after)
    (hmethods : ∀ name ∈ java.methods, name ∈ java'.methods) :
    kotlin.MapsAt java' before (m.within java') after := by
  obtain ⟨hlisted, hcalled⟩ := mapsAt_iff.mp h
  rw [mapsAt_iff, MemberMatch.kotlin_within]
  exact ⟨hlisted, hcalled.mono hmethods⟩

end Descriptor

/-! ### Two reports -/

section Reports

variable (kotlin : Descriptor) {java java' : Descriptor}

/-- **Only the set of the methods counts**, and the name. -/
theorem correspond_congr (hname : java.name = java'.name)
    (hmethods : ∀ name, name ∈ java.methods ↔ name ∈ java'.methods) :
    correspond kotlin java = correspond kotlin java' := by
  have hhas : java.hasMethod = java'.hasMethod := by
    funext name
    rw [Bool.eq_iff_iff, java.hasMethod_iff, java'.hasMethod_iff, hmethods]
  have hproperty : matchProperty java = matchProperty java' := by
    funext property
    rw [matchProperty, matchProperty, hhas]
  have hmethod : matchMethod java = matchMethod java' := by
    funext method
    rw [matchMethod, matchMethod, hhas]
  rw [correspond, correspond, hname, hproperty, hmethod]

/-- **A Java type with more methods takes nothing away.** The properties that are matched are
matched as before. Each match of a method is that of an occurrence, and the same occurrence is
matched as before, but for indexed access where it fell back and need not any more. No member is
left over that was not. With the same methods, in any order and with any repeats, the report is the
same. -/
theorem correspond_mono (java java' : Descriptor) (hname : java.name = java'.name)
    (hmethods : ∀ name ∈ java.methods, name ∈ java'.methods) :
    (correspond kotlin java).properties.Sublist (correspond kotlin java').properties ∧
      (correspond kotlin java').unmappedProperties.Sublist
        (correspond kotlin java).unmappedProperties ∧
      (correspond kotlin java').unmappedMethods.Sublist (correspond kotlin java).unmappedMethods ∧
      (∀ m ∈ (correspond kotlin java).methods,
        ∃ before after, kotlin.MapsAt java before m after) ∧
      (∀ before m after, kotlin.MapsAt java before m after →
        kotlin.MapsAt java' before (m.within java') after) ∧
      ((∀ name ∈ java'.methods, name ∈ java.methods) →
        correspond kotlin java = correspond kotlin java') := by
  have hread : ∀ property m, java.ReadBy property m → java'.ReadBy property (id m) :=
    fun _ _ h => h.mono hmethods
  have hcalled : ∀ method m, java.CalledBy method m → java'.CalledBy method (m.within java') :=
    fun _ _ h => h.mono hmethods
  obtain ⟨hproperties, hunread⟩ := (takenApart_properties kotlin java).mono
    (takenApart_properties kotlin java') hread fun _ _ _ => Descriptor.ReadBy.unique
  obtain ⟨-, huncalled⟩ := (takenApart_methods kotlin java).mono
    (takenApart_methods kotlin java') hcalled fun _ _ _ => Descriptor.CalledBy.unique
  rw [List.map_id] at hproperties
  exact ⟨hproperties, hunread, huncalled, fun _ => Descriptor.exists_mapsAt,
    fun _ _ _ h => h.mono hmethods,
    fun hback => correspond_congr kotlin hname fun name => ⟨hmethods name, hback name⟩⟩

end Reports

/-- A Kotlin type that lists indexed access twice. -/
def indexed : Descriptor :=
  ⟨"K", .interfaceKind, none, ["get", "sort", "get"], some ["size", "length"]⟩

/-- A Java type for it, with these methods. -/
def indexable (methods : List String) : Descriptor :=
  ⟨"J", .interfaceKind, none, methods, none⟩

/-- With `get` on top of `charAt`, the second of two occurrences is matched to `get` as well, and
the property that was matched still is. -/
theorem correspond_mono_get :
    indexed.MapsAt (indexable ["length", "charAt"]) ["get", "sort"]
        ⟨"get", "charAt", indexedAccessNote⟩ [] ∧
      indexed.MapsAt (indexable ["get", "charAt", "length"]) ["get", "sort"]
        ⟨"get", "get", directNote⟩ [] ∧
      (correspond indexed (indexable ["length", "charAt"])).properties.Sublist
        (correspond indexed (indexable ["get", "charAt", "length"])).properties := by
  have hcharAt : indexed.MapsAt (indexable ["length", "charAt"]) ["get", "sort"]
      ⟨"get", "charAt", indexedAccessNote⟩ [] := ⟨rfl, by decide⟩
  obtain ⟨hproperties, -, -, -, hoccurrences, -⟩ := correspond_mono indexed
    (indexable ["length", "charAt"]) (indexable ["get", "charAt", "length"]) rfl (by decide)
  exact ⟨hcharAt, hoccurrences _ _ _ hcharAt, hproperties⟩

end TwinTypes
