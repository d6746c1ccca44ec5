import Mathlib.Data.List.Nodup
import TwinTypes.Correspondence

/-!
# Every member is accounted for

Inferring what the members of a Kotlin type become takes each of its two member lists apart: into
what its members become, and the members that become nothing. `TwinTypes.TakenApart` says what it
is for a list to be taken apart, element by element and in order, so that nothing is dropped and
nothing is counted twice; `correspond_takesApart` says that a report does this with both lists, and
that nothing else would.

What a member becomes is said here by relations that do not mention how it is found
(`TwinTypes.Descriptor.ReadBy`, `TwinTypes.Descriptor.CalledBy`). There is a rule or there is none:
which of several rules comes first is no part of it, because no property has two
(`propertyRules_nodup`).
-/

namespace TwinTypes

/-! ### Taking a list apart -/

/-- **A list taken apart** into what its elements become and the elements that become nothing. -/
inductive TakenApart {α β : Type} (becomes : α → β → Prop) : List α → List β → List α → Prop where
  /-- Nothing is left. -/
  | nil : TakenApart becomes [] [] []
  /-- The first element becomes something. -/
  | matched {x : α} {y : β} {xs rest : List α} {ys : List β} (h : becomes x y)
      (others : TakenApart becomes xs ys rest) : TakenApart becomes (x :: xs) (y :: ys) rest
  /-- The first element becomes nothing. -/
  | unmatched {x : α} {xs rest : List α} {ys : List β} (h : ∀ y, ¬becomes x y)
      (others : TakenApart becomes xs ys rest) : TakenApart becomes (x :: xs) ys (x :: rest)

namespace TakenApart

variable {α β : Type} {becomes : α → β → Prop} {xs rest : List α} {ys : List β}

/-- **Each element is counted once.** -/
theorem length_add_length (h : TakenApart becomes xs ys rest) :
    ys.length + rest.length = xs.length := by
  induction h with
  | nil => rfl
  | matched _ _ ih =>
    rw [List.length_cons, List.length_cons, ← ih]
    omega
  | unmatched _ _ ih =>
    rw [List.length_cons, List.length_cons, ← ih]
    omega

/-- Whatever has come out is what some element becomes. -/
theorem exists_of_mem (h : TakenApart becomes xs ys rest) {y : β} (hy : y ∈ ys) :
    ∃ x ∈ xs, becomes x y := by
  induction h with
  | nil => cases hy
  | matched h _ ih =>
    rcases List.mem_cons.mp hy with rfl | hy
    · exact ⟨_, List.mem_cons_self, h⟩
    · obtain ⟨x, hx, hbecomes⟩ := ih hy
      exact ⟨x, List.mem_cons_of_mem _ hx, hbecomes⟩
  | unmatched _ _ ih =>
    obtain ⟨x, hx, hbecomes⟩ := ih hy
    exact ⟨x, List.mem_cons_of_mem _ hx, hbecomes⟩

section Function

variable {f : α → Option β}

/-- Where a function gives what an element becomes, the list is taken apart by going through it. -/
theorem of_function (hf : ∀ x y, f x = some y ↔ becomes x y) (xs : List α) :
    TakenApart becomes xs (xs.filterMap f) (xs.filter fun x => (f x).isNone) := by
  induction xs with
  | nil => exact .nil
  | cons x xs ih =>
    cases hx : f x with
    | none =>
      rw [List.filterMap_cons_none hx, List.filter_cons_of_pos (by simp [hx])]
      refine .unmatched (fun y hy => ?_) ih
      rw [(hf x y).mpr hy] at hx
      cases hx
    | some y =>
      rw [List.filterMap_cons_some hx, List.filter_cons_of_neg (by simp [hx])]
      exact .matched ((hf x y).mp hx) ih

/-- **There is one way to take a list apart**, if each element becomes one thing at most. -/
theorem iff_of_function (hf : ∀ x y, f x = some y ↔ becomes x y) :
    TakenApart becomes xs ys rest ↔
      ys = xs.filterMap f ∧ rest = xs.filter fun x => (f x).isNone := by
  constructor
  · intro h
    induction h with
    | nil => exact ⟨rfl, rfl⟩
    | matched h _ ih =>
      have hx := (hf _ _).mpr h
      rw [List.filterMap_cons_some hx, List.filter_cons_of_neg (by simp [hx]), ← ih.1, ← ih.2]
      exact ⟨rfl, rfl⟩
    | @unmatched x _ _ _ h _ ih =>
      have hx : f x = none := by
        rw [Option.eq_none_iff_forall_ne_some]
        exact fun y hy => h y ((hf x y).mp hy)
      rw [List.filterMap_cons_none hx, List.filter_cons_of_pos (by simp [hx]), ← ih.1, ← ih.2]
      exact ⟨rfl, rfl⟩
  · rintro ⟨rfl, rfl⟩
    exact of_function hf xs

end Function

end TakenApart

/-! ### What a member becomes -/

/-- **A property is read by a Java method**: some rule for the property gives the method, and the
type has it. -/
def Descriptor.ReadBy (java : Descriptor) (property : String) (m : MemberMatch) : Prop :=
  ∃ rule ∈ propertyRules, rule.property = property ∧ rule.javaMethod ∈ java.methods ∧
    m = ⟨property, rule.javaMethod, rule.style.note⟩

/-- **A method is called by a Java method**: that of the same name, or where there is none the
indexed access of Java in the place of that of Kotlin. -/
def Descriptor.CalledBy (java : Descriptor) (method : String) (m : MemberMatch) : Prop :=
  (method ∈ java.methods ∧ m = ⟨method, method, directNote⟩) ∨
    (method ∉ java.methods ∧ method = indexedAccessKotlin ∧ indexedAccessJava ∈ java.methods ∧
      m = ⟨method, indexedAccessJava, indexedAccessNote⟩)

/-- No property has two rules. -/
theorem propertyRules_nodup : (propertyRules.map PropertyRule.property).Nodup := by decide

/-- The rule that is found for a property is the only one. -/
theorem propertyRule_eq_some_iff {property : String} {rule : PropertyRule} :
    propertyRule property = some rule ↔ rule ∈ propertyRules ∧ rule.property = property := by
  constructor
  · intro h
    exact ⟨List.mem_of_find?_eq_some h, by simpa using List.find?_some h⟩
  · rintro ⟨hmem, rfl⟩
    cases hfound : propertyRule rule.property with
    | none =>
      have hne := List.find?_eq_none.mp hfound rule hmem
      simp at hne
    | some other =>
      have hsame : other.property = rule.property := by simpa using List.find?_some hfound
      have hother := List.mem_of_find?_eq_some hfound
      rw [List.inj_on_of_nodup_map propertyRules_nodup hother hmem hsame]

theorem Descriptor.hasMethod_iff (java : Descriptor) (name : String) :
    java.hasMethod name = true ↔ name ∈ java.methods := by
  rw [hasMethod, List.contains_iff_mem]

theorem matchProperty_eq_some_iff {java : Descriptor} (property : String) (m : MemberMatch) :
    matchProperty java property = some m ↔ java.ReadBy property m := by
  unfold matchProperty Descriptor.ReadBy
  constructor
  · intro h
    split at h
    · rename_i rule hrule
      obtain ⟨hmem, hproperty⟩ := propertyRule_eq_some_iff.mp hrule
      split at h
      · rename_i hmethod
        exact ⟨rule, hmem, hproperty, (java.hasMethod_iff _).mp hmethod, (Option.some.inj h).symm⟩
      · cases h
    · cases h
  · rintro ⟨rule, hmem, hproperty, hmethod, rfl⟩
    rw [propertyRule_eq_some_iff.mpr ⟨hmem, hproperty⟩]
    exact if_pos ((java.hasMethod_iff _).mpr hmethod)

theorem matchMethod_eq_some_iff {java : Descriptor} (method : String) (m : MemberMatch) :
    matchMethod java method = some m ↔ java.CalledBy method m := by
  unfold matchMethod Descriptor.CalledBy
  simp only [java.hasMethod_iff]
  by_cases hdirect : method ∈ java.methods
  · simp [hdirect, eq_comm]
  · rw [if_neg hdirect]
    by_cases hindexed : method = indexedAccessKotlin ∧ indexedAccessJava ∈ java.methods
    · obtain ⟨rfl, hcharAt⟩ := hindexed
      simp [hdirect, hcharAt, eq_comm]
    · rw [if_neg hindexed]
      constructor
      · nofun
      · rintro (⟨hmem, -⟩ | ⟨-, hget, hcharAt, -⟩)
        · exact absurd hmem hdirect
        · exact absurd ⟨hget, hcharAt⟩ hindexed

/-! ### The report -/

section Report

variable (kotlin java : Descriptor)

theorem takenApart_properties : TakenApart java.ReadBy kotlin.propertyList
    (correspond kotlin java).properties (correspond kotlin java).unmappedProperties :=
  .of_function matchProperty_eq_some_iff _

theorem takenApart_methods : TakenApart java.CalledBy kotlin.methods
    (correspond kotlin java).methods (correspond kotlin java).unmappedMethods :=
  .of_function matchMethod_eq_some_iff _

theorem Descriptor.ReadBy.java_mem {property : String} {m : MemberMatch}
    (h : java.ReadBy property m) : m.java ∈ java.methods := by
  obtain ⟨rule, -, -, hmethod, rfl⟩ := h
  exact hmethod

theorem Descriptor.CalledBy.java_mem {method : String} {m : MemberMatch}
    (h : java.CalledBy method m) : m.java ∈ java.methods := by
  rcases h with ⟨hmethod, rfl⟩ | ⟨-, -, hmethod, rfl⟩
  · exact hmethod
  · exact hmethod

/-- **A report takes both member lists apart**, and is the only one that does. So each member is
matched or left over, once for each time that the type lists it; whatever is matched is matched to a
method that the Java type has; and of what is known of either type nothing counts but the name and
the members, and of the Java type nothing but the name and the methods. -/
theorem correspond_takesApart :
    (∀ ms rest, TakenApart java.ReadBy kotlin.propertyList ms rest ↔
        ms = (correspond kotlin java).properties ∧
          rest = (correspond kotlin java).unmappedProperties) ∧
      (∀ ms rest, TakenApart java.CalledBy kotlin.methods ms rest ↔
        ms = (correspond kotlin java).methods ∧ rest = (correspond kotlin java).unmappedMethods) ∧
      (correspond kotlin java).properties.length +
          (correspond kotlin java).unmappedProperties.length = kotlin.propertyList.length ∧
      (correspond kotlin java).methods.length + (correspond kotlin java).unmappedMethods.length =
        kotlin.methods.length ∧
      (∀ m ∈ (correspond kotlin java).properties ++ (correspond kotlin java).methods,
        m.java ∈ java.methods) ∧
      ∀ kind kind' supertype supertype' properties,
        correspond { kotlin with kind := kind, supertype := supertype }
            { java with kind := kind', supertype := supertype', properties := properties } =
          correspond kotlin java := by
  have hproperties := takenApart_properties kotlin java
  have hmethods := takenApart_methods kotlin java
  refine ⟨fun ms rest => TakenApart.iff_of_function matchProperty_eq_some_iff,
    fun ms rest => TakenApart.iff_of_function matchMethod_eq_some_iff,
    hproperties.length_add_length, hmethods.length_add_length, fun m hm => ?_,
    fun _ _ _ _ _ => rfl⟩
  rcases List.mem_append.mp hm with hm | hm
  · obtain ⟨_, -, hread⟩ := hproperties.exists_of_mem hm
    exact hread.java_mem
  · obtain ⟨_, -, hcalled⟩ := hmethods.exists_of_mem hm
    exact hcalled.java_mem

/-- A property of no rule and a repeated method are listed where they belong. -/
example : correspond ⟨"K", .classKind, none, ["get", "get", "sort"], some ["size", "age"]⟩
    ⟨"J", .classKind, none, ["size", "charAt"], none⟩ =
      ⟨"K", "J", [⟨"size", "size", "Kotlin property maps to Java method"⟩],
        [⟨"get", "charAt", indexedAccessNote⟩, ⟨"get", "charAt", indexedAccessNote⟩],
        ["age"], ["sort"]⟩ := by decide

end Report

end TwinTypes
