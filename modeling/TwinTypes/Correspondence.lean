import TwinTypes.Registry

/-!
# Which Java member a Kotlin member becomes

A Kotlin property becomes the Java method that the first rule for its name gives, if the Java type
has that method. A Kotlin method becomes the Java method of the same name; failing that, the
indexed access `get` becomes `charAt`. A member that becomes nothing is left out of the report and
listed apart, so each member of the Kotlin type is either matched or listed, and in its own order.
-/

namespace TwinTypes

/-! ### Rules for properties -/

/-- How a Java type lets the value of a property be read. -/
inductive AccessorStyle where
  /-- By a method of the same shape, such as `size()`. -/
  | method
  /-- By a getter, such as `getKey()`. -/
  | getter
  deriving DecidableEq, Repr

/-- The remark that goes with a property read in this style. -/
def AccessorStyle.note : AccessorStyle → String
  | method => "Kotlin property maps to Java method"
  | getter => "Kotlin property maps to Java getter method"

/-- A Kotlin property and the Java method that reads it. -/
structure PropertyRule where
  /-- The Kotlin property. -/
  property : String
  /-- The Java method. -/
  javaMethod : String
  /-- How the method reads the property. -/
  style : AccessorStyle
  deriving DecidableEq, Repr

/-- The rules for properties. -/
def propertyRules : List PropertyRule :=
  [
    ⟨"size", "size", .method⟩,
    ⟨"length", "length", .method⟩,
    ⟨"message", "getMessage", .getter⟩,
    ⟨"cause", "getCause", .getter⟩,
    ⟨"stackTrace", "getStackTrace", .getter⟩,
    ⟨"name", "name", .method⟩,
    ⟨"ordinal", "ordinal", .method⟩,
    ⟨"entries", "entrySet", .method⟩,
    ⟨"keys", "keySet", .method⟩,
    ⟨"values", "values", .method⟩,
    ⟨"key", "getKey", .getter⟩,
    ⟨"value", "getValue", .getter⟩]

/-- The first rule for a property. -/
def propertyRule (property : String) : Option PropertyRule :=
  propertyRules.find? fun rule => rule.property == property

/-! ### Rules for methods -/

/-- The Kotlin method behind indexed access. -/
def indexedAccessKotlin : String :=
  "get"

/-- The Java method that indexed access falls back to. -/
def indexedAccessJava : String :=
  "charAt"

/-- The remark for a method of the same name. -/
def directNote : String :=
  "Direct method mapping"

/-- The remark for indexed access that falls back. -/
def indexedAccessNote : String :=
  "Kotlin operator fun get maps to Java charAt method"

/-! ### The report -/

/-- A Kotlin member, the Java method it becomes, and a remark. -/
structure MemberMatch where
  /-- The Kotlin member. -/
  kotlin : String
  /-- The Java method. -/
  java : String
  /-- The remark. -/
  note : String
  deriving DecidableEq, Repr, Inhabited

/-- What the members of a Kotlin type become in a Java type. -/
structure Report where
  /-- The name of the Kotlin type. -/
  kotlinType : String
  /-- The name of the Java type. -/
  javaType : String
  /-- The properties that become a Java method. -/
  properties : List MemberMatch
  /-- The methods that become a Java method. -/
  methods : List MemberMatch
  /-- The properties that become nothing. -/
  unmappedProperties : List String
  /-- The methods that become nothing. -/
  unmappedMethods : List String
  deriving DecidableEq, Repr, Inhabited

/-- What a Kotlin property becomes in a Java type. -/
def matchProperty (java : Descriptor) (property : String) : Option MemberMatch :=
  match propertyRule property with
  | some rule =>
    if java.hasMethod rule.javaMethod then some ⟨property, rule.javaMethod, rule.style.note⟩
    else none
  | none => none

/-- What a Kotlin method becomes in a Java type. -/
def matchMethod (java : Descriptor) (method : String) : Option MemberMatch :=
  if java.hasMethod method then some ⟨method, method, directNote⟩
  else if method = indexedAccessKotlin ∧ java.hasMethod indexedAccessJava then
    some ⟨method, indexedAccessJava, indexedAccessNote⟩
  else none

/-- **What the members of a Kotlin type become in a Java type**, each in declaration order. -/
def correspond (kotlin java : Descriptor) : Report where
  kotlinType := kotlin.name
  javaType := java.name
  properties := kotlin.propertyList.filterMap (matchProperty java)
  methods := kotlin.methods.filterMap (matchMethod java)
  unmappedProperties := kotlin.propertyList.filter fun p => (matchProperty java p).isNone
  unmappedMethods := kotlin.methods.filter fun m => (matchMethod java m).isNone

/-- Whether some member of the Kotlin type becomes nothing. -/
def Report.hasUnmapped (r : Report) : Bool :=
  !r.unmappedProperties.isEmpty || !r.unmappedMethods.isEmpty

/-- The report for two names, both looked up in a table. -/
def Registry.infer (r : Registry) (kotlin java : String) : Report :=
  correspond (r.lookup kotlin) (r.lookup java)

end TwinTypes
