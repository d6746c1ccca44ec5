import TwinTypes.Descriptor

/-!
# Standard types

The shapes of the Java and Kotlin standard types that stand for one another, reduced to the names of
their members, and the pairs that Kotlin documents as mapped types. `java.lang.Number` is only
named as a supertype and has no shape of its own.
-/

namespace TwinTypes.Builtin

/-! ### Building an entry -/

/-- A class with these methods. -/
def classWith (name : String) (methods : List String) : Descriptor :=
  ⟨name, .classKind, none, methods, none⟩

/-- An interface with these methods. -/
def interfaceWith (name : String) (methods : List String) : Descriptor :=
  ⟨name, .interfaceKind, none, methods, none⟩

/-- The shape with a supertype. -/
def extending (supertype : String) (d : Descriptor) : Descriptor :=
  { d with supertype := some supertype }

/-- The shape with a property list. -/
def having (properties : List String) (d : Descriptor) : Descriptor :=
  { d with properties := some properties }

/-! ### Members that several types share -/

/-- The methods of a value that can be compared. -/
def comparableValue : List String :=
  ["compareTo", "equals", "hashCode", "toString"]

/-- The methods of a Kotlin integer. -/
def numberConversions : List String :=
  ["toByte", "toShort", "toInt", "toLong", "toFloat", "toDouble", "toChar", "compareTo",
   "equals", "hashCode", "toString"]

/-- The methods of a Kotlin floating-point number. -/
def floatingConversions : List String :=
  ["toByte", "toShort", "toInt", "toLong", "toFloat", "toDouble", "compareTo", "equals",
   "hashCode", "toString", "isNaN", "isInfinite"]

/-- The methods of a Java collection. -/
def javaCollection : List String :=
  ["add", "addAll", "clear", "contains", "containsAll", "equals", "hashCode", "isEmpty",
   "iterator", "remove", "removeAll", "retainAll", "size", "toArray"]

/-- The methods of a Kotlin collection that is only read. -/
def readCollection : List String :=
  ["contains", "containsAll", "isEmpty", "iterator"]

/-- The methods of a Kotlin collection that can be changed. -/
def mutableCollection : List String :=
  ["add", "addAll", "clear", "contains", "containsAll", "isEmpty", "iterator", "remove",
   "removeAll", "retainAll"]

/-- The property of everything that has a size. -/
def sized : List String :=
  ["size"]

/-- The properties of a map. -/
def mapProperties : List String :=
  ["size", "entries", "keys", "values"]

/-- The properties of a map entry. -/
def entryProperties : List String :=
  ["key", "value"]

/-! ### The types -/

/-- The types of `java.lang`. -/
def javaLang : List Descriptor :=
  [
    classWith "java.lang.Object"
      ["equals", "hashCode", "toString", "getClass", "notify", "notifyAll", "wait"],
    classWith "java.lang.Byte" ["byteValue", "compareTo", "equals", "hashCode", "toString"]
      |> extending "java.lang.Number",
    classWith "java.lang.Short" ["shortValue", "compareTo", "equals", "hashCode", "toString"]
      |> extending "java.lang.Number",
    classWith "java.lang.Integer" ["intValue", "compareTo", "equals", "hashCode", "toString"]
      |> extending "java.lang.Number",
    classWith "java.lang.Long" ["longValue", "compareTo", "equals", "hashCode", "toString"]
      |> extending "java.lang.Number",
    classWith "java.lang.Character" ["charValue", "compareTo", "equals", "hashCode", "toString"],
    classWith "java.lang.Float"
      ["floatValue", "compareTo", "equals", "hashCode", "toString", "isNaN", "isInfinite"]
      |> extending "java.lang.Number",
    classWith "java.lang.Double"
      ["doubleValue", "compareTo", "equals", "hashCode", "toString", "isNaN", "isInfinite"]
      |> extending "java.lang.Number",
    classWith "java.lang.Boolean" ["booleanValue", "compareTo", "equals", "hashCode", "toString"],
    classWith "java.lang.String"
      ["charAt", "compareTo", "concat", "contains", "equals", "equalsIgnoreCase", "hashCode",
       "indexOf", "isEmpty", "length", "replace", "split", "startsWith", "substring",
       "toLowerCase", "toUpperCase", "trim", "toString"],
    interfaceWith "java.lang.CharSequence" ["charAt", "length", "subSequence", "toString"],
    classWith "java.lang.Throwable"
      ["getMessage", "getLocalizedMessage", "getCause", "printStackTrace", "getStackTrace",
       "toString"],
    interfaceWith "java.lang.Cloneable" [],
    interfaceWith "java.lang.Comparable" ["compareTo"],
    classWith "java.lang.Enum" ["name", "ordinal", "compareTo", "equals", "hashCode", "toString"],
    interfaceWith "java.lang.annotation.Annotation"
      ["annotationType", "equals", "hashCode", "toString"]]

/-- The types of `java.util`, and `java.lang.Iterable`. -/
def javaUtil : List Descriptor :=
  [
    interfaceWith "java.util.Iterator" ["hasNext", "next", "remove"],
    interfaceWith "java.lang.Iterable" ["iterator"],
    interfaceWith "java.util.Collection" javaCollection |> extending "java.lang.Iterable",
    interfaceWith "java.util.Set" javaCollection |> extending "java.util.Collection",
    interfaceWith "java.util.List"
      ["add", "addAll", "clear", "contains", "containsAll", "equals", "get", "hashCode",
       "indexOf", "isEmpty", "iterator", "lastIndexOf", "listIterator", "remove", "removeAll",
       "retainAll", "set", "size", "subList", "toArray"]
      |> extending "java.util.Collection",
    interfaceWith "java.util.ListIterator"
      ["hasNext", "hasPrevious", "next", "nextIndex", "previous", "previousIndex", "remove",
       "set", "add"]
      |> extending "java.util.Iterator",
    interfaceWith "java.util.Map"
      ["clear", "containsKey", "containsValue", "entrySet", "equals", "get", "hashCode",
       "isEmpty", "keySet", "put", "putAll", "remove", "size", "values"],
    interfaceWith "java.util.Map.Entry" ["getKey", "getValue", "setValue", "equals", "hashCode"]]

/-- The types of `kotlin`. -/
def kotlinBase : List Descriptor :=
  [
    classWith "kotlin.Any" ["equals", "hashCode", "toString"],
    classWith "kotlin.Byte" numberConversions,
    classWith "kotlin.Short" numberConversions,
    classWith "kotlin.Int" numberConversions,
    classWith "kotlin.Long" numberConversions,
    classWith "kotlin.Char"
      ["toChar", "toByte", "toShort", "toInt", "toLong", "toFloat", "toDouble", "compareTo",
       "equals", "hashCode", "toString"],
    classWith "kotlin.Float" floatingConversions,
    classWith "kotlin.Double" floatingConversions,
    classWith "kotlin.Boolean" comparableValue,
    classWith "kotlin.String"
      ["get", "compareTo", "equals", "hashCode", "toString", "substring", "startsWith",
       "endsWith", "indexOf", "lastIndexOf", "contains", "replace", "toLowerCase", "toUpperCase",
       "trim", "split"]
      |> having ["length"],
    interfaceWith "kotlin.CharSequence" ["get", "subSequence", "toString"] |> having ["length"],
    classWith "kotlin.Throwable" ["printStackTrace", "toString"]
      |> having ["message", "cause", "stackTrace"],
    interfaceWith "kotlin.Cloneable" [],
    interfaceWith "kotlin.Comparable" ["compareTo"],
    classWith "kotlin.Enum" comparableValue |> having ["name", "ordinal"],
    interfaceWith "kotlin.Annotation" []]

/-- The types of `kotlin.collections`. -/
def kotlinCollections : List Descriptor :=
  [
    interfaceWith "kotlin.collections.Iterator" ["hasNext", "next"],
    interfaceWith "kotlin.collections.Iterable" ["iterator"],
    interfaceWith "kotlin.collections.Collection" readCollection
      |> extending "kotlin.collections.Iterable" |> having sized,
    interfaceWith "kotlin.collections.Set" readCollection
      |> extending "kotlin.collections.Collection" |> having sized,
    interfaceWith "kotlin.collections.List"
      ["contains", "containsAll", "get", "indexOf", "isEmpty", "iterator", "lastIndexOf",
       "listIterator", "subList"]
      |> extending "kotlin.collections.Collection" |> having sized,
    interfaceWith "kotlin.collections.ListIterator"
      ["hasNext", "hasPrevious", "next", "nextIndex", "previous", "previousIndex"]
      |> extending "kotlin.collections.Iterator",
    interfaceWith "kotlin.collections.Map" ["containsKey", "containsValue", "get", "isEmpty"]
      |> having mapProperties,
    interfaceWith "kotlin.collections.Map.Entry" [] |> having entryProperties,
    interfaceWith "kotlin.collections.MutableIterator" ["hasNext", "next", "remove"]
      |> extending "kotlin.collections.Iterator",
    interfaceWith "kotlin.collections.MutableIterable" ["iterator"]
      |> extending "kotlin.collections.Iterable",
    interfaceWith "kotlin.collections.MutableCollection" mutableCollection
      |> extending "kotlin.collections.Collection" |> having sized,
    interfaceWith "kotlin.collections.MutableSet" mutableCollection
      |> extending "kotlin.collections.MutableCollection" |> having sized,
    interfaceWith "kotlin.collections.MutableList"
      ["add", "addAll", "clear", "contains", "containsAll", "get", "indexOf", "isEmpty",
       "iterator", "lastIndexOf", "listIterator", "remove", "removeAll", "removeAt", "retainAll",
       "set", "subList"]
      |> extending "kotlin.collections.MutableCollection" |> having sized,
    interfaceWith "kotlin.collections.MutableListIterator"
      ["add", "hasNext", "hasPrevious", "next", "nextIndex", "previous", "previousIndex",
       "remove", "set"]
      |> extending "kotlin.collections.ListIterator",
    interfaceWith "kotlin.collections.MutableMap"
      ["clear", "containsKey", "containsValue", "get", "isEmpty", "put", "putAll", "remove"]
      |> having mapProperties,
    interfaceWith "kotlin.collections.MutableMap.MutableEntry" ["setValue"]
      |> extending "kotlin.collections.Map.Entry" |> having entryProperties]

/-- **The standard types.** -/
def types : List Descriptor :=
  javaLang ++ javaUtil ++ kotlinBase ++ kotlinCollections

/-! ### The pairs -/

/-- **The documented mapped types**, in the order of the documentation. -/
def pairs : List MappingPair :=
  [
    ⟨"kotlin.Any", "java.lang.Object"⟩,
    ⟨"kotlin.Byte", "java.lang.Byte"⟩,
    ⟨"kotlin.Short", "java.lang.Short"⟩,
    ⟨"kotlin.Int", "java.lang.Integer"⟩,
    ⟨"kotlin.Long", "java.lang.Long"⟩,
    ⟨"kotlin.Char", "java.lang.Character"⟩,
    ⟨"kotlin.Float", "java.lang.Float"⟩,
    ⟨"kotlin.Double", "java.lang.Double"⟩,
    ⟨"kotlin.Boolean", "java.lang.Boolean"⟩,
    ⟨"kotlin.String", "java.lang.String"⟩,
    ⟨"kotlin.CharSequence", "java.lang.CharSequence"⟩,
    ⟨"kotlin.Throwable", "java.lang.Throwable"⟩,
    ⟨"kotlin.Cloneable", "java.lang.Cloneable"⟩,
    ⟨"kotlin.Comparable", "java.lang.Comparable"⟩,
    ⟨"kotlin.Enum", "java.lang.Enum"⟩,
    ⟨"kotlin.Annotation", "java.lang.annotation.Annotation"⟩,
    ⟨"kotlin.collections.Iterator", "java.util.Iterator"⟩,
    ⟨"kotlin.collections.Iterable", "java.lang.Iterable"⟩,
    ⟨"kotlin.collections.Collection", "java.util.Collection"⟩,
    ⟨"kotlin.collections.Set", "java.util.Set"⟩,
    ⟨"kotlin.collections.List", "java.util.List"⟩,
    ⟨"kotlin.collections.ListIterator", "java.util.ListIterator"⟩,
    ⟨"kotlin.collections.Map", "java.util.Map"⟩,
    ⟨"kotlin.collections.Map.Entry", "java.util.Map.Entry"⟩,
    ⟨"kotlin.collections.MutableIterator", "java.util.Iterator"⟩,
    ⟨"kotlin.collections.MutableIterable", "java.lang.Iterable"⟩,
    ⟨"kotlin.collections.MutableCollection", "java.util.Collection"⟩,
    ⟨"kotlin.collections.MutableSet", "java.util.Set"⟩,
    ⟨"kotlin.collections.MutableList", "java.util.List"⟩,
    ⟨"kotlin.collections.MutableListIterator", "java.util.ListIterator"⟩,
    ⟨"kotlin.collections.MutableMap", "java.util.Map"⟩,
    ⟨"kotlin.collections.MutableMap.MutableEntry", "java.util.Map.Entry"⟩]

end TwinTypes.Builtin
