import TwinTypes.Proofs.Stub.ReadBack
import TwinTypes.Proofs.Text.Joining

/-!
# What a stub shows can be told from it

A stub shows the package of a name, its simple name, the kind of the type, its supertype and its
members, and it shows them in full: two stubs that are the same show the same (`stubs_eq_iff`). The
reader of stubs finds less in them, as it passes over what it takes for comments.

Members are any texts, and a member may look like the end of a line, or like a whole line of another
sort. It is the lines that keep them apart: a stub falls into its lines again
(`TwinTypes.Text.intercalate_inj`), and a line begins and ends in the same way whatever member it
shows. So the one thing that the texts must not have is a line feed, and the one that a simple name
must not have is a blank, since what follows it on its line begins with one
(`TwinTypes.Legible`).

The two renderers differ in the members that they show and in three texts
(`TwinTypes.Layout`). What does not depend on these is settled once for both of them, in
`Layout.text_eq_iff`.
-/

namespace TwinTypes

/-! ### How a stub is laid out -/

/-- **What a stub can show line by line**: a name and a shape without line feeds, and a simple name
without blanks. The name that the shape carries is not shown. -/
structure Legible (name : String) (d : Descriptor) : Prop where
  /-- The name stays on one line. -/
  line : '\n' ∉ name.toList
  /-- The simple name goes on up to the first blank after it. -/
  simple : ' ' ∉ (simpleNameOf name).toList
  /-- The supertype stays on one line. -/
  supertype : ∀ s ∈ d.supertype, '\n' ∉ s.toList
  /-- Each property stays on one line. -/
  properties : ∀ p ∈ d.propertyList, '\n' ∉ p.toList
  /-- Each method stays on one line. -/
  methods : ∀ m ∈ d.methods, '\n' ∉ m.toList

/-- **What one renderer has of its own**: the end of the package line, what stands before the
keyword of a declaration, and what leads in the supertype. -/
structure Layout where
  /-- The end of the package line. -/
  terminator : String
  /-- What stands before the keyword. -/
  front : String
  /-- What leads in the supertype. -/
  lead : String
  /-- None of the three breaks a line. -/
  newline : '\n' ∉ terminator.toList ∧ '\n' ∉ front.toList ∧ '\n' ∉ lead.toList
  /-- What leads in the supertype is apart from the simple name. -/
  blank : lead.toList.head? = some ' '
  /-- A line that declares a type is no package line. -/
  apart : ∀ (kind : Kind) (package rest : String),
    "package " ++ package ++ terminator ≠ front ++ (kind.keyword ++ rest)

namespace Layout

/-- The layout of Java stubs. -/
def java : Layout where
  terminator := ";"
  front := "public "
  lead := " extends "
  newline := by decide
  blank := by decide
  apart kind package rest h := by
    have hlist := congrArg String.toList h
    simp at hlist

/-- The layout of Kotlin stubs. -/
def kotlin : Layout where
  terminator := ""
  front := ""
  lead := " : "
  newline := by decide
  blank := by decide
  apart kind package rest h := by
    have hlist := congrArg String.toList h
    cases kind <;> simp [Kind.keyword] at hlist

variable (layout : Layout)

/-- The line that declares a type. -/
def header (name : String) (d : Descriptor) : String :=
  layout.front ++ (d.kind.keyword ++
    (" " ++ simpleNameOf name ++ (supertypeClause layout.lead d ++ " \x7b")))

/-- The lines of a stub, given those of the members. -/
def lines (name : String) (d : Descriptor) (members : List String) : List String :=
  packageLines layout.terminator name ++ layout.header name d :: (members ++ ["\x7d"])

section Lines

variable {layout} {name name' : String} {d d' : Descriptor} {members members' : List String}

theorem newline_notMem_packageLines (h : Legible name d) :
    ∀ l ∈ packageLines layout.terminator name, '\n' ∉ l.toList := by
  rw [packageLines]
  cases hp : packageOf name with
  | none => simp
  | some package =>
    have hpackage : '\n' ∉ package.toList := fun hc => h.line (mem_of_mem_packageOf hp hc)
    simp [hpackage, layout.newline.1]

theorem newline_notMem_header (h : Legible name d) : '\n' ∉ (layout.header name d).toList := by
  have hkeyword : '\n' ∉ d.kind.keyword.toList := by cases d.kind <;> decide
  have hsimple : '\n' ∉ (simpleNameOf name).toList :=
    fun hc => h.line (mem_of_mem_simpleNameOf hc)
  have hclause : '\n' ∉ (supertypeClause layout.lead d).toList := by
    rw [supertypeClause]
    cases hs : d.supertype with
    | none => simp
    | some s => simp [layout.newline.2.2, h.supertype s hs]
  simp [header, layout.newline.2.1, hkeyword, hsimple, hclause]

/-- The lines of a stub are lines, if those of its members are. -/
theorem newline_notMem_lines (h : Legible name d) (hmembers : ∀ l ∈ members, '\n' ∉ l.toList) :
    ∀ l ∈ layout.lines name d members, '\n' ∉ l.toList := by
  intro l hl
  simp only [lines, List.mem_append, List.mem_cons, List.not_mem_nil, or_false] at hl
  rcases hl with hl | rfl | hl | rfl
  · exact newline_notMem_packageLines h l hl
  · exact newline_notMem_header h
  · exact hmembers l hl
  · decide

/-! ### What the lines show -/

/-- **The package lines show the package**: the line after them is no package line. -/
theorem packageLines_append_inj {more more' : List String}
    (h : packageLines layout.terminator name ++ layout.header name d :: more =
      packageLines layout.terminator name' ++ layout.header name' d' :: more') :
    packageOf name = packageOf name' ∧ layout.header name d = layout.header name' d' ∧
      more = more' := by
  rw [packageLines, packageLines] at h
  cases hp : packageOf name with
  | none =>
    cases hp' : packageOf name' with
    | none => simpa [hp, hp'] using h
    | some package' =>
      simp only [hp, hp', List.nil_append, List.cons_append, List.cons.injEq] at h
      exact absurd h.1.symm (layout.apart d.kind package' _)
  | some package =>
    cases hp' : packageOf name' with
    | none =>
      simp only [hp, hp', List.nil_append, List.cons_append, List.cons.injEq] at h
      exact absurd h.1 (layout.apart d'.kind package _)
    | some package' => simpa [hp, hp'] using h

/-- **The line that declares a type** shows what it declares: the keyword ends at the first blank,
and the simple name at the next one. -/
theorem header_inj (h : Legible name d) (h' : Legible name' d')
    (hheader : layout.header name d = layout.header name' d') :
    simpleNameOf name = simpleNameOf name' ∧ d.kind = d'.kind ∧ d.supertype = d'.supertype := by
  obtain ⟨tail, htail⟩ := exists_supertypeClause_eq layout.blank d
  obtain ⟨tail', htail'⟩ := exists_supertypeClause_eq layout.blank d'
  have hlist : d.kind.keyword.toList ++ ' ' :: ((simpleNameOf name).toList ++ ' ' :: tail) =
      d'.kind.keyword.toList ++ ' ' :: ((simpleNameOf name').toList ++ ' ' :: tail') := by
    have hfront := (String.append_right_inj _).mp hheader
    rw [← htail, ← htail']
    simpa using congrArg String.toList hfront
  obtain ⟨hkind, hrest⟩ := Kind.keyword_append_inj hlist
  obtain ⟨hsimple, htails⟩ := Text.append_cons_inj h.simple h'.simple hrest
  have hclause : supertypeClause layout.lead d ++ " \x7b" =
      supertypeClause layout.lead d' ++ " \x7b" := by
    apply String.toList_injective
    rw [htail, htail', htails]
  refine ⟨String.toList_injective hsimple, hkind, ?_⟩
  have hsame := (String.append_left_inj _).mp hclause
  have hlead : layout.lead ≠ "" := fun hempty => by simpa [hempty] using layout.blank
  rw [supertypeClause, supertypeClause] at hsame
  cases hs : d.supertype <;> cases hs' : d'.supertype <;> simp_all

/-- **What a stub shows** can be told from its text, and it shows nothing else. -/
theorem text_eq_iff (h : Legible name d) (h' : Legible name' d')
    (hmembers : ∀ l ∈ members, '\n' ∉ l.toList) (hmembers' : ∀ l ∈ members', '\n' ∉ l.toList) :
    String.intercalate "\n" (layout.lines name d members) =
        String.intercalate "\n" (layout.lines name' d' members') ↔
      packageOf name = packageOf name' ∧ simpleNameOf name = simpleNameOf name' ∧
        d.kind = d'.kind ∧ d.supertype = d'.supertype ∧ members = members' := by
  constructor
  · intro htext
    have hlines : layout.lines name d members = layout.lines name' d' members' :=
      Text.intercalate_inj rfl (by simp [lines]) (by simp [lines])
        (newline_notMem_lines h hmembers) (newline_notMem_lines h' hmembers') htext
    obtain ⟨hpackage, hheader, hmore⟩ := packageLines_append_inj hlines
    obtain ⟨hsimple, hkind, hsupertype⟩ := header_inj h h' hheader
    exact ⟨hpackage, hsimple, hkind, hsupertype, List.append_cancel_right hmore⟩
  · rintro ⟨hpackage, hsimple, hkind, hsupertype, rfl⟩
    rw [lines, lines, header, header, packageLines, packageLines, supertypeClause, supertypeClause,
      hpackage, hsimple, hkind, hsupertype]

end Lines

end Layout

/-! ### What the members show -/

theorem javaLines_eq (name : String) (d : Descriptor) :
    javaLines name d = Layout.java.lines name d (d.methods.map javaMethodLine) := by
  simp [javaLines, Layout.lines, Layout.header, Layout.java, javaHeader, String.append_assoc]

theorem kotlinLines_eq (name : String) (d : Descriptor) : kotlinLines name d =
    Layout.kotlin.lines name d
      (d.propertyList.map kotlinPropertyLine ++ d.methods.map kotlinMethodLine) := by
  simp [kotlinLines, Layout.lines, Layout.header, Layout.kotlin, kotlinHeader, String.append_assoc]

/-- What stands between two fixed texts is known by the whole. -/
theorem between_injective (front back : String) :
    Function.Injective fun s => front ++ s ++ back := by
  intro s s' h
  simpa using h

/-- The line of a property is not that of a method. -/
theorem kotlinPropertyLine_ne (property method : String) :
    kotlinPropertyLine property ≠ kotlinMethodLine method := by
  intro h
  have hlist := congrArg String.toList h
  simp [kotlinPropertyLine, kotlinMethodLine] at hlist

/-- **Lines of two sorts, one after the other**, show what they were made of. -/
theorem map_append_map_inj {f g : String → String} (hf : Function.Injective f)
    (hg : Function.Injective g) (hfg : ∀ x y, f x ≠ g y) {xs xs' ys ys' : List String}
    (h : xs.map f ++ ys.map g = xs'.map f ++ ys'.map g) : xs = xs' ∧ ys = ys' := by
  induction xs generalizing xs' with
  | nil =>
    cases xs' with
    | nil => exact ⟨rfl, List.map_injective_iff.mpr hg (by simpa using h)⟩
    | cons x' xs' =>
      cases ys with
      | nil => simp at h
      | cons y ys => exact absurd (List.head_eq_of_cons_eq h).symm (hfg x' y)
  | cons x xs ih =>
    cases xs' with
    | nil =>
      cases ys' with
      | nil => simp at h
      | cons y' ys' => exact absurd (List.head_eq_of_cons_eq h) (hfg x y')
    | cons x' xs' =>
      simp only [List.map_cons, List.cons_append, List.cons.injEq] at h
      obtain ⟨rfl, hys⟩ := ih h.2
      rw [hf h.1]
      exact ⟨rfl, hys⟩

section Members

variable {name name' : String} {d d' : Descriptor}

theorem Legible.newline_notMem_java (h : Legible name d) :
    ∀ l ∈ d.methods.map javaMethodLine, '\n' ∉ l.toList := by
  intro l hl
  obtain ⟨m, hm, rfl⟩ := List.mem_map.mp hl
  simp [javaMethodLine, h.methods m hm]

theorem Legible.newline_notMem_kotlin (h : Legible name d) :
    ∀ l ∈ d.propertyList.map kotlinPropertyLine ++ d.methods.map kotlinMethodLine,
      '\n' ∉ l.toList := by
  intro l hl
  rcases List.mem_append.mp hl with hl | hl
  · obtain ⟨p, hp, rfl⟩ := List.mem_map.mp hl
    simp [kotlinPropertyLine, h.properties p hp]
  · obtain ⟨m, hm, rfl⟩ := List.mem_map.mp hl
    simp [kotlinMethodLine, h.methods m hm]

/-- **Stubs are lossless.** Of a name a stub shows the package and the simple name, and of a shape
the kind, the supertype – also that there is none – and the members in order and with repeats, a
Java stub none but the methods. Stubs that show the same are the same, and those that are the same
show the same. -/
theorem stubs_eq_iff (h : Legible name d) (h' : Legible name' d') :
    (kotlinStub name d = kotlinStub name' d' ↔
        packageOf name = packageOf name' ∧ simpleNameOf name = simpleNameOf name' ∧
          d.kind = d'.kind ∧ d.supertype = d'.supertype ∧ d.propertyList = d'.propertyList ∧
          d.methods = d'.methods) ∧
      (javaStub name d = javaStub name' d' ↔
        packageOf name = packageOf name' ∧ simpleNameOf name = simpleNameOf name' ∧
          d.kind = d'.kind ∧ d.supertype = d'.supertype ∧ d.methods = d'.methods) := by
  have hmembers : d.propertyList.map kotlinPropertyLine ++ d.methods.map kotlinMethodLine =
        d'.propertyList.map kotlinPropertyLine ++ d'.methods.map kotlinMethodLine ↔
      d.propertyList = d'.propertyList ∧ d.methods = d'.methods := by
    refine ⟨map_append_map_inj (between_injective _ _) (between_injective _ _)
      kotlinPropertyLine_ne, ?_⟩
    rintro ⟨hproperties, hmethods⟩
    rw [hproperties, hmethods]
  have hmethods : d.methods.map javaMethodLine = d'.methods.map javaMethodLine ↔
      d.methods = d'.methods :=
    ⟨fun hmap => List.map_injective_iff.mpr (between_injective _ _) hmap, congrArg _⟩
  constructor
  · rw [kotlinStub, kotlinStub, kotlinLines_eq, kotlinLines_eq,
      Layout.text_eq_iff h h' h.newline_notMem_kotlin h'.newline_notMem_kotlin, hmembers]
  · rw [javaStub, javaStub, javaLines_eq, javaLines_eq,
      Layout.text_eq_iff h h' h.newline_notMem_java h'.newline_notMem_java, hmethods]

end Members

/-- A shape with a property of this name and a method that looks like the end of a stub. -/
def lookalike (property : String) : Descriptor :=
  ⟨"K", .classKind, some "", ["() // method \x7d"], some [property]⟩

theorem legible_lookalike {property : String} (h : '\n' ∉ property.toList) :
    Legible "p.K" (lookalike property) where
  line := by decide
  simple := by decide
  supertype := by simp [lookalike]
  properties := by simpa [lookalike, Descriptor.propertyList] using h
  methods := by simp [lookalike]

/-- A property that ends like the line of a property is still another one, and Java stubs show
neither. -/
theorem stubs_eq_iff_lookalike :
    Legible "p.K" (lookalike "x") ∧ Legible "p.K" (lookalike "x: Any // property") ∧
      kotlinStub "p.K" (lookalike "x") ≠ kotlinStub "p.K" (lookalike "x: Any // property") ∧
      javaStub "p.K" (lookalike "x") = javaStub "p.K" (lookalike "x: Any // property") := by
  have h := legible_lookalike (by decide : '\n' ∉ "x".toList)
  have h' := legible_lookalike (by decide : '\n' ∉ "x: Any // property".toList)
  obtain ⟨hkotlin, hjava⟩ := stubs_eq_iff h h'
  refine ⟨h, h', fun hstub => ?_, hjava.mpr ⟨rfl, rfl, rfl, rfl, rfl⟩⟩
  obtain ⟨-, -, -, -, hproperties, -⟩ := hkotlin.mp hstub
  exact absurd hproperties (by decide)

/-- With a blank in the simple name, or a line feed in a name, a stub does not say where the name
ends. -/
example : kotlinStub "K : S" ⟨"", .classKind, none, [], none⟩ =
      kotlinStub "K" ⟨"", .classKind, some "S", [], none⟩ ∧
    kotlinStub "p.K\n\nclass" ⟨"", .classKind, some ": S", [], none⟩ =
      kotlinStub "p\n\nclass K.:" ⟨"", .classKind, some "S", [], none⟩ := by decide +kernel

end TwinTypes
