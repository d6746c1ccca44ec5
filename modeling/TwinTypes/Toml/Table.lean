import TwinTypes.Data.Value
import TwinTypes.Toml.Parser

/-!
# Tables

What a TOML document is built from: a table whose entries are values, tables and lists of tables. A
table may be there only because a longer key goes through it; such a table is `implicit`, and may
still be given a header of its own. One that dotted keys made is `dotted`, and may not.
-/

namespace TwinTypes.Toml

mutual

/-- An entry of a table. -/
inductive Item where
  /-- A value that is no inline table, with the name of its type in messages. -/
  | value (typeName : String) (v : Value)
  /-- An inline table. -/
  | inline (t : Table)
  /-- A table. -/
  | table (t : Table)
  /-- A list of tables that came under a header each. -/
  | tables (ts : List Table)

/-- A table. -/
inductive Table where
  /-- Its flags and its entries, in the order in which they were first named. -/
  | mk (implicit dotted : Bool) (entries : List (String × Item))

end

namespace Table

/-- Whether the table is there only because a longer key goes through it. -/
def isImplicit : Table → Bool
  | mk implicit _ _ => implicit

/-- Whether dotted keys made the table. -/
def isDotted : Table → Bool
  | mk _ dotted _ => dotted

/-- The entries. -/
def entries : Table → List (String × Item)
  | mk _ _ entries => entries

/-- The table with other entries. -/
def withEntries (t : Table) (entries : List (String × Item)) : Table :=
  mk t.isImplicit t.isDotted entries

/-- A table without entries. -/
def blank : Table :=
  mk false false []

instance : Inhabited Table :=
  ⟨blank⟩

/-- The entry under a key. -/
def get? (t : Table) (key : String) : Option Item :=
  (t.entries.find? fun e => e.1 == key).map Prod.snd

/-- The table with an entry under a key; one that is there already keeps its place. -/
def set (t : Table) (key : String) (item : Item) : Table :=
  if t.entries.any fun e => e.1 == key then
    t.withEntries (t.entries.map fun e => if e.1 == key then (key, item) else e)
  else t.withEntries (t.entries ++ [(key, item)])

/-- The table without the entry under a key. -/
def erase (t : Table) (key : String) : Table :=
  t.withEntries (t.entries.filter fun e => e.1 != key)

end Table

/-! ### Values -/

mutual

/-- The value of an entry. -/
def Item.toValue : Item → Value
  | .value _ v => v
  | .inline t => t.toValue
  | .table t => t.toValue
  | .tables ts => .list (tableValues ts)

/-- The value of a table. -/
def Table.toValue : Table → Value
  | .mk _ _ entries => .record (entryValues entries)

/-- The values of some tables. -/
def tableValues : List Table → List Value
  | [] => []
  | t :: rest => t.toValue :: tableValues rest

/-- The fields that some entries come to. -/
def entryValues : List (String × Item) → List (Value × Value)
  | [] => []
  | e :: rest => entryValue e :: entryValues rest

/-- The field that an entry comes to. -/
def entryValue : String × Item → Value × Value
  | (key, item) => (.text key, item.toValue)

end

/-- The name of the type of a value in messages. -/
def Item.typeName : Item → String
  | .value typeName _ => typeName
  | .inline _ => "inline table"
  | .table _ => "table"
  | .tables _ => "array of tables"

/-! ### What can go wrong -/

/-- The complaint about a key that is there already, in a table whose path is known. -/
def repeatedIn (key : String) (path : List String) : Problem :=
  .because ("duplicate key `" ++ key ++ "` in " ++
    (if path.isEmpty then "document root" else "table `" ++ String.intercalate "." path ++ "`"))

/-- The complaint about a key that is there already. -/
def repeatedKey (key : String) : Problem :=
  .because ("duplicate key `" ++ key ++ "`")

/-- The complaint about a key that goes through something that is no table. -/
def throughValue (path : List String) (item : Item) : Problem :=
  .because ("dotted key `" ++ String.intercalate "." path
    ++ "` attempted to extend non-table type (" ++ item.typeName ++ ")")

/-! ### Following a path -/

/-- Changes the last of some tables. -/
def changeLast (change : Table → Except Problem Table) : List Table → Except Problem (List Table)
  | [] => .ok []
  | [t] => do pure [← change t]
  | t :: rest => do pure (t :: (← changeLast change rest))

/-- Changes the table that a path leads to, making tables on the way where there are none. Through a
list of tables the way goes by its last one. `dotted` says that the path is part of a dotted key,
which cannot go through a table that has a header; `before` is the path so far. -/
def changeAt (dotted : Bool) (change : Table → Except Problem Table) (before : List String) :
    List String → Table → Except Problem Table
  | [], t => change t
  | key :: path, t =>
    let here := before ++ [key]
    match t.get? key with
    | none => do
      let made ← changeAt dotted change here path (.mk true dotted [])
      pure (t.set key (.table made))
    | some (.table inner) =>
      if dotted && !inner.isImplicit then .error (repeatedKey key)
      else do
        let changed ← changeAt dotted change here path inner
        pure (t.set key (.table changed))
    | some (.tables ts) => do
      let changed ← changeLast (changeAt dotted change here path) ts
      pure (t.set key (.tables changed))
    | some item => .error (throughValue here item)

/-- Adds an entry under a dotted key to an inline table. -/
def addInline (item : Item) (last : String) (before : List String) :
    List String → Table → Except Problem Table
  | [], t =>
    if t.isDotted == before.isEmpty then .error (repeatedKey last)
    else if (t.get? last).isSome then .error (repeatedKey last)
    else .ok (t.set last item)
  | key :: path, t =>
    let here := before ++ [key]
    match t.get? key with
    | none => do
      let made ← addInline item last here path (.mk true true [])
      pure (t.set key (.inline made))
    | some (.inline inner) =>
      if !inner.isImplicit then .error (repeatedKey key)
      else do
        let changed ← addInline item last here path inner
        pure (t.set key (.inline changed))
    | some other => .error (throughValue here other)

/-! ### Documents -/

/-- A document under construction. The entries after a header are gathered apart and put into the
document when the next header comes. -/
structure Draft where
  /-- The document. -/
  root : Table
  /-- The entries since the last header. -/
  current : Table
  /-- The key of the last header, empty before the first. -/
  path : List String
  /-- Whether the last header was that of one of several tables. -/
  isElement : Bool
  deriving Inhabited

namespace Draft

/-- A document without entries. -/
def start : Draft :=
  ⟨.blank, .blank, [], false⟩

/-- Puts the entries since the last header into the document. -/
def settle (d : Draft) : Except Problem Draft :=
  match d.path.getLast? with
  | none => .ok { d with root := d.current, current := .blank }
  | some last => do
    let place (parent : Table) : Except Problem Table :=
      if d.isElement then
        match parent.get? last with
        | none => .ok (parent.set last (.tables [d.current]))
        | some (.tables ts) => .ok (parent.set last (.tables (ts ++ [d.current])))
        | some _ => .error (repeatedIn last d.path.dropLast)
      else
        match parent.get? last with
        | none => .ok (parent.set last (.table d.current))
        | some (.table t) =>
          if t.isImplicit then .ok (parent.set last (.table d.current))
          else .error (repeatedIn last d.path.dropLast)
        | some _ => .error (repeatedIn last d.path.dropLast)
    let root ← changeAt false place [] d.path.dropLast d.root
    pure { d with root := root, current := .blank }

/-- Adds an entry under a dotted key. -/
def addEntry (d : Draft) (path : List String) (last : String) (item : Item) :
    Except Problem Draft := do
  let add (t : Table) : Except Problem Table :=
    if t.isDotted == path.isEmpty then .error (repeatedKey last)
    else if (t.get? last).isSome then .error (repeatedIn last d.path)
    else .ok (t.set last item)
  let current ← changeAt true add [] path d.current
  pure { d with current := current }

/-- The entries of the table that a path leads to, none if it leads to no table. -/
def heldAt : List String → Table → List (String × Item)
  | [], t => t.entries
  | key :: path, t =>
    match t.get? key with
    | some (.table inner) => heldAt path inner
    | some (.tables ts) => heldAt path (ts.getLast?.getD .blank)
    | _ => []

/-- Begins a table under a header. The table may be there already if nothing but longer keys made
it; it is taken out of the document until the next header. -/
def beginTable (d : Draft) (path : List String) : Except Problem Draft := do
  let d ← d.settle
  let last := path.getLast?.getD ""
  let take (parent : Table) : Except Problem Table :=
    match parent.get? last with
    | none => .ok parent
    | some (.table t) =>
      if t.isImplicit && !t.isDotted then .ok (parent.erase last)
      else .error (repeatedIn last path.dropLast)
    | some _ => .error (repeatedIn last path.dropLast)
  let root ← changeAt false take [] path.dropLast d.root
  pure ⟨root, .mk false false (heldAt path d.root), path, false⟩

/-- Begins one of several tables under a header. -/
def beginElement (d : Draft) (path : List String) : Except Problem Draft := do
  let d ← d.settle
  let last := path.getLast?.getD ""
  let make (parent : Table) : Except Problem Table :=
    match parent.get? last with
    | none => .ok (parent.set last (.tables []))
    | some (.tables _) => .ok parent
    | some _ => .error (repeatedIn last path.dropLast)
  let root ← changeAt false make [] path.dropLast d.root
  pure ⟨root, .blank, path, true⟩

end Draft

end TwinTypes.Toml
