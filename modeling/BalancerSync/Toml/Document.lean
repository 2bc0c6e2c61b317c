/-!
# TOML documents

A TOML document is a root table of items.  An item is a value, a table or an array of
tables.  Values are strings, integers, floats, booleans, date-times, arrays and inline
tables.  Every value, and every table opened by a header, remembers the byte range of the
document it came from, so that a later failure can point at it; a table that only dotted keys
or a deeper header created remembers the range of the key that created it.

Tables are built the way a document defines them, line by line, and the rules on
redefinition are checked as they are built:

* a key may be given once in a table;
* a table header may name a table only once, unless earlier headers or dotted keys only
  created it on the way to a deeper table (an implicit table);
* dotted keys may extend tables they created themselves, but not tables opened by a
  header, and not values;
* a header may not reopen a table that dotted keys created.
-/

namespace BalancerSync.Toml

/-- A byte range of the document: from `start` up to, not including, `stop`. -/
structure Span where
  start : Nat
  stop : Nat
deriving DecidableEq, Repr, Inhabited

/-- A key: its name, its text as written (quotes included), and where it was written. -/
structure Key where
  name : String
  raw : String
  span : Span
deriving DecidableEq, Repr, Inhabited

/-- A value. -/
inductive Value where
  | string (text : String) (span : Span)
  | integer (value : Int) (span : Span)
  | float (value : Float) (span : Span)
  | boolean (value : Bool) (span : Span)
  | datetime (text : String) (span : Span)
  | array (items : List Value) (span : Span)
  /-- An inline table; `dotted` when dotted keys created it inside another one. -/
  | inlineTable (entries : List (String × Value)) (dotted : Bool) (span : Option Span)
deriving Inhabited

namespace Value

/-- The byte range a value came from. -/
def span? : Value → Option Span
  | .string _ s | .integer _ s | .float _ s | .boolean _ s | .datetime _ s | .array _ s => some s
  | .inlineTable _ _ s => s

/-- The name of a value's type, as messages write it. -/
def typeName : Value → String
  | .string .. => "string"
  | .integer .. => "integer"
  | .float .. => "float"
  | .boolean .. => "boolean"
  | .datetime .. => "datetime"
  | .array .. => "array"
  | .inlineTable .. => "inline table"

end Value

/-- An item of a table. -/
inductive Item where
  | value (v : Value)
  /-- A table: `implicit` when only created on the way to a deeper one, `dotted` when
  dotted keys created it. -/
  | table (entries : List (String × Item)) (implicit dotted : Bool) (span : Option Span)
  /-- An array of tables, each member a table. -/
  | tables (members : List Item) (span : Option Span)
deriving Inhabited

/-- Why a document's structure is refused. -/
inductive Conflict where
  /-- A key given twice, in a table named by its path (none when no path is told). -/
  | duplicateKey (key : String) (table : Option (List String))
  /-- Dotted keys that would extend a value. -/
  | extendsValue (path : List String) (actual : String)
  /-- A value out of its range. -/
  | outOfRange
  /-- Arrays and inline tables nested too deep. -/
  | tooDeep
deriving Repr, Inhabited

/-- The message of a conflict. -/
def Conflict.message : Conflict → String
  | .duplicateKey key none => "duplicate key `" ++ key ++ "`"
  | .duplicateKey key (some []) => "duplicate key `" ++ key ++ "` in document root"
  | .duplicateKey key (some path) =>
    "duplicate key `" ++ key ++ "` in table `" ++ ".".intercalate path ++ "`"
  | .extendsValue path actual =>
    "dotted key `" ++ ".".intercalate path ++ "` attempted to extend non-table type (" ++
      actual ++ ")"
  | .outOfRange => "value is out of range"
  | .tooDeep => "recursion limit exceeded"

/-- Replace the entry under a key, or add it at the end. -/
def setEntry {α : Type} (entries : List (String × α)) (key : String) (item : α) :
    List (String × α) :=
  if (entries.lookup key).isSome then entries.map fun e => if e.1 = key then (key, item) else e
  else entries ++ [(key, item)]

/-- Remove the entry under a key. -/
def removeEntry {α : Type} (entries : List (String × α)) (key : String) : List (String × α) :=
  entries.filter (·.1 != key)

/-- A table being filled: its entries and how it was made. -/
structure OpenTable where
  entries : List (String × Item) := []
  implicit : Bool := false
  dotted : Bool := false
  span : Option Span := none
deriving Inhabited

/-- The table item of an open table. -/
def OpenTable.item (t : OpenTable) : Item := .table t.entries t.implicit t.dotted t.span

/-- The open view of a table item found under a key: the item itself, or the last
member of an array of tables. -/
def OpenTable.ofItem? : Item → Option OpenTable
  | .table es imp dot sp => some { entries := es, implicit := imp, dotted := dot, span := sp }
  | .tables members _ =>
    match members.getLast? with
    | some (.table es imp dot sp) => some { entries := es, implicit := imp, dotted := dot, span := sp }
    | _ => some {}
  | .value _ => none

/-- Put a changed table back under a key where `previous` was: in place of a table, or as
the last member of an array of tables. -/
def OpenTable.replacing (t : OpenTable) : Option Item → Item
  | some (.tables members sp) => .tables (members.dropLast ++ [t.item]) sp
  | _ => t.item

/-- Apply `change` to the table at the end of `path` below `table`, creating implicit tables
(dotted ones when `dotted`) where the path has none yet, and entering the last member of
arrays of tables.  `walked` is the part of the path already walked, for messages. -/
def descendInto {β : Type} (dotted : Bool) (walked : List Key) :
    List Key → OpenTable → (OpenTable → Except Conflict (OpenTable × β)) →
    Except Conflict (OpenTable × β)
  | [], table, change => change table
  | key :: rest, table, change => do
    let previous := table.entries.lookup key.name
    let child ← match previous with
      | none => .ok ({ implicit := true, dotted := dotted, span := some key.span } : OpenTable)
      | some (.value v) => .error (.extendsValue ((walked ++ [key]).map (·.name)) v.typeName)
      | some (.table es imp dot sp) =>
        if dotted && !imp then .error (.duplicateKey key.name none)
        else .ok { entries := es, implicit := imp, dotted := dot, span := sp }
      | some item => .ok ((OpenTable.ofItem? item).getD {})
    let (changed, out) ← descendInto dotted (walked ++ [key]) rest child change
    .ok ({ table with entries := setEntry table.entries key.name (changed.replacing previous) }, out)

/-- The conflict of a header naming a table again: the key as written, in the table its
path leads to. -/
def redefined (path : List Key) (key : Key) : Conflict :=
  .duplicateKey key.raw (some (path.map (·.name)))

/-- A document being read: the root so far, the table the latest header opened (the root
before any header), its path, and whether that header opened a member of an array of
tables. -/
structure Builder where
  document : OpenTable := {}
  current : OpenTable := { span := some ⟨0, 0⟩ }
  currentPath : List Key := []
  currentIsArray : Bool := false
deriving Inhabited

namespace Builder

/-- A key and value line: the value goes under the key, below the dotted path before it,
in the open table.  The open table's range grows to the value's end. -/
def addKeyValue (b : Builder) (path : List Key) (key : Key) (value : Value) :
    Except Conflict Builder := do
  let current := match b.current.span, value.span? with
    | some existing, some v => { b.current with span := some ⟨existing.start, v.stop⟩ }
    | _, _ => b.current
  let (current, ()) ← descendInto true [] path current fun table => do
    if table.dotted == path.isEmpty then throw (.duplicateKey key.name none)
    if (table.entries.lookup key.name).isSome then
      throw (.duplicateKey key.name (some (b.currentPath.map (·.name))))
    .ok ({ table with entries := table.entries ++ [(key.name, .value value)] }, ())
  .ok { b with current := current }

/-- Close the open table: put it in the document under its path. -/
def finish (b : Builder) : Except Conflict Builder :=
  match b.currentPath.getLast?, b.currentPath.dropLast with
  | none, _ => .ok { b with document := b.current, current := {} }
  | some key, parentPath => do
    let table := b.current
    let (document, ()) ← descendInto false [] parentPath b.document fun parent =>
      let previous := parent.entries.lookup key.name
      if b.currentIsArray then
        match previous with
        | none => .ok ({ parent with entries := parent.entries ++ [(key.name, .tables [table.item] table.span)] }, ())
        | some (.tables members _) =>
          let members := members ++ [table.item]
          let firstSpan := match members.head? with
            | some (.table _ _ _ sp) => sp
            | _ => none
          let span := match firstSpan, table.span with
            | some first, some last => some ⟨first.start, last.stop⟩
            | _, _ => none
          .ok ({ parent with entries := setEntry parent.entries key.name (.tables members span) }, ())
        | some _ => .error (redefined parentPath key)
      else
        match previous with
        | none => .ok ({ parent with entries := parent.entries ++ [(key.name, table.item)] }, ())
        | some (.table _ true _ _) =>
          .ok ({ parent with entries := setEntry parent.entries key.name table.item }, ())
        | some _ => .error (redefined parentPath key)
    .ok { b with document := document, current := {}, currentPath := [] }

/-- A `[path]` header: close the open table and open the one the path names, taking over an
implicit table already there. -/
def openTable (b : Builder) (path : List Key) (span : Span) : Except Conflict Builder := do
  let b ← b.finish
  match path.getLast? with
  | none => .error (.duplicateKey "" none)
  | some key =>
    let parentPath := path.dropLast
    let (document, found) ← descendInto false [] parentPath b.document fun parent =>
      match parent.entries.lookup key.name with
      | none => .ok (parent, none)
      | some (.table es true false _) =>
        .ok ({ parent with entries := removeEntry parent.entries key.name }, some es)
      | some _ => .error (redefined parentPath key)
    .ok { document := document, current := { entries := found.getD [], span := some span },
          currentPath := path, currentIsArray := false }

/-- A `[[path]]` header: close the open table and open a new member of the array of tables
the path names. -/
def openArrayMember (b : Builder) (path : List Key) (span : Span) : Except Conflict Builder := do
  let b ← b.finish
  match path.getLast? with
  | none => .error (.duplicateKey "" none)
  | some key =>
    let parentPath := path.dropLast
    let (document, ()) ← descendInto false [] parentPath b.document fun parent =>
      match parent.entries.lookup key.name with
      | none => .ok ({ parent with entries := parent.entries ++ [(key.name, .tables [] none)] }, ())
      | some (.tables ..) => .ok (parent, ())
      | some _ => .error (redefined parentPath key)
    .ok { document := document, current := { span := some span }, currentPath := path,
          currentIsArray := true }

end Builder

/-- Put a key and value into an inline table: below the dotted path before the key,
creating dotted inline tables on the way and entering those dotted keys made before.  A
dotted key may not pass through an inline table written out (its step is a duplicate key),
and in the table the key lands in, dotted keys may not add to one written out, nor plain
keys to one dotted keys made. -/
def insertInline (walked : List Key) :
    List Key → Bool → List (String × Value) → Key → Value → Except Conflict (List (String × Value))
  | [], dotted, entries, key, value =>
    if dotted == walked.isEmpty then .error (.duplicateKey key.name none)
    else if (entries.lookup key.name).isSome then .error (.duplicateKey key.name none)
    else .ok (entries ++ [(key.name, value)])
  | step :: rest, _, entries, key, value => do
    match entries.lookup step.name with
    | none =>
      let inner ← insertInline (walked ++ [step]) rest true [] key value
      .ok (entries ++ [(step.name, .inlineTable inner true (some step.span))])
    | some (.inlineTable es dot sp) =>
      if !dot then .error (.duplicateKey step.name none)
      else
        let inner ← insertInline (walked ++ [step]) rest dot es key value
        .ok (setEntry entries step.name (.inlineTable inner dot sp))
    | some v => .error (.extendsValue ((walked ++ [step]).map (·.name)) v.typeName)

end BalancerSync.Toml
