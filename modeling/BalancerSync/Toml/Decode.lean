import BalancerSync.Toml.Parser
import BalancerSync.Schema.Shape
import BalancerSync.Decimal.Shortest

/-!
# Decoding TOML documents by a shape

A document is decoded the way a reader of self-describing data visits it: strings, integers,
floats and booleans are scalars, arrays and arrays of tables are sequences, tables and inline
tables are maps, and a date-time is a map with one private key holding its text.

A record takes a map entry by entry in the document's order, passing over keys it does not
name, then fills the fields left out with their defaults.  A record also takes a sequence,
field by field in declaration order; values left over are passed over.

A failure points at the innermost value that has a place in the document: the value itself,
or, for a table created only on the way to another, the key that created it.  It also
names the keys that lead to the failing value; items of sequences add none.
-/

namespace BalancerSync.Toml

open BalancerSync.Schema

/-- A document's value as a decoder sees it. -/
inductive Node where
  | text (s : String)
  | int (n : Int)
  | real (x : Float)
  | flag (b : Bool)
  | seq (items : List (Node × Option Span))
  | map (entries : List (String × Node × Option Span))
deriving Inhabited

/-- The key under which a date-time's text is handed over. -/
def datetimeKey : String := "$__toml_private_datetime"

mutual

/-- The node of a value. -/
def Value.node : Value → Node
  | .string s _ => .text s
  | .integer n _ => .int n
  | .float x _ => .real x
  | .boolean b _ => .flag b
  | .datetime text span => .map [(datetimeKey, .text text, some span)]
  | .array items _ => .seq (valueNodes items)
  | .inlineTable entries _ _ => .map (valueEntries entries)

/-- The nodes of array items, with their places. -/
def valueNodes : List Value → List (Node × Option Span)
  | [] => []
  | v :: rest => (v.node, v.span?) :: valueNodes rest

/-- The nodes of inline table entries, with their places. -/
def valueEntries : List (String × Value) → List (String × Node × Option Span)
  | [] => []
  | (key, v) :: rest => (key, v.node, v.span?) :: valueEntries rest

end

/-- The place of an item in the document. -/
def Item.span? : Item → Option Span
  | .value v => v.span?
  | .table _ _ _ span => span
  | .tables _ span => span

mutual

/-- The node of an item. -/
def Item.node : Item → Node
  | .value v => v.node
  | .table entries _ _ _ => .map (itemEntries entries)
  | .tables members _ => .seq (itemNodes members)

/-- The nodes of the members of an array of tables, with their places. -/
def itemNodes : List Item → List (Node × Option Span)
  | [] => []
  | item :: rest => (item.node, item.span?) :: itemNodes rest

/-- The nodes of table entries, with their places. -/
def itemEntries : List (String × Item) → List (String × Node × Option Span)
  | [] => []
  | (key, item) :: rest => (key, item.node, item.span?) :: itemEntries rest

end

/-- Why decoding failed, the place of the innermost value that has one, and the keys from
the root table down to the failing value. -/
structure DecodeError where
  message : String
  span : Option Span := none
  keys : List String := []
deriving Repr, Inhabited

/-- Give a failure a place unless it has one already. -/
def DecodeError.placed (span : Option Span) (e : DecodeError) : DecodeError :=
  if e.span.isSome then e else { e with span := span }

/-- A float as the messages write it: plain digits, with `.0` added to a whole number. -/
def pointedText (x : Float) : String :=
  let text := Decimal.plainText x
  if x.isFinite && !text.toList.contains '.' then text ++ ".0" else text

/-- What a decoder found, worded for a message. -/
def Node.found : Node → String
  | .text s => Unexpected.describe (.str s)
  | .int n => Unexpected.describe (.signed n)
  | .real x => "floating point `" ++ pointedText x ++ "`"
  | .flag b => Unexpected.describe (.bool b)
  | .seq _ => "sequence"
  | .map _ => "map"

/-- How deep shapes nest, at most. -/
def shapeDepth : Nat := 64

mutual

/-- Decode a node by a shape. -/
def decodeNode : Nat → Shape → Node → Except DecodeError Json
  | 0, _, _ => .error { message := Conflict.tooDeep.message }
  | fuel + 1, shape, node =>
    match shape, node with
    | .text, .text s => .ok (.string s)
    | .flag, .flag b => .ok (.bool b)
    | .integer w, .int n =>
      if w.fits n then .ok (.number (Number.ofInt n))
      else .error { message := invalidValue node.found w.name }
    | .ipAddress, .text s => (checkIp s).mapError fun m => { message := m }
    | .list item, .seq items => (decodeItems fuel item items).map .array
    | .optional inner, _ => decodeNode fuel inner node
    | .record _ fields, .map entries => do
      let got ← decodeEntries fuel fields entries
      (completeFields fields got).mapError fun m => { message := m }
    | .record name fields, .seq items => do
      let got ← decodeInOrder fuel name fields.length fields items 0
      (completeFields fields got).mapError fun m => { message := m }
    | _, _ => .error { message := invalidType node.found shape }

/-- Decode the items of a sequence, in order. -/
def decodeItems : Nat → Shape → List (Node × Option Span) → Except DecodeError (List Json)
  | _, _, [] => .ok []
  | fuel, shape, (node, span) :: rest => do
    let d ← (decodeNode fuel shape node).mapError (DecodeError.placed span)
    let ds ← decodeItems fuel shape rest
    .ok (d :: ds)

/-- Decode the entries of a map that a record names, in the map's order. -/
def decodeEntries : Nat → List (String × Shape × Option Json) →
    List (String × Node × Option Span) → Except DecodeError (List (String × Json))
  | _, _, [] => .ok []
  | fuel, fields, (key, node, span) :: rest =>
    match findField fields key with
    | some (shape, _) => do
      let d ← (decodeNode fuel shape node).mapError fun e =>
        { e.placed span with keys := key :: e.keys }
      let ds ← decodeEntries fuel fields rest
      .ok ((key, d) :: ds)
    | none => decodeEntries fuel fields rest

/-- Decode a record's fields from the items of a sequence, one item a field; fields past
the last item take their defaults. -/
def decodeInOrder : Nat → String → Nat → List (String × Shape × Option Json) →
    List (Node × Option Span) → Nat → Except DecodeError (List (String × Json))
  | _, _, _, [], _, _ => .ok []
  | fuel, name, count, (key, shape, fallback) :: rest, items, index =>
    match items with
    | (node, span) :: more => do
      let d ← (decodeNode fuel shape node).mapError (DecodeError.placed span)
      let ds ← decodeInOrder fuel name count rest more (index + 1)
      .ok ((key, d) :: ds)
    | [] =>
      match fallback with
      | some d => do
        let ds ← decodeInOrder fuel name count rest [] (index + 1)
        .ok ((key, d) :: ds)
      | none => .error { message := invalidLength index (recordLength name count) }

end

/-- Decode the root table of a document by a shape; a failure with no place of its own
points at the root table. -/
def decodeDocument (shape : Shape) (root : OpenTable) : Except DecodeError Json :=
  (decodeNode shapeDepth shape root.item.node).mapError (DecodeError.placed root.span)

end BalancerSync.Toml
