import BalancerSync.Json.Value
import BalancerSync.Net.IpAddr
import BalancerSync.Text.Quote

/-!
# Shapes of decoded data

A `Shape` says what a decoder expects: a string, a boolean, an integer of a width, an IP
address, a list, an optional value, or a record of named fields, some with defaults. Decoding a
document by a shape yields the data in normal form: records become objects with every field
present and keys sorted, IP addresses their canonical text.

Failures are worded by what was expected and what was found: `invalid type: null, expected a
string`, `invalid value: integer `-1`, expected u64`, `missing field `Port``.
-/

namespace BalancerSync.Schema

/-- An integer width with its range. -/
inductive Width where
  | i32 | i64 | u64
  deriving DecidableEq, Repr

/-- The name of a width, as messages write it. -/
def Width.name : Width → String
  | .i32 => "i32" | .i64 => "i64" | .u64 => "u64"

/-- An integer fits a width. -/
def Width.fits : Width → Int → Bool
  | .i32, n => -2147483648 ≤ n && n ≤ 2147483647
  | .i64, n => -9223372036854775808 ≤ n && n ≤ 9223372036854775807
  | .u64, n => 0 ≤ n && n ≤ 18446744073709551615

/-- What a decoder expects. -/
inductive Shape where
  | text
  | flag
  | integer (width : Width)
  | ipAddress
  | list (item : Shape)
  | optional (inner : Shape)
  /-- A record: its name and its fields in declaration order, each with its default when the
  field may be left out. -/
  | record (name : String) (fields : List (String × Shape × Option Json))
  deriving Inhabited

/-- What a shape is called in a message. -/
def Shape.expecting : Shape → String
  | .text => "a string"
  | .flag => "a boolean"
  | .integer w => w.name
  | .ipAddress => "IP address"
  | .list _ => "a sequence"
  | .optional inner => inner.expecting
  | .record name _ => "struct " ++ name

/-- What a decoder found instead of what it expected. -/
inductive Unexpected where
  | bool (value : Bool)
  | unsigned (value : Nat)
  | signed (value : Int)
  | float (value : Float)
  | str (value : String)
  | null
  | seq
  | map

/-- How a document reader words a found value. -/
def Unexpected.describe : Unexpected → String
  | .bool b => "boolean `" ++ (if b then "true" else "false") ++ "`"
  | .unsigned n => "integer `" ++ toString n ++ "`"
  | .signed n => "integer `" ++ toString n ++ "`"
  | .float x => "floating point `" ++ Decimal.documentText x ++ "`"
  | .str s => "string " ++ Text.quoted s
  | .null => "null"
  | .seq => "sequence"
  | .map => "map"

/-- What a number is when it is not what was expected. -/
def Unexpected.ofNumber : Number → Unexpected
  | .natural n => .unsigned n
  | .negative n => .signed n
  | .float x => .float x

/-- What a value is when it is not what was expected. -/
def Unexpected.ofJson : Json → Unexpected
  | .null => .null
  | .bool b => .bool b
  | .number n => .ofNumber n
  | .string s => .str s
  | .array _ => .seq
  | .object _ => .map

/-- `invalid type: <found>, expected <shape>`. -/
def invalidType (found : String) (shape : Shape) : String :=
  "invalid type: " ++ found ++ ", expected " ++ shape.expecting

/-- `invalid value: <found>, expected <what>`. -/
def invalidValue (found : String) (what : String) : String :=
  "invalid value: " ++ found ++ ", expected " ++ what

/-- `invalid length <n>, expected <what>`. -/
def invalidLength (n : Nat) (what : String) : String :=
  "invalid length " ++ toString n ++ ", expected " ++ what

/-- `missing field `<key>``. -/
def missingField (key : String) : String :=
  "missing field `" ++ key ++ "`"

/-- `duplicate field `<key>``. -/
def duplicateField (key : String) : String :=
  "duplicate field `" ++ key ++ "`"

/-- What an array form of a record must hold: `struct <name> with <n> elements`. -/
def recordLength (name : String) (count : Nat) : String :=
  "struct " ++ name ++ " with " ++ toString count ++ " elements"

/-- Checks a number against an integer width: a whole number in range is kept, one out of
range is an invalid value, a double an invalid type. Found values are worded by `word`. -/
def checkInteger (word : Unexpected → String) (w : Width) (n : Number) : Except String Json :=
  match n with
  | .natural v =>
    if w.fits v then .ok (.number n) else .error (invalidValue (word (.unsigned v)) w.name)
  | .negative v =>
    if w.fits v then .ok (.number n) else .error (invalidValue (word (.signed v)) w.name)
  | .float x => .error (invalidType (word (.float x)) (.integer w))

/-- Reads the text of an IP address into its canonical text. -/
def checkIp (s : String) : Except String Json :=
  match Net.IpAddr.parse? s with
  | some ip => .ok (.string ip.text)
  | none => .error Net.IpAddr.syntaxMessage

/-- The field of a record's fields that a key names. -/
def findField (fields : List (String × Shape × Option Json)) (key : String) :
    Option (Shape × Option Json) :=
  (fields.find? (fun f => f.1 == key)).map (·.2)

/-- Completes decoded fields with defaults: the first field in declaration order that is
neither decoded nor defaulted is missing. -/
def completeFields (fields : List (String × Shape × Option Json)) (got : List (String × Json)) :
    Except String Json :=
  let step := fun (acc : Except String (List (String × Json))) (f : String × Shape × Option Json) =>
    match acc with
    | .error e => .error e
    | .ok done =>
      match got.lookup f.1, f.2.2 with
      | some v, _ => .ok ((f.1, v) :: done)
      | none, some d => .ok ((f.1, d) :: done)
      | none, none => .error (missingField f.1)
  (fields.foldl step (.ok [])).map Json.mkObject

end BalancerSync.Schema
