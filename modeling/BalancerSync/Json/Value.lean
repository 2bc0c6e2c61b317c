import BalancerSync.Decimal.Shortest

/-!
# JSON values

The JSON data model the program works in. A number keeps the kind it was read as: a whole
number that fits 64 unsigned bits, a negative whole number that fits 64 signed bits, or a
double; a decoder that wants a 32-bit port answers differently to `80`, `-80` and `80.0`.
An object is a list of fields; the values that stand for documents keep their keys sorted
and unique, as `Json.object` builds them.
-/

namespace BalancerSync

/-- A JSON number, by the kind it was read as. -/
inductive Number where
  /-- A whole number in `0 .. 2^64 - 1`. -/
  | natural (value : Nat)
  /-- A negative whole number in `-2^63 .. -1`. -/
  | negative (value : Int)
  /-- A double. -/
  | float (value : Float)
  deriving Inhabited

/-- A JSON value. -/
inductive Json where
  | null
  | bool (value : Bool)
  | number (value : Number)
  | string (value : String)
  | array (items : List Json)
  | object (fields : List (String × Json))
  deriving Inhabited

namespace Number

/-- The number as a double, as arithmetic comparisons see it. -/
def toFloat : Number → Float
  | .natural n => Float.ofNat n
  | .negative n => -(Float.ofNat n.natAbs)
  | .float x => x

/-- The number as a signed 64-bit integer, when it is whole and in range. -/
def toInt64? : Number → Option Int
  | .natural n => if n < Nat.pow 2 63 then some n else none
  | .negative n => some n
  | .float _ => none

/-- The number of a signed 64-bit integer. -/
def ofInt (n : Int) : Number :=
  if n < 0 then .negative n else .natural n.toNat

/-- Text of a number in a document: whole numbers in decimal, doubles by their shortest
digits. -/
def text : Number → String
  | .natural n => Decimal.digitText n
  | .negative n => "-" ++ Decimal.digitText n.natAbs
  | .float x => Decimal.documentText x

/-- Equality of numbers as documents compare them: the kinds must agree. -/
def same : Number → Number → Bool
  | .natural a, .natural b => a == b
  | .negative a, .negative b => a == b
  | .float a, .float b => a == b
  | _, _ => false

end Number

namespace Json

/-- Sorted insertion of a field, replacing a field of the same key. -/
def insertField (key : String) (value : Json) : List (String × Json) → List (String × Json)
  | [] => [(key, value)]
  | (k, v) :: rest =>
    if key < k then (key, value) :: (k, v) :: rest
    else if key == k then (key, value) :: rest
    else (k, v) :: insertField key value rest

/-- An object from fields in any order; a later field replaces an earlier one of the same
key, and the result has sorted, unique keys. -/
def mkObject (fields : List (String × Json)) : Json :=
  .object (fields.foldl (fun acc field => insertField field.1 field.2 acc) [])

/-- The value under a key of an object. -/
def get? (value : Json) (key : String) : Option Json :=
  match value with
  | .object fields => fields.lookup key
  | _ => none

/-- The text of a string value. -/
def str? : Json → Option String
  | .string s => some s
  | _ => none

/-- The integer of a whole-number value. -/
def int? : Json → Option Int
  | .number (.natural n) => some n
  | .number (.negative n) => some n
  | _ => none

/-- The items of an array value. -/
def items? : Json → Option (List Json)
  | .array items => some items
  | _ => none

/-- A JSON number of a signed integer. -/
def int (n : Int) : Json := .number (Number.ofInt n)

/-- A JSON number of a natural number. -/
def nat (n : Nat) : Json := .number (.natural n)

/-- The four hexadecimal digits of a code unit below `0x10000`. -/
def hex4 (n : Nat) : String :=
  let digit (d : Nat) : Char := if d < 10 then Char.ofNat (48 + d) else Char.ofNat (87 + d)
  String.ofList [digit (n / 4096 % 16), digit (n / 256 % 16), digit (n / 16 % 16), digit (n % 16)]

/-- A character as it is written inside a quoted document string. -/
def escapeChar (c : Char) : String :=
  match c with
  | '"' => "\\\""
  | '\\' => "\\\\"
  | '\n' => "\\n"
  | '\r' => "\\r"
  | '\t' => "\\t"
  | '\x08' => "\\b"
  | '\x0c' => "\\f"
  | _ => if c.toNat < 0x20 then "\\u" ++ hex4 c.toNat else String.singleton c

/-- A string quoted as a document writes it. -/
def quote (s : String) : String :=
  "\"" ++ String.join (s.toList.map escapeChar) ++ "\""

mutual

/-- Compact document text of a value. -/
def render : Json → String
  | .null => "null"
  | .bool b => if b then "true" else "false"
  | .number n => n.text
  | .string s => quote s
  | .array items => "[" ++ renderItems items ++ "]"
  | .object fields => "\x7b" ++ renderFields fields ++ "\x7d"

/-- Comma-separated document text of array items. -/
def renderItems : List Json → String
  | [] => ""
  | [item] => render item
  | item :: rest => render item ++ "," ++ renderItems rest

/-- Comma-separated document text of object fields. -/
def renderFields : List (String × Json) → String
  | [] => ""
  | [(k, v)] => quote k ++ ":" ++ render v
  | (k, v) :: rest => quote k ++ ":" ++ render v ++ "," ++ renderFields rest

end

mutual

/-- Equality of values as documents compare them. -/
def same : Json → Json → Bool
  | .null, .null => true
  | .bool a, .bool b => a == b
  | .number a, .number b => a.same b
  | .string a, .string b => a == b
  | .array a, .array b => sameItems a b
  | .object a, .object b => sameFields a b
  | _, _ => false

/-- Pointwise equality of item lists. -/
def sameItems : List Json → List Json → Bool
  | [], [] => true
  | a :: as, b :: bs => same a b && sameItems as bs
  | _, _ => false

/-- Pointwise equality of field lists. -/
def sameFields : List (String × Json) → List (String × Json) → Bool
  | [], [] => true
  | (ka, a) :: as, (kb, b) :: bs => ka == kb && same a b && sameFields as bs
  | _, _ => false

end

end Json

end BalancerSync
