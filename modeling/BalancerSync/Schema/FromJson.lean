import BalancerSync.Schema.Shape

/-!
# Decoding data by a shape

Decodes a JSON value by a shape. An object's fields are visited in key order and the first
failure wins; fields the shape does not name are passed over, whatever they hold. After the
fields, the first field in declaration order that was neither given nor defaulted is missing.
A record may also be given as an array of its field values in declaration order; missing
trailing values take their defaults, and more values than fields are refused.
-/

namespace BalancerSync.Schema

/-- How deep shapes nest, at most: the decoders recurse at most this far. -/
def nestingBound : Nat := 64

mutual

/-- Decodes a value by a shape. -/
def decodeJson : Nat → Shape → Json → Except String Json
  | 0, _, _ => .error "recursion limit exceeded"
  | fuel + 1, shape, value =>
    let wrong := fun (_ : Unit) => Except.error (invalidType (Unexpected.ofJson value).describe shape)
    match shape, value with
    | .text, .string s => .ok (.string s)
    | .flag, .bool b => .ok (.bool b)
    | .integer w, .number n => checkInteger Unexpected.describe w n
    | .ipAddress, .string s => checkIp s
    | .list item, .array items => (decodeItems fuel item items).map .array
    | .optional _, .null => .ok .null
    | .optional inner, v => decodeJson fuel inner v
    | .record _ fields, .object kvs =>
      match decodeFields fuel fields kvs with
      | .ok got => completeFields fields got
      | .error e => .error e
    | .record name fields, .array items =>
      match decodePositional fuel name fields.length fields items 0 with
      | .error e => .error e
      | .ok got =>
        if items.length > fields.length then
          .error (invalidLength items.length "fewer elements in array")
        else completeFields fields got
    | _, _ => wrong ()

/-- Decodes the items of an array, in order. -/
def decodeItems : Nat → Shape → List Json → Except String (List Json)
  | _, _, [] => .ok []
  | fuel, shape, v :: rest => do
    let d ← decodeJson fuel shape v
    let ds ← decodeItems fuel shape rest
    pure (d :: ds)

/-- Decodes the fields of an object that a record names, in the object's order. -/
def decodeFields : Nat → List (String × Shape × Option Json) → List (String × Json) →
    Except String (List (String × Json))
  | _, _, [] => .ok []
  | fuel, fields, (key, v) :: rest =>
    match findField fields key with
    | some (shape, _) => do
      let d ← decodeJson fuel shape v
      let ds ← decodeFields fuel fields rest
      pure ((key, d) :: ds)
    | none => decodeFields fuel fields rest

/-- Decodes the values of a record given as an array, field by field. -/
def decodePositional : Nat → String → Nat → List (String × Shape × Option Json) → List Json → Nat →
    Except String (List (String × Json))
  | _, _, _, [], _, _ => .ok []
  | fuel, name, count, (key, shape, dflt) :: rest, items, index =>
    match items with
    | v :: more => do
      let d ← decodeJson fuel shape v
      let ds ← decodePositional fuel name count rest more (index + 1)
      pure ((key, d) :: ds)
    | [] =>
      match dflt with
      | some d => do
        let ds ← decodePositional fuel name count rest [] (index + 1)
        pure ((key, d) :: ds)
      | none => .error (invalidLength index (recordLength name count))

end

/-- Decodes a value by a shape, with the nesting bound as fuel. -/
def Shape.decodeValue (shape : Shape) (value : Json) : Except String Json :=
  decodeJson nestingBound shape value

end BalancerSync.Schema
