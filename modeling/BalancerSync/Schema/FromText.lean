import BalancerSync.Schema.FromJson
import BalancerSync.Json.Text

/-!
# Decoding a document text by a shape

Decodes JSON text by a shape in one pass, in document order, so the first problem met in the
text is the one reported, with its line and column. A value of the wrong kind is read to its
end before it is reported (a string or number, which is then shown), or reported at its
opening bracket (an array or object). A failure found by the decoder rather than by the text
(a missing field, an address that does not parse) is placed where the reader stands when the
enclosing value has been closed, or once the failing scalar is read.

Fields that the shape does not name are skipped at any depth. A key given twice fails at the
second occurrence.
-/

namespace BalancerSync.Schema

open Json (Source Failure Step)

/-- Places a failure that the decoder raised at the reader's index `i`. -/
def placeAt (f : Failure) (i : Nat) : Failure :=
  match f.reportedAt with
  | some _ => f
  | none => { f with reportedAt := some i, stoppedAt := i }

/-- A decoder's own failure, not yet placed, raised with the reader at `i`. -/
def unplaced (message : String) (i : Nat) : Failure := ⟨message, none, i⟩

/-- Where the reader stands after trying to close a value at `i` with the byte `close`: past
the closing byte when it is next, else past the blank before it. -/
def afterClosing (src : Source) (close : UInt8) (i : Nat) : Nat :=
  let k := src.skipBlank i
  if src.at? k == some close then k + 1 else k

/-- The failure for a value of the wrong kind at `k` (its first byte): the value is read first
when it is a keyword, a number or a string. -/
def wrongKind (src : Source) (shape : Shape) (k : Nat) : Failure :=
  let found := fun (word : String) (j : Nat) => (⟨invalidType word shape, some j, j⟩ : Failure)
  match src.at? k with
  | some 110 => match src.ident [117, 108, 108] (k + 1) with
    | .ok j => found "null" j
    | .error e => e
  | some 116 => match src.ident [114, 117, 101] (k + 1) with
    | .ok j => found "boolean `true`" j
    | .error e => e
  | some 102 => match src.ident [97, 108, 115, 101] (k + 1) with
    | .ok j => found "boolean `false`" j
    | .error e => e
  | some 45 => match src.readNumber false (k + 1) with
    | .ok (n, j) => found (Unexpected.ofNumber n).describe j
    | .error e => e
  | some 34 => match src.readString (k + 1) with
    | .ok (s, j) => found (Unexpected.str s).describe j
    | .error e => e
  | some 91 => found "sequence" k
  | some 123 => found "map" k
  | some b =>
    if Json.Source.isDigit b then
      match src.readNumber true k with
      | .ok (n, j) => found (Unexpected.ofNumber n).describe j
      | .error e => e
    else src.peekFail .expectedSomeValue k
  | none => src.peekFail .expectedSomeValue k

mutual

/-- Decodes one value by a shape at `i` (blank allowed before it). -/
def decodeText (src : Source) : Nat → Shape → Nat → Step Json
  | 0, _, i => .error (src.fail .recursionLimitExceeded i)
  | fuel + 1, shape, i =>
    let k := src.skipBlank i
    match src.at? k with
    | none => .error (src.peekFail .eofWhileParsingValue k)
    | some b =>
      match shape with
      | .text =>
        if b == 34 then (src.readString (k + 1)).map (fun (s, j) => (.string s, j))
        else .error (wrongKind src shape k)
      | .flag =>
        if b == 116 then (src.ident [114, 117, 101] (k + 1)).map (fun j => (.bool true, j))
        else if b == 102 then (src.ident [97, 108, 115, 101] (k + 1)).map (fun j => (.bool false, j))
        else .error (wrongKind src shape k)
      | .integer w =>
        let number :=
          if b == 45 then some (src.readNumber false (k + 1))
          else if Json.Source.isDigit b then some (src.readNumber true k)
          else none
        match number with
        | some (.ok (n, j)) =>
          match checkInteger Unexpected.describe w n with
          | .ok v => .ok (v, j)
          | .error msg => .error ⟨msg, some j, j⟩
        | some (.error e) => .error e
        | none => .error (wrongKind src shape k)
      | .ipAddress =>
        if b == 34 then
          match src.readString (k + 1) with
          | .ok (s, j) =>
            match checkIp s with
            | .ok v => .ok (v, j)
            | .error msg => .error ⟨msg, some j, j⟩
          | .error e => .error e
        else .error (wrongKind src shape k)
      | .optional inner =>
        if b == 110 then (src.ident [117, 108, 108] (k + 1)).map (fun j => (.null, j))
        else decodeText src fuel inner k
      | .list item =>
        if b == 91 then
          match decodeTextItems src fuel item (src.bytes.size + 1) true [] (k + 1) with
          | .ok (items, j) =>
            match src.closeArray j with
            | .ok m => .ok (.array items, m)
            | .error e => .error e
          | .error e => .error (placeAt e (afterClosing src 93 e.stoppedAt))
        else .error (wrongKind src shape k)
      | .record name fields =>
        if b == 91 then
          match decodeTextPositional src fuel name fields.length fields 0 (k + 1) with
          | .ok (got, j) =>
            match src.closeArray j with
            | .ok m =>
              match completeFields fields got with
              | .ok v => .ok (v, m)
              | .error msg => .error ⟨msg, some m, m⟩
            | .error e => .error e
          | .error e => .error (placeAt e (afterClosing src 93 e.stoppedAt))
        else if b == 123 then
          match decodeTextFields src fuel fields (src.bytes.size + 1) true [] (k + 1) with
          | .ok (got, j) =>
            match completeFields fields got with
            | .ok v =>
              match src.closeObject j with
              | .ok m => .ok (v, m)
              | .error e => .error e
            | .error msg => .error ⟨msg, some (afterClosing src 125 j), afterClosing src 125 j⟩
          | .error e => .error (placeAt e (afterClosing src 125 e.stoppedAt))
        else .error (wrongKind src shape k)

/-- Decodes the items of an array up to its closing bracket. -/
def decodeTextItems (src : Source) (fuel : Nat) (item : Shape) :
    Nat → Bool → List Json → Nat → Step (List Json)
  | 0, _, acc, i => .ok (acc.reverse, i)
  | loop + 1, first, acc, i =>
    match src.nextItem first i with
    | .error e => .error e
    | .ok (none, j) => .ok (acc.reverse, j)
    | .ok (some (), j) =>
      match decodeText src fuel item j with
      | .ok (v, k) => decodeTextItems src fuel item loop false (v :: acc) k
      | .error e => .error e

/-- Decodes the fields of an object up to its closing brace, in document order. -/
def decodeTextFields (src : Source) (fuel : Nat) (fields : List (String × Shape × Option Json)) :
    Nat → Bool → List (String × Json) → Nat → Step (List (String × Json))
  | 0, _, acc, i => .ok (acc.reverse, i)
  | loop + 1, first, acc, i =>
    match src.nextKey first i with
    | .error e => .error e
    | .ok (none, j) => .ok (acc.reverse, j)
    | .ok (some key, j) =>
      match findField fields key with
      | some (shape, _) =>
        if (acc.lookup key).isSome then .error (unplaced (duplicateField key) j) else
        match src.colon j with
        | .error e => .error e
        | .ok c =>
          match decodeText src fuel shape c with
          | .ok (v, k) => decodeTextFields src fuel fields loop false ((key, v) :: acc) k
          | .error e => .error e
      | none =>
        match src.colon j with
        | .error e => .error e
        | .ok c =>
          match src.skipValue c with
          | .ok k => decodeTextFields src fuel fields loop false acc k
          | .error e => .error e

/-- Decodes a record given as an array, field by field; stops at the closing bracket. -/
def decodeTextPositional (src : Source) (fuel : Nat) (name : String) (count : Nat) :
    List (String × Shape × Option Json) → Nat → Nat → Step (List (String × Json))
  | [], _, i => .ok ([], i)
  | (key, shape, dflt) :: rest, index, i =>
    match src.nextItem (index == 0) i with
    | .error e => .error e
    | .ok (some (), j) =>
      match decodeText src fuel shape j with
      | .ok (v, k) =>
        match decodeTextPositional src fuel name count rest (index + 1) k with
        | .ok (more, m) => .ok ((key, v) :: more, m)
        | .error e => .error e
      | .error e => .error e
    | .ok (none, j) =>
      match dflt with
      | some d =>
        match decodeTextPositional src fuel name count rest (index + 1) j with
        | .ok (more, m) => .ok ((key, d) :: more, m)
        | .error e => .error e
      | none => .error (unplaced (invalidLength index (recordLength name count)) j)

end

/-- Decodes a whole document text by a shape: one value, then nothing but blank. The message
of a failure carries its line and column. -/
def Shape.decodeDocument (shape : Shape) (text : String) : Except Json.Located Json :=
  let src : Source := ⟨text.toUTF8⟩
  match decodeText src nestingBound shape 0 with
  | .error e => .error (src.locate e)
  | .ok (v, i) =>
    match src.finish i with
    | .ok () => .ok v
    | .error e => .error (src.locate e)

end BalancerSync.Schema
