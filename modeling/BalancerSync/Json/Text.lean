import BalancerSync.Json.Value
import BalancerSync.Text.Quote

/-!
# Reading JSON text

A reader of JSON documents over UTF-8 bytes that reports each failure with the line and the
byte column where it is found. Two positions are used: a problem found at the byte just read is
reported at the reader's index, one found by looking at the next byte is reported one byte
further, never past the end. Lines start after each line feed; columns count bytes from the
start of the line.

Numbers are read as whole numbers while their digits fit 64 bits; a longer number, a fraction
or an exponent makes a double, computed from the first digits that fit and one scaling by a
power of ten. `-0` reads as the double negative zero.
-/

namespace BalancerSync.Json

/-- What went wrong in a document text. -/
inductive Problem where
  | eofWhileParsingList
  | eofWhileParsingObject
  | eofWhileParsingString
  | eofWhileParsingValue
  | expectedColon
  | expectedListCommaOrEnd
  | expectedObjectCommaOrEnd
  | expectedSomeIdent
  | expectedSomeValue
  | invalidEscape
  | invalidNumber
  | numberOutOfRange
  | controlCharacterWhileParsingString
  | keyMustBeAString
  | loneLeadingSurrogateInHexEscape
  | trailingComma
  | trailingCharacters
  | unexpectedEndOfHexEscape
  | recursionLimitExceeded
  deriving Repr, DecidableEq

/-- The wording of a problem. -/
def Problem.message : Problem → String
  | .eofWhileParsingList => "EOF while parsing a list"
  | .eofWhileParsingObject => "EOF while parsing an object"
  | .eofWhileParsingString => "EOF while parsing a string"
  | .eofWhileParsingValue => "EOF while parsing a value"
  | .expectedColon => "expected `:`"
  | .expectedListCommaOrEnd => "expected `,` or `]`"
  | .expectedObjectCommaOrEnd => "expected `,` or `\x7d`"
  | .expectedSomeIdent => "expected ident"
  | .expectedSomeValue => "expected value"
  | .invalidEscape => "invalid escape"
  | .invalidNumber => "invalid number"
  | .numberOutOfRange => "number out of range"
  | .controlCharacterWhileParsingString =>
    "control character (\\u0000-\\u001F) found while parsing a string"
  | .keyMustBeAString => "key must be a string"
  | .loneLeadingSurrogateInHexEscape => "lone leading surrogate in hex escape"
  | .trailingComma => "trailing comma"
  | .trailingCharacters => "trailing characters"
  | .unexpectedEndOfHexEscape => "unexpected end of hex escape"
  | .recursionLimitExceeded => "recursion limit exceeded"

/-- A failure while reading: its message, the byte index it is reported at (none while a
decoder has not yet placed it), and the reader's index when it surfaced. -/
structure Failure where
  message : String
  reportedAt : Option Nat
  stoppedAt : Nat
  deriving Repr

/-- A failure to read a document, with the line and column it was found at; both are zero
when it has no place. -/
structure Located where
  message : String
  line : Nat
  column : Nat
  deriving Repr, Inhabited

/-- `message at line L column C`, or the message alone when it has no place. -/
def Located.text (e : Located) : String :=
  if e.line = 0 then e.message
  else e.message ++ " at line " ++ toString e.line ++ " column " ++ toString e.column

/-- The debug view: `Error("message", line: L, column: C)`. -/
def Located.debug (e : Located) : String :=
  "Error(" ++ Text.quoted e.message ++ ", line: " ++ toString e.line ++ ", column: " ++
    toString e.column ++ ")"

/-- A step of the reader: a result and the index after it, or a failure. -/
abbrev Step (α : Type) := Except Failure (α × Nat)

/-- A text of the document as UTF-8 bytes. -/
structure Source where
  bytes : ByteArray

namespace Source

/-- The byte at an index, if the text has one there. -/
def at? (src : Source) (i : Nat) : Option UInt8 :=
  if h : i < src.bytes.size then some src.bytes[i] else none

/-- The byte at an index, or zero past the end. -/
def atOrNull (src : Source) (i : Nat) : UInt8 :=
  (src.at? i).getD 0

/-- A problem found at the byte just read. -/
def fail (_src : Source) (p : Problem) (i : Nat) : Failure :=
  ⟨p.message, some i, i⟩

/-- A problem found by looking at the next byte. -/
def peekFail (src : Source) (p : Problem) (i : Nat) : Failure :=
  ⟨p.message, some (min src.bytes.size (i + 1)), i⟩

/-- Line and column of a byte index: lines count line feeds before the line's start, columns
count bytes from it. -/
def position (src : Source) (i : Nat) : Nat × Nat :=
  let before := (src.bytes.extract 0 i).toList
  let lineStart := (before.zipIdx.filter (fun p => p.1 == 10)).getLast?.map (·.2 + 1)
  let start := lineStart.getD 0
  let lines := ((before.take start).filter (· == 10)).length
  (lines + 1, i - start)

/-- A failure with its place in the document: line and column, both zero when it has none. -/
def locate (src : Source) (f : Failure) : Located :=
  match f.reportedAt with
  | none => ⟨f.message, 0, 0⟩
  | some i =>
    let (line, column) := src.position i
    ⟨f.message, line, column⟩

/-- The full message of a failure: `message at line L column C` once it is placed. -/
def describe (src : Source) (f : Failure) : String := (src.locate f).text

/-- Skips spaces, tabs, line feeds and carriage returns. -/
def skipBlank (src : Source) (i : Nat) : Nat :=
  go (src.bytes.size + 1) i
where
  go : Nat → Nat → Nat
    | 0, j => j
    | fuel + 1, j =>
      match src.at? j with
      | some b => if b == 32 || b == 10 || b == 9 || b == 13 then go fuel (j + 1) else j
      | none => j

/-- Reads the rest of a keyword, one byte after another. -/
def ident (src : Source) (rest : List UInt8) (i : Nat) : Except Failure Nat :=
  match rest with
  | [] => .ok i
  | b :: more =>
    match src.at? i with
    | none => .error (src.fail .eofWhileParsingValue (i))
    | some c => if c == b then ident src more (i + 1) else .error (src.fail .expectedSomeIdent (i + 1))

/-- A byte is an ASCII digit. -/
def isDigit (b : UInt8) : Bool := 48 ≤ b && b ≤ 57

/-- The largest 64-bit unsigned number. -/
def maxU64 : Nat := Nat.pow 2 64 - 1

/-- Ten to a power as a correctly rounded double, for powers up to 308. -/
def pow10 (k : Nat) : Float := Float.ofScientific 1 false k

/-- A double from a significand and a decimal exponent: the significand rounded to a double,
then scaled once by a power of ten; beyond 308 the scaling is split. -/
def scaleFloat (src : Source) (positive : Bool) (significand : Nat) (exponent : Int) (i : Nat) :
    Except Failure Float :=
  go 40 (Float.ofNat significand) exponent
where
  go : Nat → Float → Int → Except Failure Float
    | 0, f, _ => .ok (if positive then f else -f)
    | fuel + 1, f, e =>
      if e.natAbs ≤ 308 then
        if e ≥ 0 then
          let g := f * pow10 e.natAbs
          if g.isInf then .error (src.fail .numberOutOfRange i) else .ok (if positive then g else -g)
        else
          let g := f / pow10 e.natAbs
          .ok (if positive then g else -g)
      else if f == 0.0 then .ok (if positive then f else -f)
      else if e ≥ 0 then .error (src.fail .numberOutOfRange i)
      else go fuel (f / 1e308) (e + 308)

/-- Skips digits. -/
def skipDigits (src : Source) (i : Nat) : Nat :=
  go (src.bytes.size + 1) i
where
  go : Nat → Nat → Nat
    | 0, j => j
    | fuel + 1, j => if isDigit (src.atOrNull j) then go fuel (j + 1) else j

/-- Reads an exponent after `e` or `E` at index `i`, then makes the double. -/
def readExponent (src : Source) (positive : Bool) (significand : Nat) (start : Int) (i : Nat) :
    Step Float :=
  let j := i + 1
  let (positiveExp, k) :=
    match src.atOrNull j with
    | 43 => (true, j + 1)
    | 45 => (false, j + 1)
    | _ => (true, j)
  match src.at? k with
  | none => .error (src.fail .eofWhileParsingValue k)
  | some first =>
    if !isDigit first then .error (src.fail .invalidNumber (k + 1)) else
    let stop := src.skipDigits (k + 1)
    let digits : Nat := (src.bytes.extract k stop).toList.foldl (fun acc b => acc * 10 + (b - 48).toNat) 0
    if digits > 2147483647 then
      if significand != 0 && positiveExp then
        -- the reader stops at the digit that overflows
        let overflowAt := (List.range (stop - k)).find? (fun n =>
          (src.bytes.extract k (k + n + 1)).toList.foldl (fun (acc : Nat) b => acc * 10 + (b - 48).toNat) 0
            > 2147483647)
        .error (src.fail .numberOutOfRange (k + (overflowAt.getD 0) + 1))
      else .ok (if positive then 0.0 else -0.0, stop)
    else
      let e : Int := if positiveExp then start + (digits : Int) else start - (digits : Int)
      match scaleFloat src positive significand e stop with
      | .ok f => .ok (f, stop)
      | .error err => .error err

/-- Reads digits after a decimal point at index `i`. -/
def readFraction (src : Source) (positive : Bool) (significand : Nat) (before : Int) (i : Nat) :
    Step Float :=
  go (src.bytes.size + 1) significand 0 (i + 1)
where
  go : Nat → Nat → Int → Nat → Step Float
    | 0, _, _, j => .error (src.fail .invalidNumber j)
    | fuel + 1, sig, after, j =>
      let b := src.atOrNull j
      if isDigit b then
        let digit := (b - 48).toNat
        if sig ≥ maxU64 / 10 && (sig > maxU64 / 10 || digit > maxU64 % 10) then
          let stop := src.skipDigits j
          match src.atOrNull stop with
          | 101 | 69 => readExponent src positive sig (before + after) stop
          | _ => match scaleFloat src positive sig (before + after) stop with
            | .ok f => .ok (f, stop)
            | .error err => .error err
        else go fuel (sig * 10 + digit) (after - 1) (j + 1)
      else if after == 0 then
        match src.at? j with
        | some _ => .error (src.peekFail .invalidNumber j)
        | none => .error (src.peekFail .eofWhileParsingValue j)
      else
        match b with
        | 101 | 69 => readExponent src positive sig (before + after) j
        | _ => match scaleFloat src positive sig (before + after) j with
          | .ok f => .ok (f, j)
          | .error err => .error err

/-- Reads the rest of a number whose whole part was read, at index `i`. -/
def readNumberTail (src : Source) (positive : Bool) (significand : Nat) (i : Nat) : Step Number :=
  match src.atOrNull i with
  | 46 => (readFraction src positive significand 0 i).map (fun (f, j) => (.float f, j))
  | 101 | 69 => (readExponent src positive significand 0 i).map (fun (f, j) => (.float f, j))
  | _ =>
    if positive then .ok (.natural significand, i)
    else if significand == 0 || significand > Nat.pow 2 63 then .ok (.float (-(Float.ofNat significand)), i)
    else .ok (.negative (-(Int.ofNat significand)), i)

/-- Reads a whole part too long for 64 bits: the further digits only raise the exponent. -/
def readLongWhole (src : Source) (positive : Bool) (significand : Nat) (i : Nat) : Step Number :=
  let stop := src.skipDigits i
  let exponent : Int := stop - i
  match src.atOrNull stop with
  | 46 => (readFraction src positive significand exponent stop).map (fun (f, j) => (.float f, j))
  | 101 | 69 => (readExponent src positive significand exponent stop).map (fun (f, j) => (.float f, j))
  | _ => match scaleFloat src positive significand exponent stop with
    | .ok f => .ok (.float f, stop)
    | .error err => .error err

/-- Reads a number whose sign was read, at index `i`. -/
def readNumber (src : Source) (positive : Bool) (i : Nat) : Step Number :=
  match src.at? i with
  | none => .error (src.fail .eofWhileParsingValue i)
  | some 48 =>
    if isDigit (src.atOrNull (i + 1)) then .error (src.peekFail .invalidNumber (i + 1))
    else readNumberTail src positive 0 (i + 1)
  | some b =>
    if isDigit b then go (src.bytes.size + 1) (b - 48).toNat (i + 1)
    else .error (src.fail .invalidNumber (i + 1))
where
  go : Nat → Nat → Nat → Step Number
    | 0, sig, j => readNumberTail src positive sig j
    | fuel + 1, sig, j =>
      let b := src.atOrNull j
      if isDigit b then
        let digit := (b - 48).toNat
        if sig ≥ maxU64 / 10 && (sig > maxU64 / 10 || digit > maxU64 % 10) then
          readLongWhole src positive sig j
        else go fuel (sig * 10 + digit) (j + 1)
      else readNumberTail src positive sig j

/-- The value of a hexadecimal digit byte. -/
def hexValue (b : UInt8) : Option Nat :=
  if 48 ≤ b && b ≤ 57 then some (b - 48).toNat
  else if 65 ≤ b && b ≤ 70 then some (b - 55).toNat
  else if 97 ≤ b && b ≤ 102 then some (b - 87).toNat
  else none

/-- Reads four hexadecimal digits at index `i`. -/
def hexEscape (src : Source) (i : Nat) : Step Nat :=
  if i + 4 ≤ src.bytes.size then
    let digits := [0, 1, 2, 3].map (fun k => hexValue (src.atOrNull (i + k)))
    match digits with
    | [some a, some b, some c, some d] => .ok (((a * 16 + b) * 16 + c) * 16 + d, i + 4)
    | _ => .error (src.fail .invalidEscape (i + 4))
  else .error (src.fail .eofWhileParsingString src.bytes.size)

/-- The UTF-8 bytes of a code point. -/
def utf8 (n : Nat) : List UInt8 :=
  (String.singleton (Char.ofNat n)).toUTF8.toList

/-- Reads a `\u` escape (the `u` read), with surrogate pairs joined. -/
def unicodeEscape (src : Source) (i : Nat) : Except Failure (List UInt8 × Nat) := do
  let (n, j) ← src.hexEscape i
  if 0xDC00 ≤ n && n ≤ 0xDFFF then throw (src.fail .loneLeadingSurrogateInHexEscape j)
  if n < 0xD800 || n > 0xDBFF then return (utf8 n, j)
  match src.at? j with
  | none => throw (src.fail .eofWhileParsingString j)
  | some 92 =>
    match src.at? (j + 1) with
    | none => throw (src.fail .eofWhileParsingString (j + 1))
    | some 117 =>
      let (n2, k) ← src.hexEscape (j + 2)
      if n2 < 0xDC00 || n2 > 0xDFFF then throw (src.fail .loneLeadingSurrogateInHexEscape k)
      return (utf8 ((((n - 0xD800) * 1024) + (n2 - 0xDC00)) + 0x10000), k)
    | some _ => throw (src.fail .unexpectedEndOfHexEscape (j + 2))
  | some _ => throw (src.fail .unexpectedEndOfHexEscape (j + 1))

/-- Reads the body of a string after its opening quote, resolving escapes. -/
def readString (src : Source) (i : Nat) : Step String :=
  go (src.bytes.size + 1) [] i
where
  go : Nat → List UInt8 → Nat → Step String
    | 0, _, j => .error (src.fail .eofWhileParsingString j)
    | fuel + 1, acc, j =>
      match src.at? j with
      | none => .error (src.fail .eofWhileParsingString j)
      | some 34 => .ok ((String.fromUTF8? (ByteArray.mk acc.reverse.toArray)).getD "", j + 1)
      | some 92 =>
        match src.at? (j + 1) with
        | none => .error (src.fail .eofWhileParsingString (j + 1))
        | some e =>
          let simple : Option UInt8 :=
            match e with
            | 34 => some 34 | 92 => some 92 | 47 => some 47 | 98 => some 8
            | 102 => some 12 | 110 => some 10 | 114 => some 13 | 116 => some 9
            | _ => none
          match simple with
          | some b => go fuel (b :: acc) (j + 2)
          | none =>
            if e == 117 then
              match src.unicodeEscape (j + 2) with
              | .ok (bytes, k) => go fuel (bytes.reverse ++ acc) k
              | .error err => .error err
            else .error (src.fail .invalidEscape (j + 2))
      | some b =>
        if b < 32 then .error (src.fail .controlCharacterWhileParsingString (j + 1))
        else go fuel (b :: acc) (j + 1)

/-- Skips the body of a string after its opening quote, checking escapes only for form. -/
def skipString (src : Source) (i : Nat) : Except Failure Nat :=
  go (src.bytes.size + 1) i
where
  go : Nat → Nat → Except Failure Nat
    | 0, j => .error (src.fail .eofWhileParsingString j)
    | fuel + 1, j =>
      match src.at? j with
      | none => .error (src.fail .eofWhileParsingString j)
      | some 34 => .ok (j + 1)
      | some 92 =>
        match src.at? (j + 1) with
        | none => .error (src.fail .eofWhileParsingString (j + 1))
        | some e =>
          if e == 34 || e == 92 || e == 47 || e == 98 || e == 102 || e == 110 || e == 114 || e == 116
          then go fuel (j + 2)
          else if e == 117 then
            match src.hexEscape (j + 2) with
            | .ok (_, k) => go fuel k
            | .error err => .error err
          else .error (src.fail .invalidEscape (j + 2))
      | some b =>
        if b < 32 then .error (src.fail .controlCharacterWhileParsingString j)
        else go fuel (j + 1)

/-- Skips the exponent of a number being skipped, at its `e`. -/
def skipExponent (src : Source) (i : Nat) : Except Failure Nat :=
  let j := i + 1
  let k := if src.atOrNull j == 43 || src.atOrNull j == 45 then j + 1 else j
  if isDigit (src.atOrNull k) then .ok (src.skipDigits (k + 1))
  else .error (src.fail .invalidNumber (k + 1))

/-- Skips a number, its sign read, checking its form only. -/
def skipNumber (src : Source) (i : Nat) : Except Failure Nat := do
  let first := src.atOrNull i
  let afterWhole ←
    if first == 48 then
      if isDigit (src.atOrNull (i + 1)) then throw (src.peekFail .invalidNumber (i + 1))
      else pure (i + 1)
    else if isDigit first then pure (src.skipDigits (i + 1))
    else throw (src.fail .invalidNumber (i + 1))
  match src.atOrNull afterWhole with
  | 46 =>
    let stop := src.skipDigits (afterWhole + 1)
    if stop == afterWhole + 1 then throw (src.peekFail .invalidNumber stop)
    match src.atOrNull stop with
    | 101 | 69 => src.skipExponent stop
    | _ => pure stop
  | 101 | 69 => src.skipExponent afterWhole
  | _ => pure afterWhole

/-- Skips one scalar value at index `i` (no blank before it): a keyword, number or string. -/
def skipScalar (src : Source) (b : UInt8) (i : Nat) : Except Failure Nat :=
  match b with
  | 110 => src.ident [117, 108, 108] (i + 1)
  | 116 => src.ident [114, 117, 101] (i + 1)
  | 102 => src.ident [97, 108, 115, 101] (i + 1)
  | 45 => src.skipNumber (i + 1)
  | 34 => src.skipString (i + 1)
  | _ => src.skipNumber i

/-- Skips one whole value, at any depth, checking its form: the open brackets are kept on an
explicit stack, so depth is not limited. Inside a skipped array a comma must be followed by a
value. -/
def skipValue (src : Source) (i : Nat) : Except Failure Nat :=
  value (4 * src.bytes.size + 4) [] i
where
  /-- Expects a value at `j` (blank allowed), inside the open brackets `stack`. -/
  value : Nat → List UInt8 → Nat → Except Failure Nat
    | 0, _, j => .error (src.fail .recursionLimitExceeded j)
    | fuel + 1, stack, j =>
      let k := src.skipBlank j
      match src.at? k with
      | none => .error (src.peekFail .eofWhileParsingValue k)
      | some b =>
        if b == 91 || b == 123 then afterOpen fuel (b :: stack) (k + 1)
        else if b == 110 || b == 116 || b == 102 || b == 45 || b == 34 || isDigit b then
          match src.skipScalar b k with
          | .ok m => close fuel stack m
          | .error err => .error err
        else .error (src.peekFail .expectedSomeValue k)
  /-- Just after an opening bracket: it may close at once. -/
  afterOpen : Nat → List UInt8 → Nat → Except Failure Nat
    | 0, _, j => .error (src.fail .recursionLimitExceeded j)
    | fuel + 1, stack, j =>
      let k := src.skipBlank j
      match stack, src.at? k with
      | _, none =>
        .error (src.peekFail (if stack.head? == some 91 then .eofWhileParsingList else .eofWhileParsingObject) k)
      | 91 :: rest, some 93 => close fuel rest (k + 1)
      | 123 :: rest, some 125 => close fuel rest (k + 1)
      | 123 :: _, some _ => key fuel stack k
      | _, some _ => value fuel stack k
  /-- At a key of an object: a string, then a colon. -/
  key : Nat → List UInt8 → Nat → Except Failure Nat
    | 0, _, j => .error (src.fail .recursionLimitExceeded j)
    | fuel + 1, stack, j =>
      let k := src.skipBlank j
      match src.at? k with
      | none => .error (src.peekFail .eofWhileParsingObject k)
      | some 34 =>
        match src.skipString (k + 1) with
        | .error err => .error err
        | .ok m =>
          let n := src.skipBlank m
          match src.at? n with
          | some 58 => value fuel stack (n + 1)
          | some _ => .error (src.peekFail .expectedColon n)
          | none => .error (src.peekFail .eofWhileParsingObject n)
      | some _ => .error (src.peekFail .keyMustBeAString k)
  /-- After a value inside the open brackets: a comma, or a closing bracket. -/
  close : Nat → List UInt8 → Nat → Except Failure Nat
    | 0, _, j => .error (src.fail .recursionLimitExceeded j)
    | fuel + 1, stack, j =>
      match stack with
      | [] => .ok j
      | top :: rest =>
        let k := src.skipBlank j
        match src.at? k with
        | none => .error (src.peekFail (if top == 91 then .eofWhileParsingList else .eofWhileParsingObject) k)
        | some 44 => if top == 91 then value fuel stack (k + 1) else key fuel stack (k + 1)
        | some b =>
          if (top == 91 && b == 93) || (top == 123 && b == 125) then close fuel rest (k + 1)
          else .error (src.peekFail (if top == 91 then .expectedListCommaOrEnd else .expectedObjectCommaOrEnd) k)

/-- Before the next item of an array at `i`: `none` at its closing bracket (not passed),
otherwise the index of the item's first byte. -/
def nextItem (src : Source) (first : Bool) (i : Nat) : Step (Option Unit) :=
  let k := src.skipBlank i
  match src.at? k with
  | none => .error (src.peekFail .eofWhileParsingList k)
  | some 93 => .ok (none, k)
  | some 44 =>
    if first then .ok (some (), k) else
    let m := src.skipBlank (k + 1)
    match src.at? m with
    | some 93 => .error (src.peekFail .trailingComma m)
    | some _ => .ok (some (), m)
    | none => .error (src.peekFail .eofWhileParsingValue m)
  | some _ => if first then .ok (some (), k) else .error (src.peekFail .expectedListCommaOrEnd k)

/-- Before the next key of an object at `i`: `none` at its closing brace (not passed),
otherwise the key and the index after it. -/
def nextKey (src : Source) (first : Bool) (i : Nat) : Step (Option String) :=
  let k := src.skipBlank i
  let start : Except Failure Nat :=
    match src.at? k with
    | none => .error (src.peekFail .eofWhileParsingObject k)
    | some 125 => .ok k
    | some 44 => if first then .ok k else .ok (src.skipBlank (k + 1))
    | some _ => if first then .ok k else .error (src.peekFail .expectedObjectCommaOrEnd k)
  match start with
  | .error err => .error err
  | .ok p =>
    if p == k && src.at? k == some 125 then .ok (none, k) else
    match src.at? p with
    | some 34 => (src.readString (p + 1)).map (fun (key, j) => (some key, j))
    | some 125 => .error (src.peekFail .trailingComma p)
    | some _ => .error (src.peekFail .keyMustBeAString p)
    | none => .error (src.peekFail .eofWhileParsingValue p)

/-- Passes the colon after a key. -/
def colon (src : Source) (i : Nat) : Except Failure Nat :=
  let k := src.skipBlank i
  match src.at? k with
  | some 58 => .ok (k + 1)
  | some _ => .error (src.peekFail .expectedColon k)
  | none => .error (src.peekFail .eofWhileParsingObject k)

/-- Passes the closing bracket of an array. -/
def closeArray (src : Source) (i : Nat) : Except Failure Nat :=
  let k := src.skipBlank i
  match src.at? k with
  | some 93 => .ok (k + 1)
  | some 44 =>
    let m := src.skipBlank (k + 1)
    if src.at? m == some 93 then .error (src.peekFail .trailingComma m)
    else .error (src.peekFail .trailingCharacters m)
  | some _ => .error (src.peekFail .trailingCharacters k)
  | none => .error (src.peekFail .eofWhileParsingList k)

/-- Passes the closing brace of an object. -/
def closeObject (src : Source) (i : Nat) : Except Failure Nat :=
  let k := src.skipBlank i
  match src.at? k with
  | some 125 => .ok (k + 1)
  | some 44 => .error (src.peekFail .trailingComma k)
  | some _ => .error (src.peekFail .trailingCharacters k)
  | none => .error (src.peekFail .eofWhileParsingObject k)

/-- Checks that nothing but blank follows the document. -/
def finish (src : Source) (i : Nat) : Except Failure Unit :=
  let k := src.skipBlank i
  match src.at? k with
  | some _ => .error (src.peekFail .trailingCharacters k)
  | none => .ok ()

/-- The deepest nesting of arrays and objects a value may have while it is being read into
data. -/
def depthLimit : Nat := 128

mutual

/-- Reads one value at `i` (blank allowed before it) into data; `depth` arrays and objects may
still open. -/
def readValue (src : Source) : Nat → Nat → Step Json
  | 0, i => .error (src.fail .recursionLimitExceeded i)
  | depth + 1, i =>
    let k := src.skipBlank i
    match src.at? k with
    | none => .error (src.peekFail .eofWhileParsingValue k)
    | some 110 => (src.ident [117, 108, 108] (k + 1)).map (fun j => (.null, j))
    | some 116 => (src.ident [114, 117, 101] (k + 1)).map (fun j => (.bool true, j))
    | some 102 => (src.ident [97, 108, 115, 101] (k + 1)).map (fun j => (.bool false, j))
    | some 45 => (src.readNumber false (k + 1)).map (fun (n, j) => (.number n, j))
    | some 34 => (src.readString (k + 1)).map (fun (s, j) => (.string s, j))
    | some 91 =>
      match readItems src depth (src.bytes.size + 1) true [] (k + 1) with
      | .ok (items, j) =>
        match src.closeArray j with
        | .ok m => .ok (.array items, m)
        | .error err => .error err
      | .error err => .error err
    | some 123 =>
      match readFields src depth (src.bytes.size + 1) true [] (k + 1) with
      | .ok (fields, j) =>
        match src.closeObject j with
        | .ok m => .ok (mkObject fields, m)
        | .error err => .error err
      | .error err => .error err
    | some b =>
      if isDigit b then (src.readNumber true k).map (fun (n, j) => (.number n, j))
      else .error (src.peekFail .expectedSomeValue k)

/-- Reads the items of an array up to (not past) its closing bracket. -/
def readItems (src : Source) (depth : Nat) : Nat → Bool → List Json → Nat → Step (List Json)
  | 0, _, acc, i => .ok (acc.reverse, i)
  | fuel + 1, first, acc, i =>
    match src.nextItem first i with
    | .error err => .error err
    | .ok (none, j) => .ok (acc.reverse, j)
    | .ok (some (), j) =>
      match readValue src depth j with
      | .ok (v, k) => readItems src depth fuel false (v :: acc) k
      | .error err => .error err

/-- Reads the fields of an object up to (not past) its closing brace. -/
def readFields (src : Source) (depth : Nat) :
    Nat → Bool → List (String × Json) → Nat → Step (List (String × Json))
  | 0, _, acc, i => .ok (acc.reverse, i)
  | fuel + 1, first, acc, i =>
    match src.nextKey first i with
    | .error err => .error err
    | .ok (none, j) => .ok (acc.reverse, j)
    | .ok (some key, j) =>
      match src.colon j with
      | .error err => .error err
      | .ok c =>
        match readValue src depth c with
        | .ok (v, k) => readFields src depth fuel false ((key, v) :: acc) k
        | .error err => .error err

end

end Source

/-- Reads a whole document into data: one value and nothing but blank after it. -/
def parse (text : String) : Except String Json :=
  let src : Source := ⟨text.toUTF8⟩
  match src.readValue Source.depthLimit 0 with
  | .error err => .error (src.describe err)
  | .ok (value, i) =>
    match src.finish i with
    | .ok () => .ok value
    | .error err => .error (src.describe err)

end BalancerSync.Json
