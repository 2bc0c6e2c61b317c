import BalancerSync.Toml.Document

/-!
# Reading TOML text

A reader over the bytes of a document, rule by rule as the TOML grammar has them.  Every
rule either reads a value and says where it stopped, or fails at a byte offset.  A failure
is soft when an enclosing choice may still try something else, and hard (cut) when the
document is certainly wrong there; hard failures pass through every choice.

A failure collects what the rules around it said while it passed through them: labels
naming the construct that was being read (the first one is reported, as
`invalid table header`), the things that would have been accepted
(`expected `.`, `=``), and a cause when a value was out of range.
-/

namespace BalancerSync.Toml

/-- Why reading failed, and where. -/
structure Failure where
  pos : Nat
  /-- Hard failures stop every choice around them. -/
  cut : Bool := false
  labels : List String := []
  expected : List String := []
  cause : Option String := none
deriving Repr, Inhabited

namespace Failure

/-- Name the construct being read. -/
def label (name : String) (f : Failure) : Failure := { f with labels := f.labels ++ [name] }

/-- Add something that would have been accepted. -/
def expect (what : String) (f : Failure) : Failure := { f with expected := f.expected ++ [what] }

/-- Make a failure hard. -/
def hard (f : Failure) : Failure := { f with cut := true }

/-- The message: `invalid <first label>`, then `expected <a>, <b>`, then the cause, one per
line. -/
def message (f : Failure) : String :=
  let lines := (match f.labels.head? with
      | some l => ["invalid " ++ l]
      | none => []) ++
    (if f.expected.isEmpty then [] else ["expected " ++ ", ".intercalate f.expected]) ++
    (match f.cause with
      | some c => [c]
      | none => [])
  "\n".intercalate lines

end Failure

/-- A rule's result: what it read and where it stopped. -/
abbrev Reading (α : Type) := Except Failure (α × Nat)

/-- The bytes of a document. -/
structure Source where
  bytes : ByteArray

namespace Source

/-- The byte at an offset. -/
def get? (src : Source) (i : Nat) : Option UInt8 := src.bytes[i]?

/-- The byte at an offset is the character `c`. -/
def is (src : Source) (i : Nat) (c : Char) : Bool := src.get? i == some c.toNat.toUInt8

/-- The bytes from an offset spell `text`. -/
def hasText (src : Source) (i : Nat) (text : String) : Bool :=
  (text.toUTF8.toList.zipIdx).all fun (b, k) => src.get? (i + k) == some b

/-- The text between two offsets. -/
def slice (src : Source) (start stop : Nat) : String :=
  (String.fromUTF8? (src.bytes.extract start stop)).getD ""

/-- The first offset from `i` whose byte fails `p` (or the end). -/
def skipWhile (src : Source) (p : UInt8 → Bool) (i : Nat) : Nat :=
  go i (src.bytes.size - i)
where
  go (j : Nat) : Nat → Nat
    | 0 => j
    | n + 1 =>
      match src.get? j with
      | some b => if p b then go (j + 1) n else j
      | none => j

end Source

/-- A blank: space or tab. -/
def isBlank (b : UInt8) : Bool := b == 32 || b == 9

/-- A decimal digit. -/
def isDigit (b : UInt8) : Bool := 48 ≤ b && b ≤ 57

/-- A hexadecimal digit. -/
def isHexDigit (b : UInt8) : Bool := isDigit b || (65 ≤ b && b ≤ 70) || (97 ≤ b && b ≤ 102)

/-- A character of a bare key: letters, digits, `-` and `_`. -/
def isBareKeyChar (b : UInt8) : Bool :=
  isDigit b || (65 ≤ b && b ≤ 90) || (97 ≤ b && b ≤ 122) || b == 45 || b == 95

/-- A byte a basic string may hold as it is. -/
def isBasicChar (b : UInt8) : Bool :=
  isBlank b || b == 0x21 || (0x23 ≤ b && b ≤ 0x5B) || (0x5D ≤ b && b ≤ 0x7E) || b ≥ 0x80

/-- A byte a literal string may hold. -/
def isLiteralChar (b : UInt8) : Bool :=
  b == 9 || (0x20 ≤ b && b ≤ 0x26) || (0x28 ≤ b && b ≤ 0x7E) || b ≥ 0x80

/-- A byte a comment may hold. -/
def isCommentChar (b : UInt8) : Bool := b == 9 || (0x20 ≤ b && b ≤ 0x7E) || b ≥ 0x80

/-- A rule's failures named after the construct it reads. -/
def labelled {α : Type} (name : String) (r : Reading α) : Reading α :=
  r.mapError (Failure.label name)

/-- A character as messages quote it. -/
def quotedChar (c : Char) : String := if c = '\n' then "newline" else "`" ++ c.toString ++ "`"

/-- Arrays and inline tables may nest, and keys have parts, fewer than this many. -/
def nestingLimit : Nat := 80

section

variable (src : Source)

/-- Blanks from an offset. -/
def blanks (i : Nat) : Nat := src.skipWhile isBlank i

/-- A line break: LF or CRLF. -/
def newline? (i : Nat) : Option Nat :=
  if src.is i '\n' then some (i + 1)
  else if src.is i '\r' && src.is (i + 1) '\n' then some (i + 2)
  else none

/-- A comment, from `#` to the end of its line. -/
def comment? (i : Nat) : Option Nat :=
  if src.is i '#' then some (src.skipWhile isCommentChar (i + 1)) else none

/-- The end of a line: a line break or the end of the document. -/
def lineEnd? (i : Nat) : Option Nat :=
  match newline? src i with
  | some j => some j
  | none => if i = src.bytes.size then some i else none

/-- What may follow a value or a header on its line: blanks, a comment, the line's end. -/
def lineTrailing (i : Nat) : Reading Unit :=
  let j := blanks src i
  let j := (comment? src j).getD j
  match lineEnd? src j with
  | some k => .ok ((), k)
  | none => .error { pos := j }

/-- Blanks, line breaks and comments, as many as there are. -/
def blankLines (i : Nat) : Nat :=
  go i (src.bytes.size - i + 1)
where
  go (j : Nat) : Nat → Nat
    | 0 => j
    | n + 1 =>
      match src.get? j with
      | some b =>
        if isBlank b then go (j + 1) n
        else match newline? src j with
          | some k => go k n
          | none =>
            match comment? src j with
            | some k => go k n
            | none => j
      | none => j

/-- A number written with digits of `radix`, `_` ignored. -/
def digitsValue (radix : Nat) (text : String) : Nat :=
  text.toList.foldl (fun acc c =>
    if c = '_' then acc
    else
      let d := if c.isDigit then c.toNat - 48
        else if 'a' ≤ c && c ≤ 'f' then c.toNat - 87
        else c.toNat - 55
      acc * radix + d) 0

/-- `n` hexadecimal digits after `\u` or `\U`, as a character. -/
def hexEscape (n : Nat) (label : String) (i : Nat) : Reading Char :=
  let stop := src.skipWhile isHexDigit i
  let stop := min stop (i + n)
  if stop - i < n then .error (({ pos := i, cut := true } : Failure).label label)
  else
    let code := digitsValue 16 (src.slice i stop)
    if code < 0xD800 || (0xDFFF < code && code < 0x110000) then .ok (Char.ofNat code, stop)
    else .error (({ pos := i, cut := true, cause := some Conflict.outOfRange.message } : Failure).label label)

/-- The character after a backslash. -/
def escapeChar (i : Nat) : Reading String :=
  match src.get? i with
  | none => .error { pos := i }
  | some b =>
    let next := i + 1
    if b == 98 then .ok ("\x08", next)
    else if b == 102 then .ok ("\x0c", next)
    else if b == 110 then .ok ("\n", next)
    else if b == 114 then .ok ("\r", next)
    else if b == 116 then .ok ("\t", next)
    else if b == 92 then .ok ("\\", next)
    else if b == 34 then .ok ("\"", next)
    else if b == 117 then (hexEscape src 4 "unicode 4-digit hex code" next).map fun (c, j) => (c.toString, j)
    else if b == 85 then (hexEscape src 8 "unicode 8-digit hex code" next).map fun (c, j) => (c.toString, j)
    else .error (["`b`", "`f`", "`n`", "`r`", "`t`", "`u`", "`U`", "`\\`", "`\"`"].foldl
      (fun f e => f.expect e) (({ pos := next, cut := true } : Failure).label "escape sequence"))

/-- A backslash and the escaped character. -/
def escaped (i : Nat) : Reading String :=
  if src.is i '\\' then escapeChar src (i + 1) else .error { pos := i }

/-- The characters of a basic string up to where they stop. -/
def basicChars (i : Nat) (acc : String) : Nat → Reading String
  | 0 => .ok (acc, i)
  | n + 1 =>
    match src.get? i with
    | some b =>
      if isBasicChar b then
        let j := src.skipWhile isBasicChar i
        basicChars j (acc ++ src.slice i j) n
      else if b == 92 then
        match escaped src i with
        | .ok (s, j) => basicChars j (acc ++ s) n
        | .error f => if f.cut then .error f else .ok (acc, i)
      else .ok (acc, i)
    | none => .ok (acc, i)

/-- A basic string: `"` characters and escapes `"`. -/
def basicString (i : Nat) : Except Failure (String × Nat) := do
  if !src.is i '"' then throw { pos := i }
  let (text, j) ← basicChars src (i + 1) "" (src.bytes.size + 1)
  if src.is j '"' then .ok (text, j + 1)
  else .error (({ pos := j, cut := true } : Failure).label "basic string")

/-- A literal string: `'` characters `'`, nothing escaped. -/
def literalString (i : Nat) : Reading String :=
  if !src.is i '\'' then .error { pos := i }
  else
    let j := src.skipWhile isLiteralChar (i + 1)
    if src.is j '\'' then .ok (src.slice (i + 1) j, j + 1)
    else .error (({ pos := j, cut := true } : Failure).label "literal string")

/-- One or two quotes `q` followed by something `follows` accepts. -/
def quotesBefore (q : Char) (follows : Nat → Bool) (i : Nat) : Option (String × Nat) :=
  if src.is i q && src.is (i + 1) q && follows (i + 2) then some (String.ofList [q, q], i + 2)
  else if src.is i q && follows (i + 1) then some (q.toString, i + 1)
  else none

/-- One piece of a multi-line basic string: plain characters, a backslash ending a line
(which drops the break and the blanks after it), an escape, or a line break. -/
def multiBasicPiece (i : Nat) : Except Failure (Option (String × Nat)) :=
  match src.get? i with
  | none => .ok none
  | some b =>
    if isBasicChar b then
      let j := src.skipWhile isBasicChar i
      .ok (some (src.slice i j, j))
    else if b == 92 then
      match lineContinuation i (src.bytes.size + 1) with
      | some j => .ok (some ("", j))
      | none =>
        match escaped src i with
        | .ok (s, j) => .ok (some (s, j))
        | .error f => if f.cut then .error f else .ok none
    else match newline? src i with
      | some j => .ok (some ("\n", j))
      | none => .ok none
where
  /-- Backslashes each followed by blanks and a line break, with the blanks and breaks
  after them. -/
  lineContinuation (j : Nat) : Nat → Option Nat
    | 0 => none
    | n + 1 =>
      if !src.is j '\\' then none
      else
        match newline? src (blanks src (j + 1)) with
        | none => none
        | some k =>
          let k := blankBreaks k (src.bytes.size + 1)
          match lineContinuation k n with
          | some m => some m
          | none => some k
  blankBreaks (j : Nat) : Nat → Nat
    | 0 => j
    | n + 1 =>
      if src.get? j |>.any isBlank then blankBreaks (j + 1) n
      else match newline? src j with
        | some k => blankBreaks k n
        | none => j

/-- Pieces of a multi-line basic string, as many as there are. -/
def multiBasicPieces (i : Nat) (acc : String) : Nat → Except Failure (String × Nat)
  | 0 => .ok (acc, i)
  | n + 1 => do
    match ← multiBasicPiece src i with
    | some (s, j) => multiBasicPieces j (acc ++ s) n
    | none => .ok (acc, i)

/-- The body of a multi-line basic string: pieces, with runs of one or two quotes between
them, and up to two quotes just before the closing ones. -/
def multiBasicBody (i : Nat) : Except Failure (String × Nat) := do
  let (text, j) ← multiBasicPieces src i "" (src.bytes.size + 1)
  let (text, j) ← quoteRuns text j (src.bytes.size + 1)
  match quotesBefore src '"' (fun k => src.hasText k "\"\"\"") j with
  | some (q, k) => .ok (text ++ q, k)
  | none => .ok (text, j)
where
  quoteRuns (text : String) (j : Nat) : Nat → Except Failure (String × Nat)
    | 0 => .ok (text, j)
    | n + 1 =>
      match quotesBefore src '"' (fun k => (src.get? k).any (· != 34)) j with
      | none => .ok (text, j)
      | some (q, k) => do
        match ← multiBasicPiece src k with
        | none => .ok (text, k)
        | some (s, m) =>
          let (more, m) ← multiBasicPieces src m "" (src.bytes.size + 1)
          quoteRuns (text ++ q ++ s ++ more) m n

/-- A multi-line basic string: `"""`, an optional line break, the body, `"""`. -/
def multiBasicString (i : Nat) : Except Failure (String × Nat) := do
  if !src.hasText i "\"\"\"" then throw { pos := i }
  let j := i + 3
  let j := (newline? src j).getD j
  let (text, k) ← (multiBasicBody src j).mapError fun f => f.hard.label "multiline basic string"
  if src.hasText k "\"\"\"" then .ok (text, k + 3)
  else .error (({ pos := k, cut := true } : Failure).label "multiline basic string")

/-- One character or line break of a multi-line literal string. -/
def multiLiteralPiece (i : Nat) : Option Nat :=
  match src.get? i with
  | some b => if isLiteralChar b then some (i + 1) else newline? src i
  | none => none

/-- Characters and line breaks of a multi-line literal string, as many as there are. -/
def multiLiteralPieces (i : Nat) : Nat → Nat
  | 0 => i
  | n + 1 =>
    match multiLiteralPiece src i with
    | some j => multiLiteralPieces j n
    | none => i

/-- The body of a multi-line literal string. -/
def multiLiteralBody (i : Nat) : Nat :=
  let j := multiLiteralPieces src i (src.bytes.size + 1)
  let j := runs j (src.bytes.size + 1)
  match quotesBefore src '\'' (fun k => src.hasText k "'''") j with
  | some (_, k) => k
  | none => j
where
  runs (j : Nat) : Nat → Nat
    | 0 => j
    | n + 1 =>
      match quotesBefore src '\'' (fun k => (src.get? k).any (· != 39)) j with
      | none => j
      | some (_, k) =>
        match multiLiteralPiece src k with
        | none => j
        | some m => runs (multiLiteralPieces src m (src.bytes.size + 1)) n

/-- Line breaks written CRLF read as LF. -/
def unixBreaks (text : String) : String := "\n".intercalate (text.splitOn "\r\n")

/-- A multi-line literal string: `'''`, an optional line break, the body, `'''`. -/
def multiLiteralString (i : Nat) : Reading String :=
  if !src.hasText i "'''" then .error { pos := i }
  else
    let j := i + 3
    let j := (newline? src j).getD j
    let k := multiLiteralBody src j
    if src.hasText k "'''" then .ok (unixBreaks (src.slice j k), k + 3)
    else .error (({ pos := k, cut := true } : Failure).label "multiline literal string")

/-- A string of any of the four kinds. -/
def anyString (i : Nat) : Reading String :=
  let tryNext (r : Reading String) (next : Unit → Reading String) : Reading String :=
    match r with
    | .error f => if f.cut then .error f else next ()
    | ok => ok
  tryNext (multiBasicString src i) fun _ =>
    tryNext (basicString src i) fun _ =>
      tryNext (multiLiteralString src i) fun _ => literalString src i

/-- A key without dots: bare, or a basic or literal string. -/
def simpleKey (i : Nat) : Reading Key :=
  let named (r : Reading String) : Reading Key :=
    r.map fun (name, j) => (⟨name, src.slice i j, ⟨i, j⟩⟩, j)
  if src.is i '"' then named (basicString src i)
  else if src.is i '\'' then named (literalString src i)
  else
    let j := src.skipWhile isBareKeyChar i
    if j = i then .error { pos := i } else .ok (⟨src.slice i j, src.slice i j, ⟨i, j⟩⟩, j)

/-- A key part with the blanks around it. -/
def keyPart (i : Nat) : Except Failure (Key × Nat) := do
  let (k, j) ← simpleKey src (blanks src i)
  .ok (k, blanks src j)

/-- A dotted key: key parts joined by `.`, fewer than the nesting limit. -/
def dottedKey (i : Nat) : Reading (List Key) :=
  match ((do
    let (first, j) ← keyPart src i
    more [first] j (src.bytes.size + 1) : Except Failure (List Key × Nat))).mapError
    (Failure.label "key") with
  | .ok (parts, j) =>
    if parts.length ≥ nestingLimit then .error { pos := i, cause := some Conflict.tooDeep.message }
    else .ok (parts, j)
  | .error f => .error f
where
  more (acc : List Key) (j : Nat) : Nat → Reading (List Key)
    | 0 => .ok (acc, j)
    | n + 1 =>
      if !src.is j '.' then .ok (acc, j)
      else match keyPart src (j + 1) with
        | .ok (k, m) => more (acc ++ [k]) m n
        | .error f => if f.cut then .error f else .ok (acc, j)

/-- Exactly `n` decimal digits. -/
def fixedDigits (n : Nat) (i : Nat) : Reading Nat :=
  let stop := min (src.skipWhile isDigit i) (i + n)
  if stop - i = n then .ok (digitsValue 10 (src.slice i stop), stop) else .error { pos := i }

/-- Two digits within a range. -/
def boundedPair (low high : Nat) (i : Nat) : Except Failure (Nat × Nat) := do
  let (v, j) ← fixedDigits src 2 i
  if low ≤ v && v ≤ high then .ok (v, j)
  else throw { pos := i, cause := some Conflict.outOfRange.message }

/-- A time: hours, minutes, seconds, and an optional fraction.  Once the hours and their
colon are read, a failure is hard and names the time, before any enclosing construct. -/
def partialTime (i : Nat) : Except Failure (Unit × Nat) := do
  let (_, j) ← boundedPair src 0 23 i
  if !src.is j ':' then throw { pos := j }
  ((do
    let (_, k) ← boundedPair src 0 59 (j + 1)
    if !src.is k ':' then throw { pos := k }
    let (_, m) ← boundedPair src 0 60 (k + 1)
    if src.is m '.' then
      let stop := src.skipWhile isDigit (m + 1)
      if stop = m + 1 then .ok ((), m) else .ok ((), stop)
    else .ok ((), m)) : Except Failure (Unit × Nat)).mapError fun f => (f.label "time").hard

/-- A time offset: `Z`, or a sign with hours and minutes. -/
def timeOffset (i : Nat) : Reading Unit :=
  labelled "time offset" (if src.is i 'Z' || src.is i 'z' then .ok ((), i + 1)
  else if src.is i '+' || src.is i '-' then
    ((do
      let (_, j) ← boundedPair src 0 23 (i + 1)
      if !src.is j ':' then throw { pos := j }
      let (_, k) ← boundedPair src 0 59 (j + 1)
      .ok ((), k)) : Except Failure (Unit × Nat)).mapError Failure.hard
  else .error { pos := i })

/-- How many days a month of a year has. -/
def daysInMonth (year month : Nat) : Nat :=
  if month = 2 then
    if year % 4 = 0 && (year % 100 != 0 || year % 400 = 0) then 29 else 28
  else if month = 4 || month = 6 || month = 9 || month = 11 then 30
  else 31

/-- A date, or a date and time, or a time, with an optional offset. -/
def dateTime (i : Nat) : Reading Unit :=
  labelled "date-time" (match fixedDigits src 4 i with
  | .ok (year, j) =>
    if !src.is j '-' then .error { pos := j }
    else
      match ((do
          let (month, k) ← boundedPair src 1 12 (j + 1)
          if !src.is k '-' then throw { pos := k }
          let (day, m) ← boundedPair src 1 31 (k + 1)
          if daysInMonth year month < day then
            throw { pos := k + 1, cause := some Conflict.outOfRange.message }
          .ok (day, m)) : Except Failure (Nat × Nat)).mapError Failure.hard with
      | .error f => .error f
      | .ok (_, k) =>
        if src.is k 'T' || src.is k 't' || src.is k ' ' then
          match partialTime src (k + 1) with
          | .ok ((), m) =>
            match timeOffset src m with
            | .ok ((), n) => .ok ((), n)
            | .error f => if f.cut then .error f else .ok ((), m)
          | .error f => if f.cut then .error f else .ok ((), k)
        else .ok ((), k)
  | .error f => if f.cut then .error f else partialTime src i)

/-- A decimal integer's text: an optional sign, then `0` or digits not starting with `0`,
single underscores between digits. -/
def decimalInteger (i : Nat) : Reading Unit :=
  labelled "integer" (let j := if src.is i '+' || src.is i '-' then i + 1 else i
  match src.get? j with
  | some b =>
    if 49 ≤ b && b ≤ 57 then digitRun (j + 1) (src.bytes.size + 1)
    else if b == 48 then .ok ((), j + 1)
    else .error { pos := j }
  | none => .error { pos := j })
where
  digitRun (k : Nat) : Nat → Reading Unit
    | 0 => .ok ((), k)
    | n + 1 =>
      if (src.get? k).any isDigit then digitRun (k + 1) n
      else if src.is k '_' then
        if (src.get? (k + 1)).any isDigit then digitRun (k + 2) n
        else .error (({ pos := k + 1, cut := true } : Failure).expect "digit")
      else .ok ((), k)

/-- Digits of `digit`, single underscores between them; the first one required. -/
def digitsWith (digit : UInt8 → Bool) (i : Nat) : Reading Unit :=
  if !(src.get? i).any digit then .error { pos := i }
  else go (i + 1) (src.bytes.size + 1)
where
  go (k : Nat) : Nat → Reading Unit
    | 0 => .ok ((), k)
    | n + 1 =>
      if (src.get? k).any digit then go (k + 1) n
      else if src.is k '_' then
        if (src.get? (k + 1)).any digit then go (k + 2) n
        else .error (({ pos := k + 1, cut := true } : Failure).expect "digit")
      else .ok ((), k)

/-- The message of an integer too large or too small for 64 bits. -/
def rangeCause (n : Int) : String :=
  if n < 0 then "number too small to fit in target type" else "number too large to fit in target type"

/-- An integer fits in 64 bits. -/
def fits64 (n : Int) : Bool := -9223372036854775808 ≤ n && n ≤ 9223372036854775807

/-- An integer: hexadecimal, octal or binary after `0x`, `0o`, `0b`, else decimal. -/
def integer (i : Nat) : Reading Int :=
  let prefixed (radix : Nat) (digit : UInt8 → Bool) (name : String) : Reading Int :=
    match (digitsWith src digit (i + 2)).mapError (fun f => (f.hard).label name) with
    | .error f => .error f
    | .ok ((), j) =>
      let n : Int := digitsValue radix (src.slice (i + 2) j)
      if fits64 n then .ok (n, j)
      else .error { pos := i, cut := true, cause := some (rangeCause n) }
  if src.hasText i "0x" then prefixed 16 isHexDigit "hexadecimal integer"
  else if src.hasText i "0o" then prefixed 8 (fun b => 48 ≤ b && b ≤ 55) "octal integer"
  else if src.hasText i "0b" then prefixed 2 (fun b => b == 48 || b == 49) "binary integer"
  else show Except Failure (Int × Nat) from do
    let ((), j) ← decimalInteger src i
    let text := src.slice i j
    let magnitude : Int := digitsValue 10 (String.ofList (text.toList.filter Char.isDigit))
    let n := if text.startsWith "-" then -magnitude else magnitude
    if fits64 n then .ok (n, j)
    else .error { pos := i, cut := true, cause := some (rangeCause n) }

/-- The value of decimal digits with a power of ten. -/
def decimalFloat (digits : Nat) (exponent : Int) : Float :=
  if exponent ≥ 0 then Float.ofScientific digits false exponent.toNat
  else Float.ofScientific digits true (-exponent).toNat

/-- The value of a float's text: sign, digits with a point, exponent. -/
def floatOfText (text : String) : Float :=
  let cs := text.toList.filter (· != '_')
  let (negative, cs) := match cs with
    | '-' :: rest => (true, rest)
    | '+' :: rest => (false, rest)
    | cs => (false, cs)
  let whole := cs.takeWhile Char.isDigit
  let rest := cs.drop whole.length
  let (fraction, rest) := match rest with
    | '.' :: more => (more.takeWhile Char.isDigit, more.drop (more.takeWhile Char.isDigit).length)
    | more => ([], more)
  let exponent : Int := match rest with
    | e :: more =>
      if e = 'e' || e = 'E' then
        match more with
        | '-' :: ds => -(digitsValue 10 (String.ofList ds) : Int)
        | '+' :: ds => digitsValue 10 (String.ofList ds)
        | ds => digitsValue 10 (String.ofList ds)
      else 0
    | [] => 0
  let x := decimalFloat (digitsValue 10 (String.ofList (whole ++ fraction)))
    (exponent - fraction.length)
  if negative then -x else x

/-- A float: a decimal integer part with a fraction, an exponent or both; or `inf` and
`nan` with an optional sign.  One too large for a double is refused. -/
def float (i : Nat) : Reading Float :=
  labelled "floating-point number" (match decimalInteger src i with
  | .error f => if f.cut then .error f else special
  | .ok ((), j) =>
    let exponentPart (k : Nat) : Reading Unit :=
      if src.is k 'e' || src.is k 'E' then
        let m := if src.is (k + 1) '+' || src.is (k + 1) '-' then k + 2 else k + 1
        (digitsWith src isDigit m).mapError Failure.hard
      else .error { pos := k }
    let body : Reading Unit :=
      match exponentPart j with
      | .ok r => .ok r
      | .error f =>
        if f.cut then .error f
        else if src.is j '.' then
          match (digitsWith src isDigit (j + 1)).mapError (fun f => f.hard.expect "digit") with
          | .error f => .error f
          | .ok ((), k) =>
            match exponentPart k with
            | .ok r => .ok r
            | .error f => if f.cut then .error f else .ok ((), k)
        else .error { pos := j }
    match body with
    | .error f => if f.cut then .error f else special
    | .ok ((), k) =>
      let x := floatOfText (src.slice i k)
      if x == (1.0 / 0.0 : Float) then .error { pos := i, cut := true } else .ok (x, k))
where
  special : Reading Float :=
    let (negative, j) := if src.is i '+' then (false, i + 1)
      else if src.is i '-' then (true, i + 1) else (false, i)
    if src.hasText j "inf" then .ok (if negative then -(1.0 / 0.0) else 1.0 / 0.0, j + 3)
    else if src.hasText j "nan" then .ok (0.0 / 0.0, j + 3)
    else .error { pos := j }

/-- What a value must start with, as a failure of the string rule. -/
def stringStart (f : Failure) : Failure := ((f.label "string").expect "`\"`").expect "`'`"

/-- A word `word` giving `v`, or a hard failure naming strings. -/
def keyword (word : String) (v : Value) (i : Nat) : Reading Value :=
  if src.hasText i word then .ok (v, i + word.length)
  else .error (stringStart { pos := i, cut := true })

/-- The entries of an inline table from its keys and values, in order. -/
def inlineEntries (entries : List (String × Value)) :
    List (List Key × Value) → Except Conflict (List (String × Value))
  | [] => .ok entries
  | (path, v) :: rest =>
    match path.getLast? with
    | some key => do
      let entries ← insertInline [] path.dropLast false entries key v
      inlineEntries entries rest
    | none => inlineEntries entries rest

mutual

/-- A value: a string, a number, a date-time, a boolean, an array or an inline table.  The
first byte decides which; at the end of the input there is none to look at, so that failure
names nothing, and a byte that starts no value names a string as what was expected.  An
array or inline table nested too deep stops the whole reading. -/
def value (depth : Nat) : Nat → Nat → Reading Value
  | 0, i => .error { pos := i, cut := true, cause := some Conflict.tooDeep.message }
  | fuel + 1, i =>
    let spanned {α : Type} (r : Reading α) (make : α → Span → Value) : Reading Value :=
      r.map fun (a, j) => (make a ⟨i, j⟩, j)
    match src.get? i with
    | none => .error { pos := i }
    | some b =>
      if b == 34 || b == 39 then spanned (anyString src i) Value.string
      else if b == 91 then
        if depth + 1 ≥ nestingLimit then
          .error { pos := i, cut := true, cause := some Conflict.tooDeep.message }
        else array (depth + 1) fuel i
      else if b == 123 then
        if depth + 1 ≥ nestingLimit then
          .error { pos := i, cut := true, cause := some Conflict.tooDeep.message }
        else inlineTable (depth + 1) fuel i
      else if b == 43 || b == 45 || isDigit b then
        match dateTime src i with
        | .ok ((), j) => .ok (.datetime (src.slice i j) ⟨i, j⟩, j)
        | .error f =>
          if f.cut then .error f
          else match float src i with
            | .ok (x, j) => .ok (.float x ⟨i, j⟩, j)
            | .error f =>
              if f.cut then .error f
              else spanned (integer src i) Value.integer
      else if b == 95 then (spanned (integer src i) Value.integer).mapError (Failure.expect "leading digit")
      else if b == 46 then (spanned (float src i) Value.float).mapError (Failure.expect "leading digit")
      else if b == 116 then
        (keyword src "true" (.boolean true ⟨i, i + 4⟩) i)
      else if b == 102 then
        (keyword src "false" (.boolean false ⟨i, i + 5⟩) i)
      else if b == 105 then
        if src.hasText i "inf" then .ok (.float (1.0 / 0.0) ⟨i, i + 3⟩, i + 3)
        else .error (stringStart { pos := i })
      else if b == 110 then
        if src.hasText i "nan" then .ok (.float (0.0 / 0.0) ⟨i, i + 3⟩, i + 3)
        else .error (stringStart { pos := i })
      else .error (stringStart { pos := i })

/-- An array: `[`, values separated by commas (a last comma allowed), with blanks, line
breaks and comments around them, `]`. -/
def array (depth : Nat) : Nat → Nat → Reading Value
  | 0, i => .error { pos := i, cut := true, cause := some Conflict.tooDeep.message }
  | fuel + 1, i =>
    let afterItems : Except Failure (List Value × Nat) :=
      match arrayItem depth fuel (i + 1) with
      | .error f => if f.cut then .error f else .ok ([], i + 1)
      | .ok (first, j) =>
        match arrayMore depth fuel [first] j with
        | .error f => .error f
        | .ok (items, k) => .ok (items, if src.is k ',' then k + 1 else k)
    match afterItems with
    | .error f => .error f.hard
    | .ok (items, j) =>
      let k := blankLines src j
      if src.is k ']' then .ok (.array items ⟨i, k + 1⟩, k + 1)
      else .error ((({ pos := k, cut := true } : Failure).label "array").expect "`]`")

/-- An array item with the blanks, line breaks and comments around it. -/
def arrayItem (depth : Nat) : Nat → Nat → Reading Value
  | 0, i => .error { pos := i, cut := true, cause := some Conflict.tooDeep.message }
  | fuel + 1, i => show Except Failure (Value × Nat) from do
    let (v, j) ← value depth fuel (blankLines src i)
    .ok (v, blankLines src j)

/-- Further array items, each after a comma. -/
def arrayMore (depth : Nat) : Nat → List Value → Nat → Reading (List Value)
  | 0, acc, i => .ok (acc, i)
  | fuel + 1, acc, i =>
    if !src.is i ',' then .ok (acc, i)
    else match arrayItem depth fuel (i + 1) with
      | .ok (v, j) => arrayMore depth fuel (acc ++ [v]) j
      | .error f => if f.cut then .error f else .ok (acc, i)

/-- A key and value inside an inline table. -/
def inlineKeyValue (depth : Nat) : Nat → Nat → Reading (List Key × Value)
  | 0, i => .error { pos := i, cut := true, cause := some Conflict.tooDeep.message }
  | fuel + 1, i => show Except Failure ((List Key × Value) × Nat) from do
    let (path, j) ← dottedKey src i
    if !src.is j '=' then
      throw ((({ pos := j, cut := true } : Failure).expect "`.`").expect "`=`")
    let (v, k) ← (value depth fuel (blanks src (j + 1))).mapError Failure.hard
    .ok ((path, v), blanks src k)

/-- Further keys and values of an inline table, each after a comma. -/
def inlineMore (depth : Nat) : Nat → List (List Key × Value) → Nat →
    Reading (List (List Key × Value))
  | 0, acc, i => .ok (acc, i)
  | fuel + 1, acc, i =>
    if !src.is i ',' then .ok (acc, i)
    else match inlineKeyValue depth fuel (i + 1) with
      | .ok (kv, j) => inlineMore depth fuel (acc ++ [kv]) j
      | .error f => if f.cut then .error f else .ok (acc, i)

/-- An inline table: `{`, keys and values separated by commas on one line, `}`. -/
def inlineTable (depth : Nat) : Nat → Nat → Reading Value
  | 0, i => .error { pos := i, cut := true, cause := some Conflict.tooDeep.message }
  | fuel + 1, i =>
    let pairs : Except Failure (List (List Key × Value) × Nat) :=
      match inlineKeyValue depth fuel (i + 1) with
      | .error f => if f.cut then .error f else .ok ([], i + 1)
      | .ok (first, j) => inlineMore depth fuel [first] j
    match pairs with
    | .error f => .error f.hard
    | .ok (pairs, j) =>
      match inlineEntries [] pairs with
      | .error c => .error { pos := i + 1, cut := true, cause := some c.message }
      | .ok entries =>
        let k := blanks src j
        if src.is k '}' then .ok (.inlineTable entries false (some ⟨i, k + 1⟩), k + 1)
        else .error ((({ pos := k, cut := true } : Failure).label "inline table").expect "`\x7d`")

end

/-- A key, `=`, a value, and the rest of the line. -/
def keyValueLine (i : Nat) : Except Failure ((List Key × Value) × Nat) := do
  let (path, j) ← dottedKey src i
  if !src.is j '=' then
    throw ((({ pos := j, cut := true } : Failure).expect "`.`").expect "`=`")
  let (v, k) ← (value src 0 (4 * src.bytes.size + 16) (blanks src (j + 1))).mapError Failure.hard
  match lineTrailing src k with
  | .ok ((), m) => .ok ((path, v), m)
  | .error f => .error ((f.hard.expect "newline").expect "`#`")

/-- A table header, `[key]` or `[[key]]`, and the rest of its line: whether it opens a
member of an array of tables, its key, and its range.  Telling the two apart needs two
bytes, so a `[` ending the document fails where it stands. -/
def header (i : Nat) : Reading (Bool × List Key × Span) :=
  ((do
    if i + 2 > src.bytes.size then throw { pos := i, cut := true }
    let double := src.hasText i "[["
    let start := if double then i + 2 else i + 1
    let (path, j) ← (dottedKey src start).mapError Failure.hard
    let close := if double then "]]" else "]"
    if !src.hasText j close then
      throw ((({ pos := j, cut := true } : Failure).expect "`.`").expect ("`" ++ close ++ "`"))
    let stop := j + close.length
    match lineTrailing src stop with
    | .ok ((), k) => .ok ((double, path, ⟨i, stop⟩), k)
    | .error f => .error ((f.hard.expect "newline").expect "`#`") :
      Except Failure ((Bool × List Key × Span) × Nat))).mapError (Failure.label "table header")

/-- Read the lines of a document from `i` into `b`. -/
def lines (b : Builder) (i : Nat) : Nat → Except Failure (Builder × Nat)
  | 0 => .ok (b, i)
  | fuel + 1 =>
    match src.get? i with
    | none => .ok (b, i)
    | some byte =>
      let continueAt (b : Builder) (j : Nat) := lines b (blanks src j) fuel
      if byte == 35 then
        let j := (comment? src i).getD i
        match lineEnd? src j with
        | some k => continueAt b k
        | none => .error { pos := j, cut := true }
      else if byte == 91 then
        match header src i with
        | .error f => .error f
        | .ok ((double, path, span), j) =>
          let opened := if double then b.openArrayMember path span else b.openTable path span
          match opened with
          | .ok b => continueAt b j
          | .error c =>
            .error (({ pos := i, cut := true, cause := some c.message } : Failure).label "table header")
      else if byte == 10 || byte == 13 then
        match newline? src i with
        | some j => continueAt b j
        | none => .ok (b, i)
      else
        match keyValueLine src i with
        | .error f => .error f
        | .ok ((path, v), j) =>
          match path.getLast? with
          | none => .error { pos := i, cut := true }
          | some key =>
            match b.addKeyValue path.dropLast key v with
            | .ok b => continueAt b j
            | .error c => .error { pos := i, cut := true, cause := some c.message }

end

/-- How many bytes the character starting with a byte takes in UTF-8; none at the end. -/
def charWidth : Option UInt8 → Nat
  | none => 0
  | some b => if b < 0xC0 then 1 else if b < 0xE0 then 2 else if b < 0xF0 then 3 else 4

/-- Why a document could not be read: a message and, when known, the range it is about.
A range at an offset covers the whole character there. -/
structure ReadError where
  message : String
  span : Option Span
deriving Repr, Inhabited

/-- Read a document into its root table. -/
def readDocument (text : String) : Except ReadError OpenTable :=
  let src : Source := ⟨text.toUTF8⟩
  let size := src.bytes.size
  let spanAt (pos : Nat) : Span := ⟨pos, min size (pos + charWidth (src.get? pos))⟩
  let start := if src.hasText 0 "\uFEFF" then 3 else 0
  match lines src {} (blanks src start) (size + 1) with
  | .error f => .error ⟨f.message, some (spanAt f.pos)⟩
  | .ok (b, i) =>
    if i < size then .error ⟨"", some (spanAt i)⟩
    else match b.finish with
      | .ok b => .ok b.document
      | .error c => .error ⟨c.message, none⟩

end BalancerSync.Toml
