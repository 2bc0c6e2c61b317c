import BalancerSync.Toml.Decode
import BalancerSync.Text.Quote

/-!
# Reporting TOML failures

A failure to read or decode a document is reported with an excerpt of the line it points
at:

```
TOML parse error at line 2, column 17
  |
2 | quiescence_ms = -1
  |                 ^^
invalid value: integer `-1`, expected u64
```

The line and column are counted from the byte the failure starts at.  The column counts the
characters before it, except that a failure starting on a character of several bytes
counts the bytes before it instead.  The carets cover the failure's range, cut at the end of
the line, and are at least one.  A failure with no place is reported by its message alone.
-/

namespace BalancerSync.Toml

/-- A failure to read or decode a document: a message, when known the range it is about, and
the keys leading to the value it is about. -/
structure TomlError where
  message : String
  span : Option Span := none
  keys : List String := []
deriving Repr, Inhabited

/-- The bytes before an offset. -/
def bytesBefore (bytes : ByteArray) (stop : Nat) : List UInt8 :=
  (bytes.extract 0 stop).toList

/-- The line (from zero) and column (from zero) of a byte offset. -/
def lineAndColumn (bytes : ByteArray) (index : Nat) : Nat × Nat :=
  if bytes.size = 0 then (0, index)
  else
    let safe := min index (bytes.size - 1)
    let before := bytesBefore bytes safe
    let lineStart := match before.zipIdx.reverse.find? (fun (b, _) => b == 10) with
      | some (_, k) => k + 1
      | none => 0
    let line := (bytesBefore bytes lineStart).count 10
    let column := match String.fromUTF8? (bytes.extract lineStart (safe + 1)) with
      | some s => s.length - 1
      | none => safe - lineStart
    (line, column + (index - safe))

/-- The `n`-th line of a text, cut at line feeds. -/
def nthLine (text : String) (n : Nat) : String :=
  ((text.splitOn "\n")[n]?).getD ""

/-- `n` spaces. -/
def spaces (n : Nat) : String := String.ofList (List.replicate n ' ')

/-- The report of a failure in the document `raw`. -/
def TomlError.render (raw : String) (e : TomlError) : String :=
  match e.span with
  | none =>
    e.message ++ "\n" ++
      (if e.keys.isEmpty then "" else "in " ++ "`" ++ ".".intercalate e.keys ++ "`" ++ "\n")
  | some span =>
    let (line, column) := lineAndColumn raw.toUTF8 span.start
    let number := toString (line + 1)
    let gutter := number.length
    let content := nthLine raw line
    let highlight := min (span.stop - span.start) (content.utf8ByteSize - column)
    "TOML parse error at line " ++ number ++ ", column " ++ toString (column + 1) ++ "\n" ++
      spaces (gutter + 1) ++ "|\n" ++
      number ++ " | " ++ content ++ "\n" ++
      spaces (gutter + 1) ++ "|" ++ spaces (column + 1) ++ "^" ++
        String.ofList (List.replicate (highlight - 1) '^') ++ "\n" ++
      e.message ++ "\n"

/-- The debug view of a failure in the document `raw`. -/
def TomlError.debug (raw : String) (e : TomlError) : String :=
  "TomlError \x7b message: " ++ Text.quoted e.message ++ ", raw: Some(" ++ Text.quoted raw ++
    "), keys: [" ++ ", ".intercalate (e.keys.map Text.quoted) ++ "], span: " ++
    (match e.span with
     | some s => "Some(" ++ toString s.start ++ ".." ++ toString s.stop ++ ")"
     | none => "None") ++ " \x7d"

/-- Read a document and decode it by a shape. -/
def decodeText (shape : Schema.Shape) (raw : String) : Except TomlError Json :=
  match readDocument raw with
  | .error e => .error { message := e.message, span := e.span }
  | .ok root =>
    match decodeDocument shape root with
    | .error e => .error { message := e.message, span := e.span, keys := e.keys }
    | .ok v => .ok v

end BalancerSync.Toml
