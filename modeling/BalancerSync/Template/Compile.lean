import BalancerSync.Template.Grammar
import BalancerSync.Template.Syntax
import BalancerSync.Json.Text
import BalancerSync.Text.Quote
import BalancerSync.Text.Whitespace

/-!
# Compiling templates

A template's text is parsed by the grammar of `Template.Grammar`; the spans are
then read into elements.  Reading keeps a small cursor between tags:

- text the grammar skipped between two tags is kept as text, unless the tag
  before ended in `~`;
- a tag with `~` after its opening braces trims the blanks ending the text
  before it; a tag with `~` before its closing braces trims those starting the
  text after it;
- a block tag, an `{{else}}`, a comment or a decorator standing alone on its line
  removes that line: the blanks before it and the line break after it.

Errors carry the position and an excerpt of the surrounding lines, with the
column marked.
-/

namespace BalancerSync.Template

open BalancerSync.Peg

/-- What is wrong with a template's text. -/
inductive SyntaxProblem where
  /-- The grammar does not match; the message says what it expected. -/
  | invalidSyntax (message : String)
  /-- A block closed with another helper's name. -/
  | mismatchedHelper (opened closed : String)
  /-- A decorator or partial block closed with another name. -/
  | mismatchedDecorator (opened closed : String)
  /-- A literal argument that is not a valid value. -/
  | invalidParam (text : String)
deriving Repr

/-- The sentence for a problem. -/
def SyntaxProblem.message : SyntaxProblem → String
  | .invalidSyntax m => "invalid handlebars syntax: " ++ m
  | .mismatchedHelper a b =>
    "helper " ++ Text.quoted a ++ " was opened, but " ++ Text.quoted b ++ " is closing"
  | .mismatchedDecorator a b =>
    "decorator " ++ Text.quoted a ++ " was opened, but " ++ Text.quoted b ++ " is closing"
  | .invalidParam t => "invalid parameter " ++ Text.quoted t

/-- A template that does not compile: the problem, the template's name, and where
it is with an excerpt of the lines around. -/
structure TemplateError where
  problem : SyntaxProblem
  template : Option String
  place : Option (Pos × String)
deriving Repr

/-- The full report of a compile error. -/
def TemplateError.message (e : TemplateError) : String :=
  let reason := e.problem.message
  match e.place with
  | some (pos, excerpt) =>
    "Template error: " ++ reason ++ "\n    --> Template error in \"" ++
      e.template.getD "Unnamed template" ++ "\":" ++ toString pos.line ++ ":" ++
      toString pos.column ++ "\n     |\n" ++ excerpt ++ "     |\n     = reason: " ++ reason ++ "\n"
  | none => reason

/-- The debug view of a problem. -/
def SyntaxProblem.debug : SyntaxProblem → String
  | .invalidSyntax m => "InvalidSyntax(" ++ Text.quoted m ++ ")"
  | .mismatchedHelper a b => "MismatchingClosedHelper(" ++ Text.quoted a ++ ", " ++ Text.quoted b ++ ")"
  | .mismatchedDecorator a b =>
    "MismatchingClosedDecorator(" ++ Text.quoted a ++ ", " ++ Text.quoted b ++ ")"
  | .invalidParam t => "InvalidParam(" ++ Text.quoted t ++ ")"

/-- The debug view of an optional value: `Some(<view>)` or `None`. -/
def optionDebug {α : Type} (view : α → String) : Option α → String
  | some a => "Some(" ++ view a ++ ")"
  | none => "None"

/-- The debug view of a compile error. -/
def TemplateError.debug (e : TemplateError) : String :=
  "TemplateError \x7b reason: " ++ e.problem.debug ++ ", template_name: " ++
    optionDebug Text.quoted e.template ++ ", line_no: " ++
    optionDebug (fun (p : Pos × String) => toString p.1.line) e.place ++ ", column_no: " ++
    optionDebug (fun (p : Pos × String) => toString p.1.column) e.place ++ ", segment: " ++
    optionDebug (fun (p : Pos × String) => Text.quoted p.2) e.place ++ " \x7d"

/-- The lines of a text: split at line feeds, a carriage return just before a line
feed dropped, and no empty line after a final line feed.  A last line with no line
feed after it keeps a carriage return that ends it. -/
def textLines (s : String) : List String :=
  if s.isEmpty then []
  else
    let parts := s.splitOn "\n"
    let ended := s.endsWith "\n"
    let parts := if ended then parts.dropLast else parts
    let count := parts.length
    parts.zipIdx.map fun (l, i) =>
      let cs := l.toList
      if cs.getLast? = some '\r' && (ended || i + 1 < count) then String.ofList cs.dropLast else l

/-- A number right-aligned in four columns. -/
def padFour (n : Nat) : String :=
  let s := toString n
  String.ofList (List.replicate (4 - s.length) ' ') ++ s

/-- The excerpt around line `line` (from one): up to three lines before and
after, numbered from zero, with a rule under the line itself whose `^` stands
at byte `column`. -/
def excerpt (text : String) (line column : Nat) : String :=
  let first := line - 3
  let last := line + 3
  let shown := (textLines text).zipIdx.filter fun (_, i) => first ≤ i ∧ i ≤ last
  String.join <| shown.map fun (content, i) =>
    let row := padFour i ++ " | " ++ content ++ "\n"
    if i = line - 1 then
      let marks := (List.range content.utf8ByteSize).map fun c => if c = column then '^' else '-'
      row ++ "     |" ++ String.ofList marks ++ "\n"
    else row

/-- The text being compiled, with its name. -/
structure Source where
  chars : Array Char
  name : Option String

namespace Source

/-- The characters from `a` to `b`. -/
def slice (src : Source) (a b : Nat) : String :=
  String.ofList (src.chars.extract a b).toList

/-- Line and column counted over characters; CR LF is one line break. -/
def lineColOf : List Char → Nat → Nat → Pos
  | [], line, col => ⟨line, col⟩
  | '\r' :: '\n' :: rest, line, _ => lineColOf rest (line + 1) 1
  | '\n' :: rest, line, _ => lineColOf rest (line + 1) 1
  | _ :: rest, line, col => lineColOf rest line (col + 1)

/-- Line and column of a position. -/
def lineCol (src : Source) (pos : Nat) : Pos :=
  lineColOf (src.chars.extract 0 pos).toList 1 1

/-- An error at a position. -/
def failAt (src : Source) (pos : Nat) (problem : SyntaxProblem) : TemplateError :=
  let here := src.lineCol pos
  ⟨problem, src.name, some (here, excerpt (String.ofList src.chars.toList) here.line here.column)⟩

end Source

/-- Spaces and tabs, the blanks of a line. -/
def isLineBlank (c : Char) : Bool := c == ' ' || c == '\t'

/-- What follows starts with an empty rest of line: blanks, then a line break. -/
def startsWithEmptyLine (cs : List Char) : Bool :=
  match cs.dropWhile isLineBlank with
  | c :: _ => c == '\n' || c == '\r'
  | [] => false

/-- What precedes ends with a line holding only blanks so far. -/
def endsWithEmptyLine (cs : List Char) : Bool :=
  match (cs.reverse.dropWhile isLineBlank) with
  | c :: _ => c == '\n' || c == '\r'
  | [] => true

/-- Drop one line break at the front, CR LF or LF. -/
def dropFirstNewline : List Char → List Char
  | '\r' :: '\n' :: rest => rest
  | '\n' :: rest => rest
  | cs => cs

/-- Text between or around tags, after the trims asked for: all white space at
the front after a `~`, or the rest of a line after a lone tag. -/
def trimmedText (text : String) (trimStart trimLine : Bool) : String :=
  if trimStart then Text.trimStart text
  else if trimLine then String.ofList (dropFirstNewline (text.toList.dropWhile isLineBlank))
  else text

/-- Where compiling stands between two tags. -/
structure Cursor where
  /-- Where the last tag or text ended. -/
  prevEnd : Nat := 0
  /-- The last tag ended with `~`: blanks after it go. -/
  trimNext : Bool := false
  /-- The last tag stood alone on its line: the rest of that line goes. -/
  trimLine : Bool := false

/-- Keep skipped text before a tag starting at `start`. -/
def keepGap (src : Source) (c : Cursor) (start : Nat) (body : Array Element) :
    Array Element × Cursor :=
  if start ≠ c.prevEnd ∧ !c.trimNext then
    (body.push (.text (trimmedText (src.slice c.prevEnd start) false c.trimLine)),
      { c with trimLine := false })
  else (body, c)

/-- Apply `f` to the last element when it is text. -/
def mapLastText (f : String → String) (body : Array Element) : Array Element :=
  match body.back? with
  | some (.text t) => body.pop.push (.text (f t))
  | _ => body

/-- A lone tag: whether it stands alone on its line, and the body with the
blanks before it on that line removed when it does. -/
def standalone (src : Source) (span : Span Rule) (body : Array Element) :
    Array Element × Bool :=
  let after := (src.chars.extract span.stop src.chars.size).toList
  if startsWithEmptyLine after || after.isEmpty then
    let leading := endsWithEmptyLine (src.chars.extract 0 span.start).toList
    let body := if leading then
        mapLastText (fun t => String.ofList (t.toList.reverse.dropWhile isLineBlank).reverse) body
      else body
    (body, span.start = 0 || leading)
  else (body, false)

/-- The text of a span with the backslash of each escape inside it removed,
read from `start` (which may lie before the span). -/
def withoutEscapes (src : Source) (span : Span Rule) (start : Nat) : String :=
  let escapes := span.children.filterMap fun s => if s.rule = .escape then some s.start else none
  let cs := ((src.chars.extract start span.stop).toList.zipIdx).filterMap fun (c, i) =>
    if escapes.contains (start + i) then none else some c
  String.ofList cs

/-- The path a `reference` span holds; `this` steps are dropped. -/
def pathOf (src : Source) (reference : Span Rule) : Path :=
  let steps := (reference.children.flatMap Span.children).filterMap fun s =>
    match s.rule with
    | .pathRoot => some Step.root
    | .pathLocal => some Step.variable
    | .pathUp => some Step.up
    | .pathId | .pathRawId =>
      let t := src.slice s.start s.stop
      if t = "this" then none else some (Step.key t)
    | _ => none
  Path.ofSteps steps (src.slice reference.start reference.stop)

/-- The value a `literal` span writes: its text read as a document, single quotes
turned into double ones first. -/
def literalOf (src : Source) (literal : Span Rule) : Except TemplateError Param :=
  let text := src.slice literal.start literal.stop
  let written := match literal.children with
    | [str] => match str.children with
      | [inner] =>
        if inner.rule = .stringInnerSingleQuote then
          "\"" ++ ((src.slice inner.start inner.stop).replace "\\'" "'").replace "\"" "\\\"" ++ "\""
        else text
      | _ => text
    | _ => text
  match Json.parse written with
  | .ok value => .ok (.literal value)
  | .error _ => .error ⟨.invalidParam text, none, none⟩

/-- The error for input nested beyond the compile bound. -/
def tooDeep (src : Source) : TemplateError :=
  ⟨.invalidSyntax "nesting too deep", src.name, none⟩

/-- Add a named argument, a later one replacing an earlier one of the same name. -/
def setHash (hash : List (String × Param)) (key : String) (value : Param) :
    List (String × Param) :=
  if hash.any (·.1 == key) then hash.map fun (k, v) => if k == key then (k, value) else (k, v)
  else hash ++ [(key, value)]

mutual

/-- An argument, read from a `param` span. -/
def paramOf (src : Source) : Nat → Span Rule → Except TemplateError Param
  | 0, _ => .error (tooDeep src)
  | fuel + 1, span =>
    match span.children with
    | inner :: _ =>
      if inner.rule = .literal then literalOf src inner
      else if inner.rule = .reference then .ok (.path (pathOf src inner))
      else do
        let call ← callOf src fuel inner
        .ok (.call call.head call.args call.hash)
    | [] => .error (tooDeep src)

/-- The call in a tag or a parenthesised expression. -/
def callOf (src : Source) : Nat → Span Rule → Except TemplateError Call
  | 0, _ => .error (tooDeep src)
  | fuel + 1, span => do
    let (call, named) ← readParts src fuel span.children { head := .name "" } false
    if named then .ok call
    else
      -- `{{else}}` and `{{^}}` are named by their keyword
      let item := span.children.find? (·.rule = .invertTagItem)
      .ok { call with head := .name (item.map (fun s => src.slice s.start s.stop) |>.getD "") }

/-- Read the parts of a call: trimming marks, head, arguments, block parameters. -/
def readParts (src : Source) : Nat → List (Span Rule) → Call → Bool →
    Except TemplateError (Call × Bool)
  | 0, _, _, _ => .error (tooDeep src)
  | _ + 1, [], call, named => .ok (call, named)
  | fuel + 1, part :: rest, call, named =>
    match part.rule with
    | .leadingTilde => readParts src fuel rest { call with trimBefore := true } named
    | .trailingTilde => readParts src fuel rest { call with trimAfter := true } named
    | .identifier | .partialIdentifier =>
      if named then readParts src fuel rest call named
      else readParts src fuel rest { call with head := .name (src.slice part.start part.stop) } true
    | .reference =>
      if named then readParts src fuel rest call named
      else readParts src fuel rest { call with head := .path (pathOf src part) } true
    | .subexpression =>
      if named then readParts src fuel rest call named
      else do
        let inner ← callOf src fuel part
        readParts src fuel rest { call with head := .call inner.head inner.args inner.hash } true
    | .param => do
      let p ← paramOf src fuel part
      readParts src fuel rest { call with args := call.args ++ [p] } named
    | .hash =>
      match part.children with
      | key :: value :: _ => do
        let p ← paramOf src fuel value
        readParts src fuel rest
          { call with hash := setHash call.hash (src.slice key.start key.stop) p } named
      | _ => readParts src fuel rest call named
    | .blockParam =>
      let names := part.children.map fun s => src.slice s.start s.stop
      match names with
      | first :: more =>
        readParts src fuel rest { call with blockParams := some ⟨first, more.head?⟩ } named
      | [] => readParts src fuel rest call named
    | _ => readParts src fuel rest call named

end

/-- Read a tag into the body it closes or opens in: keep the gap before it,
apply its trimming marks, and, for a tag that may stand alone, remove its line. -/
def tagInto (src : Source) (fuel : Nat) (span : Span Rule) (c : Cursor) (body : Array Element)
    (lone : Bool) : Except TemplateError (Array Element × Cursor × Call) := do
  let (body, c) := keepGap src c span.start body
  let call ← callOf src fuel span
  let body := if call.trimBefore then mapLastText Text.trimEnd body else body
  let c := { c with trimNext := call.trimAfter }
  let (body, c) :=
    if lone then
      let (body, line) := standalone src span body
      (body, { c with trimLine := line })
    else (body, c)
  .ok (body, { c with prevEnd := span.stop }, call)

/-- The name a block's head or end tag is compared by. -/
def headName : Param → Option String
  | .name n => some n
  | .path p => some p.raw
  | _ => none

/-- Whether an end tag closes a decorator or partial block: it names the same
head, or no name at all (`{{/}}`). -/
def closesDecorator (head closing : Param) : Bool :=
  headName closing = some "" || headName head = headName closing

/-- How a name appears in a mismatch message. -/
def shownName : Param → String
  | .name n => n
  | .path p => p.raw
  | .literal v => v.render
  | .call _ _ _ => "Subexpression"

/-- A chain of `{{else h}}` links: each later link is the inverse of the one before. -/
def chainBlock (links : List (Call × Array Element)) (inverse : Option (Array Element)) :
    Option (List Element) :=
  match links with
  | [] => inverse.map Array.toList
  | (call, body) :: more => some [.block none call (some body.toList) (chainBlock more inverse)]

/-- The block element of a chain of links, the first link at the head tag's position. -/
def blockOfLinks (pos : Pos) (links : List (Call × Array Element)) (inverse : Option (Array Element)) :
    Element :=
  match links with
  | (call, body) :: more => .block (some pos) call (some body.toList) (chainBlock more inverse)
  | [] => .text ""

mutual

/-- Read the elements of a body, from the spans inside its `template` span. -/
def items (src : Source) : Nat → List (Span Rule) → Cursor → Array Element →
    Except TemplateError (Array Element × Cursor)
  | 0, _, _, _ => .error (tooDeep src)
  | _ + 1, [], c, body => .ok (body, c)
  | fuel + 1, s :: rest, c, body =>
    match s.rule with
    | .rawText =>
      let start := if s.start ≠ c.prevEnd then c.prevEnd else s.start
      let text := trimmedText (withoutEscapes src s start) c.trimNext c.trimLine
      items src fuel rest { c with prevEnd := s.stop, trimLine := false } (body.push (.text text))
    | .expression | .htmlExpression => do
      let (body, c, call) ← tagInto src fuel s c body false
      let pos := src.lineCol s.start
      items src fuel rest c (body.push (.value pos call (s.rule = .htmlExpression)))
    | .comment | .compactComment =>
      let (body, c) := keepGap src c s.start body
      let (body, line) := standalone src s body
      items src fuel rest { c with trimLine := line, prevEnd := s.stop }
        (body.push (.comment (src.slice s.start s.stop)))
    | .decoratorExpression => do
      let (body, c, call) ← tagInto src fuel s c body true
      items src fuel rest c (body.push (.decorator (src.lineCol s.start) call none))
    | .partialExpression => do
      let (body, c, call) ← tagInto src fuel s c body true
      let before := (src.chars.extract 0 s.start).toList.reverse.takeWhile isLineBlank
      let indent := if call.trimBefore || before.isEmpty then none
        else some (String.ofList before.reverse)
      items src fuel rest c (body.push (.includePartial (src.lineCol s.start) call none indent))
    | .helperBlockStart | .rawBlockStart | .decoratorBlockStart | .partialBlockStart => do
      let (body, c, rest) ← blockOf src fuel s rest c body
      items src fuel rest c body
    | _ => items src fuel rest c body

/-- Read a block from its start tag and the spans after it; give the body with
the block added, the cursor, and the spans after the block. -/
def blockOf (src : Source) : Nat → Span Rule → List (Span Rule) → Cursor → Array Element →
    Except TemplateError (Array Element × Cursor × List (Span Rule))
  | 0, _, _, _, _ => .error (tooDeep src)
  | fuel + 1, start, rest, c, parent => do
    let (parent, c, call) ← tagInto src fuel start c parent true
    let pos := src.lineCol start.start
    match start.rule, rest with
    | .rawBlockStart, text :: close :: rest =>
      let raw := trimmedText (withoutEscapes src text text.start) c.trimNext c.trimLine
      let c := { c with prevEnd := text.stop }
      let (inner, c, closing) ← tagInto src fuel close c #[.text raw] true
      if headName call.head = headName closing.head then
        .ok (parent.push (.block (some pos) call (some inner.toList) none), c, rest)
      else .error (src.failAt close.start (.mismatchedHelper (shownName call.head) (shownName closing.head)))
    | .helperBlockStart, body :: rest => do
      let (inner, c) ← items src fuel body.children c #[]
      linksOf src fuel pos call [] call inner rest c parent
    | .decoratorBlockStart, body :: close :: rest => do
      let (inner, c) ← items src fuel body.children c #[]
      let (inner, c, closing) ← tagInto src fuel close c inner true
      if closesDecorator call.head closing.head then
        .ok (parent.push (.decorator pos call (some inner.toList)), c, rest)
      else .error (src.failAt close.start (.mismatchedDecorator (shownName call.head) (shownName closing.head)))
    | .partialBlockStart, body :: close :: rest => do
      let (inner, c) ← items src fuel body.children c #[]
      let (inner, c, closing) ← tagInto src fuel close c inner true
      if closesDecorator call.head closing.head then
        .ok (parent.push (.includePartial pos call (some inner.toList) none), c, rest)
      else .error (src.failAt close.start (.mismatchedDecorator (shownName call.head) (shownName closing.head)))
    | _, _ => .error (tooDeep src)

/-- The rest of a helper block: `{{else h}}` links, an `{{else}}` part, the end tag.
`done` holds the finished links, `call` and `body` the one being read. -/
def linksOf (src : Source) : Nat → Pos → Call → List (Call × Array Element) → Call →
    Array Element → List (Span Rule) → Cursor → Array Element →
    Except TemplateError (Array Element × Cursor × List (Span Rule))
  | 0, _, _, _, _, _, _, _, _ => .error (tooDeep src)
  | fuel + 1, pos, head, done, call, body, next :: rest, c, parent =>
    match next.rule, rest with
    | .invertChainTag, more :: rest => do
      let (body, c, link) ← tagInto src fuel next c body true
      let (inner, c) ← items src fuel more.children c #[]
      linksOf src fuel pos head (done ++ [(call, body)]) link inner rest c parent
    | .invertTag, more :: close :: rest => do
      let (body, c, _) ← tagInto src fuel next c body true
      let (inverse, c) ← items src fuel more.children c #[]
      let (inverse, c, closing) ← tagInto src fuel close c inverse true
      let links := done ++ [(call, body)]
      if headName head.head = headName closing.head then
        .ok (parent.push (blockOfLinks pos links (some inverse)), c, rest)
      else .error (src.failAt close.start (.mismatchedHelper (shownName head.head) (shownName closing.head)))
    | .helperBlockEnd, rest => do
      let (body, c, closing) ← tagInto src fuel next c body true
      let links := done ++ [(call, body)]
      if headName head.head = headName closing.head then
        .ok (parent.push (blockOfLinks pos links none), c, rest)
      else .error (src.failAt next.start (.mismatchedHelper (shownName head.head) (shownName closing.head)))
    | _, _ => .error (tooDeep src)
  | _ + 1, _, _, _, _, _, [], _, _ => .error (tooDeep src)

end

/-- Compile a template under an optional name. -/
def compile (name : Option String) (text : String) : Except TemplateError Compiled :=
  let src : Source := ⟨text.toList.toArray, name⟩
  match parse grammar .handlebars src.chars with
  | .error f => .error (src.failAt f.position (.invalidSyntax (f.message grammar)))
  | .ok [root, eoi] => do
    let (body, c) ← items src (64 * (src.chars.size + 16)) root.children {} #[]
    let (body, _) := keepGap src c eoi.start body
    .ok ⟨name, body.toList⟩
  | .ok _ => .error (tooDeep src)

end BalancerSync.Template
