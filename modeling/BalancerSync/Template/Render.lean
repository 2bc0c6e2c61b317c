import BalancerSync.Template.Compile

/-!
# Rendering templates

A compiled template is rendered against a data value.  Paths are looked up in
strict mode: a path that leads nowhere is an error, not empty text.  Values are
written without escaping: text as it is, numbers and booleans in their usual
spelling, null as nothing, arrays as `[a, b]` and objects as `[object]`.

Blocks and partials push frames.  A frame knows where in the data the block
stands (a path, or a computed value with no path), its local variables (`@index`,
`@key`, `@first`, `@last`, seen also from the frames inside it), its block
parameters, and the partials defined inline while it is open.  `../` climbs frames
and `@root` starts from the data.  A partial called with a block renders that block
first, in the partial's frame, and keeps the text pending for `{{> @partial-block}}`.

Inside a partial written alone on its line after blanks, every line the partial
writes starts with those blanks: text, values and helper output are indented after
each line break inside them, and before their first character when the output
stands at the start of a line.  The built-in tests write their `true` or `false`
as they are.

Helpers come in two sorts.  Value helpers compute a value from their arguments;
used in a tag they write it, used in parentheses they give it; the built-in tests
(`eq`, `gt`, `and`, ...) used as a block choose between the block and its inverse.
Block helpers (`if`, `unless`, `each`, `with`, `raw`, `log`) render parts of their
block; in parentheses their output becomes a text value.  A registry adds value
helpers of its own to the built-in ones, and holds named templates usable as
partials.

An error records the position of the innermost tag it came from and the name of
the template it surfaced in; a helper may also stop rendering altogether with a
panic.
-/

namespace BalancerSync.Template

/-- Why rendering stopped with an error. -/
inductive RenderProblem where
  | templateNotFound (name : String)
  | missingVariable (path : Option String)
  | partialNotFound (name : String)
  | helperNotFound (name : String)
  | paramNotFoundForIndex (helper : String) (index : Nat)
  | paramNotFoundForName (helper param : String)
  | paramTypeMismatchForName (helper param type : String)
  | decoratorNotFound (name : String)
  | cannotIncludeSelf
  | invalidLoggingLevel (level : String)
  | invalidParamType (expected : String)
  | blockContentRequired
  | invalidJsonIndex (index : String)
  | other (message : String)
deriving Repr

/-- The sentence for a problem. -/
def RenderProblem.message : RenderProblem → String
  | .templateNotFound n => "Template not found " ++ n
  | .missingVariable p =>
    "Failed to access variable in strict mode " ++
      (match p with
       | some s => "Some(" ++ Text.quoted s ++ ")"
       | none => "None")
  | .partialNotFound n => "Partial not found " ++ n
  | .helperNotFound n => "Helper not found " ++ n
  | .paramNotFoundForIndex h i =>
    "Helper/Decorator " ++ h ++ " param at index " ++ toString i ++ " required but not found"
  | .paramNotFoundForName h p =>
    "Helper/Decorator " ++ h ++ " param with name " ++ p ++ " required but not found"
  | .paramTypeMismatchForName h p t =>
    "Helper/Decorator " ++ h ++ " param with name " ++ p ++ " type mismatch for " ++ t
  | .decoratorNotFound n => "Decorator not found " ++ n
  | .cannotIncludeSelf => "Can not include current template in partial"
  | .invalidLoggingLevel l => "Invalid logging level: " ++ l
  | .invalidParamType t => "Invalid param type, " ++ t ++ " expected"
  | .blockContentRequired => "Block content required"
  | .invalidJsonIndex i => "Cannot access array/vector with string index, " ++ i
  | .other m => m

/-- The debug view of a problem. -/
def RenderProblem.debug : RenderProblem → String
  | .templateNotFound n => "TemplateNotFound(" ++ Text.quoted n ++ ")"
  | .missingVariable p => "MissingVariable(" ++ optionDebug Text.quoted p ++ ")"
  | .partialNotFound n => "PartialNotFound(" ++ Text.quoted n ++ ")"
  | .helperNotFound n => "HelperNotFound(" ++ Text.quoted n ++ ")"
  | .paramNotFoundForIndex h i => "ParamNotFoundForIndex(" ++ Text.quoted h ++ ", " ++ toString i ++ ")"
  | .paramNotFoundForName h p => "ParamNotFoundForName(" ++ Text.quoted h ++ ", " ++ Text.quoted p ++ ")"
  | .paramTypeMismatchForName h p t =>
    "ParamTypeMismatchForName(" ++ Text.quoted h ++ ", " ++ Text.quoted p ++ ", " ++ Text.quoted t ++ ")"
  | .decoratorNotFound n => "DecoratorNotFound(" ++ Text.quoted n ++ ")"
  | .cannotIncludeSelf => "CannotIncludeSelf"
  | .invalidLoggingLevel l => "InvalidLoggingLevel(" ++ Text.quoted l ++ ")"
  | .invalidParamType t => "InvalidParamType(" ++ Text.quoted t ++ ")"
  | .blockContentRequired => "BlockContentRequired"
  | .invalidJsonIndex i => "InvalidJsonIndex(" ++ Text.quoted i ++ ")"
  | .other m => "Other(" ++ Text.quoted m ++ ")"

/-- A rendering error: the problem, and the template and tag position it is
reported at once known. -/
structure RenderError where
  problem : RenderProblem
  template : Option String := none
  pos : Option Pos := none
deriving Repr

/-- The full report of a rendering error. -/
def RenderError.message (e : RenderError) : String :=
  match e.pos with
  | some p =>
    "Error rendering \"" ++ e.template.getD "Unnamed template" ++ "\" line " ++
      toString p.line ++ ", col " ++ toString p.column ++ ": " ++ e.problem.message
  | none => e.problem.message

/-- The debug view of a rendering error. -/
def RenderError.debug (e : RenderError) : String :=
  "RenderError \x7b template_name: " ++ optionDebug Text.quoted e.template ++ ", line_no: " ++
    optionDebug (fun (p : Pos) => toString p.line) e.pos ++ ", column_no: " ++
    optionDebug (fun (p : Pos) => toString p.column) e.pos ++ ", reason: " ++ e.problem.debug ++
    ", unimplemented: false \x7d"

/-- Rendering stops with an error, or with a panic raised by a helper. -/
inductive Halt where
  | error (e : RenderError)
  | panic (message : String)
deriving Repr

/-- Stop with a problem not yet placed. -/
def Halt.of (p : RenderProblem) : Halt := .error { problem := p }

/-- A value found for an argument, with where it came from. -/
inductive Found where
  /-- Nothing is there. -/
  | missing
  /-- A place in the data, with its path from the root. -/
  | context (value : Json) (path : List String)
  /-- A value computed or taken from a frame, with no path. -/
  | derived (value : Json)
  /-- A literal. -/
  | constant (value : Json)
deriving Inhabited

namespace Found

/-- The value; null when missing. -/
def value : Found → Json
  | .missing => .null
  | .context v _ => v
  | .derived v => v
  | .constant v => v

/-- Whether nothing was found. -/
def isMissing : Found → Bool
  | .missing => true
  | _ => false

/-- The path in the data, for values found there. -/
def contextPath : Found → Option (List String)
  | .context _ p => some p
  | _ => none

end Found

/-- An evaluated argument: the path it was written as, if any, and what it found. -/
structure Arg where
  path : Option String
  found : Found
deriving Inhabited

/-- The value of an argument; null when missing. -/
def Arg.value (a : Arg) : Json := a.found.value

/-- A helper computing a value from its arguments. -/
abbrev ValueHelper := List Arg → Except Halt Json

/-- Templates usable by name, and value helpers added to the built-in ones. -/
structure Registry where
  templates : List (String × Compiled) := []
  helpers : List (String × ValueHelper) := []

/-- What a block parameter stands for: a value, or a path below the block's place. -/
inductive Holder where
  | value (v : Json)
  | path (p : List String)

/-- A block's frame: its place, its local variables and block parameters, and the
partials defined inline while it is open. -/
structure Frame where
  basePath : List String := []
  baseValue : Option Json := none
  locals : List (String × Json) := []
  params : List (String × Holder) := []
  partials : List (String × List Element) := []

/-- What rendering carries along: frames (innermost first), the template being
rendered, the output so far, the indent of the partial being rendered, whether the
output stands at the start of a line, and the bodies of the pending partial blocks,
innermost first, already rendered. -/
structure State where
  blocks : List Frame
  current : Option String
  out : String
  indent : Option String := none
  lineEnded : Bool := true
  partialBlocks : List String := []

/-- Rendering: a state, and a halt. -/
abbrev Render := StateT State (Except Halt)

/-- Stop rendering with a problem. -/
def fail {α : Type} (p : RenderProblem) : Render α := throw (Halt.of p)

/-- Append text to the output. -/
def write (s : String) : Render Unit :=
  modify fun st => { st with out := st.out ++ s }

/-- Text with an indent written after every line break but a last one. -/
def indentLines (indent : String) (text : String) : String :=
  let rec go : List Char → String → String
    | [], acc => acc
    | [c], acc => acc.push c
    | c :: rest, acc => go rest (if c = '\n' then acc.push c ++ indent else acc.push c)
  go text.toList ""

/-- Append template text, a value or a helper's output, indenting it inside an
indented partial: the indent goes first when the output stands at the start of a
line and the text does not open with a line break, and after every line break
inside the text but a last one. -/
def writeIndented (s : String) : Render Unit :=
  if s.isEmpty then pure ()
  else modify fun st =>
    let lead := match st.indent with
      | some i => if st.lineEnded && !s.startsWith "\n" then i else ""
      | none => ""
    let body := match st.indent with
      | some i => indentLines i s
      | none => s
    { st with out := st.out ++ lead ++ body, lineEnded := s.endsWith "\n" }

/-- How a value is written into the output. -/
def shown : Json → String
  | .null => ""
  | .bool b => if b then "true" else "false"
  | .number n => n.text
  | .string s => s
  | .array items => "[" ++ ", ".intercalate (items.map shown) ++ "]"
  | .object _ => "[object]"

/-- A number is normal: not zero, not subnormal, finite. -/
def isNormalNumber : Number → Bool
  | .natural n => n != 0
  | .negative n => n != 0
  | .float x =>
    let e := (x.toBits >>> 52) &&& 0x7FF
    e != 0 && e != 0x7FF

/-- Whether a value counts as true: non-empty texts and collections, `true`,
and numbers that are normal (or, with `includeZero`, any number). -/
def truthy (includeZero : Bool) : Json → Bool
  | .null => false
  | .bool b => b
  | .number n => if includeZero then !n.toFloat.isNaN else isNormalNumber n
  | .string s => !s.isEmpty
  | .array items => !items.isEmpty
  | .object fields => !fields.isEmpty

/-- An index into an array: digits with an optional `+`, below 2^64. -/
def indexOf? (key : String) : Option Nat :=
  let cs := match key.toList with
    | '+' :: rest => rest
    | cs => cs
  if cs.isEmpty || !cs.all Char.isDigit then none
  else
    let n := cs.foldl (fun acc c => acc * 10 + (c.toNat - '0'.toNat)) 0
    if n < Nat.pow 2 64 then some n else none

/-- One step into a value: an array index or an object field. -/
def stepInto (value : Option Json) (key : String) : Except Halt (Option Json) :=
  match value with
  | some (.array items) =>
    match indexOf? key with
    | some i => .ok items[i]?
    | none => .error (Halt.of (.invalidJsonIndex key))
  | some (.object fields) => .ok (fields.lookup key)
  | _ => .ok none

/-- Follow keys from a value. -/
def walk (value : Option Json) : List String → Except Halt (Option Json)
  | [] => .ok value
  | k :: ks => do walk (← stepInto value k) ks

/-- The keys a list of steps names, in order. -/
def keysOf (steps : List Step) : List String :=
  steps.filterMap fun
    | .key k => some k
    | _ => none

/-- The first frame, innermost first, with a block parameter of this name. -/
def findParam (name : String) : List Frame → Option (Holder × List String)
  | [] => none
  | f :: fs =>
    match f.params.lookup name with
    | some h => some (h, f.basePath)
    | none => findParam name fs

/-- How a written path starts: how many `..`, whether from `@root`, and the
block parameter its first name refers to. -/
def pathStart (frames : List Frame) : List Step → Nat → Nat × Bool × Option (Holder × List String)
  | [], ups => (ups, false, none)
  | .key k :: _, ups => (ups, false, findParam k frames)
  | .root :: _, ups => (ups, true, none)
  | .up :: rest, ups => pathStart frames rest (ups + 1)
  | .variable :: _, ups => (ups, false, none)

/-- Look a path up from a frame's place. -/
def fromFrame (root : Json) (frame : Frame) (keys : List String) : Except Halt Found :=
  match frame.baseValue with
  | some base => do
    let v ← walk (some base) keys
    .ok (match v with | some v => .derived v | none => .missing)
  | none => do
    let path := frame.basePath ++ keys
    let v ← walk (some root) path
    .ok (match v with | some v => .context v path | none => .missing)

/-- Look a written path up.  A local variable written after `n` steps `../` is taken from
the nearest frame, the `n`-th or one outside it, that sets it. -/
def lookupPath (root : Json) (frames : List Frame) : Path → Except Halt Found
  | .variable level name _ =>
    .ok (match (frames.drop level).findSome? fun f => f.locals.lookup name with
      | some v => .derived v
      | none => .missing)
  | .relative steps _ =>
    let (ups, fromRoot, param) := pathStart frames steps 0
    let rest := keysOf (steps.drop (ups + 1))
    match param with
    | some (.value v, _) => do
      let found ← walk (some v) rest
      .ok (match found with | some v => .derived v | none => .missing)
    | some (.path p, base) => do
      let path := base ++ p ++ rest
      let found ← walk (some root) path
      .ok (match found with | some v => .context v path | none => .missing)
    | none =>
      let frame := if ups > 0 then frames[ups]?.orElse fun _ => frames.head?
        else if fromRoot then none
        else frames.head?
      fromFrame root (frame.getD {}) (keysOf steps)

/-- A helper invoked with its arguments evaluated. -/
structure Invocation where
  name : String
  args : List Arg
  hash : List (String × Arg)
  body : Option (List Element)
  inverse : Option (List Element)
  blockParams : Option BlockParams

/-- The argument at an index of a helper declared with named parameters; a missing
value counts as absent. -/
def namedParam (helper param : String) (args : List Arg) (i : Nat) : Except Halt Json :=
  match args[i]? with
  | some a => if a.found.isMissing then .error (Halt.of (.paramNotFoundForName helper param))
    else .ok a.value
  | none => .error (Halt.of (.paramNotFoundForName helper param))

/-- The argument at an index of a built-in helper; a missing value counts as absent. -/
def indexedParam (helper : String) (args : List Arg) (i : Nat) : Except Halt Json :=
  match args[i]? with
  | some a => if a.found.isMissing then .error (Halt.of (.paramNotFoundForIndex helper i))
    else .ok a.value
  | none => .error (Halt.of (.paramNotFoundForIndex helper i))

/-- A number as an integer times a power of two, `(m, e)` for `m · 2^e`: whole numbers
with `e = 0`, doubles by their bits. -/
def scaled : Number → Int × Int
  | .natural n => (n, 0)
  | .negative n => (n, 0)
  | .float x =>
    match Decimal.decode x with
    | .finite negative m e => (if negative then -(m : Int) else m, e)
    | _ => (0, 0)

/-- The exact order of two numbers, whatever their kinds: a double is compared by the value it
holds, so `9007199254740993` is above `9007199254740992.0`. -/
def compareNumbers (a b : Number) : Ordering :=
  let (m, e) := scaled a
  let (n, f) := scaled b
  let low := min e f
  compare (m * Int.pow 2 (e - low).toNat) (n * Int.pow 2 (f - low).toNat)

/-- A text read as a number the way a document's number is written, with nothing before or
after it: no sign `+`, no bare point, no blanks. -/
def numberOfText? (s : String) : Option Number :=
  match s.toList.head?, s.toList.getLast? with
  | some first, some last =>
    if (first == '-' || first.isDigit) && last.isDigit then
      match Json.parse s with
      | .ok (.number n) => some n
      | _ => none
    else none
  | _, _ => none

/-- The order of two values, where one exists: numbers by exact value, texts and
booleans among themselves, and numbers against texts that read as numbers. -/
def compareValues : Json → Json → Option Ordering
  | .number a, .number b => some (compareNumbers a b)
  | .string a, .string b => some (compare a b)
  | .bool a, .bool b => some (compare a b)
  | .number a, .string b => (numberOfText? b).map (compareNumbers a)
  | .string a, .number b => (numberOfText? a).map fun n => (compareNumbers b n).swap
  | _, _ => none

/-- The two arguments of a comparing helper. -/
def twoParams (helper : String) (args : List Arg) : Except Halt (Json × Json) := do
  let x ← indexedParam helper args 0
  let y ← indexedParam helper args 1
  .ok (x, y)

/-- The built-in helpers that decide a question: their value is a boolean, and used as a
block they render the block when it holds and the inverse otherwise. -/
def builtinTest? (name : String) : Option (List Arg → Except Halt Bool) :=
  match name with
  | "eq" => some fun args => do let (x, y) ← twoParams "eq" args; .ok (x.same y)
  | "ne" => some fun args => do let (x, y) ← twoParams "ne" args; .ok !(x.same y)
  | "gt" => some fun args => do
    let (x, y) ← twoParams "gt" args; .ok (compareValues x y == some .gt)
  | "gte" => some fun args => do
    let (x, y) ← twoParams "gte" args
    .ok (match compareValues x y with | some .lt => false | some _ => true | none => false)
  | "lt" => some fun args => do
    let (x, y) ← twoParams "lt" args; .ok (compareValues x y == some .lt)
  | "lte" => some fun args => do
    let (x, y) ← twoParams "lte" args
    .ok (match compareValues x y with | some .gt => false | some _ => true | none => false)
  | "and" => some fun args => .ok (args.all fun a => truthy false a.value)
  | "or" => some fun args => .ok (args.any fun a => truthy false a.value)
  | "not" => some fun args => do
    let x ← indexedParam "not" args 0; .ok !(truthy false x)
  | _ => none

/-- The built-in value helpers: the tests, `len` and `lookup`. -/
def builtinValue? (name : String) : Option (List Arg → Except Halt Json) :=
  match builtinTest? name with
  | some test => some fun args => do .ok (.bool (← test args))
  | none =>
  match name with
  | "len" => some fun args => do
    let x ← namedParam "len" "x" args 0
    .ok (Json.nat (match x with
      | .array items => items.length
      | .object fields => fields.length
      | .string s => s.utf8ByteSize
      | _ => 0))
  | "lookup" => some fun args =>
    match args[0]?, args[1]? with
    | none, _ => .error (Halt.of (.paramNotFoundForIndex "lookup" 0))
    | some _, none => .error (Halt.of (.paramNotFoundForIndex "lookup" 1))
    | some c, some i =>
      let found := match c.value, i.value with
        | .array items, .number (.natural n) => items[n]?
        | .object fields, .string k => fields.lookup k
        | _, _ => none
      match found with
      | some v => .ok v
      | none => .error (Halt.of (.missingVariable none))
  | _ => none

/-- The built-in helpers that render parts of their block. -/
def blockHelpers : List String := ["if", "unless", "each", "with", "raw", "log"]

/-- Log levels a `level` argument may name, in any case. -/
def logLevels : List String := ["error", "warn", "info", "debug", "trace"]

/-- Whether a name is a helper of the registry or a built-in one. -/
def Registry.hasHelper (reg : Registry) (name : String) : Bool :=
  (reg.helpers.lookup name).isSome || blockHelpers.contains name || (builtinValue? name).isSome

/-- Lift a computation that may halt. -/
def liftHalt {α : Type} (x : Except Halt α) : Render α :=
  match x with
  | .ok a => pure a
  | .error e => throw e

/-- Change the innermost frame. -/
def modifyFrame (f : Frame → Frame) : Render Unit :=
  modify fun st => { st with blocks := match st.blocks with
    | b :: bs => f b :: bs
    | [] => [] }

/-- Enter a frame. -/
def pushFrame (f : Frame) : Render Unit :=
  modify fun st => { st with blocks := f :: st.blocks }

/-- Leave the innermost frame. -/
def popFrame : Render Unit :=
  modify fun st => { st with blocks := st.blocks.drop 1 }

/-- The frame a block opens for its argument: at its path, or at its value. -/
def frameFor (a : Arg) : Frame :=
  match a.found.contextPath with
  | some p => { basePath := p }
  | none => { baseValue := some a.value }

/-- Place an error at a tag and in a template, where not placed yet. -/
def placeHalt (pos : Option Pos) (name : Option String) : Halt → Halt
  | .error e =>
    let e := if e.pos.isNone then { e with pos := pos } else e
    .error (if e.template.isNone then { e with template := name } else e)
  | h => h

/-- The position a failing element reports. -/
def Element.pos? : Element → Option Pos
  | .text _ | .comment _ => none
  | .value p _ _ => some p
  | .block p _ _ _ => p
  | .includePartial p _ _ _ => some p
  | .decorator p _ _ => some p

/-- The entries an `each` block visits: key value, key text, item. -/
def eachEntries : Json → Option (List (Json × String × Json))
  | .array items => some (items.zipIdx.map fun (v, i) => (Json.nat i, toString i, v))
  | .object fields => some (fields.map fun (k, v) => (.string k, k, v))
  | _ => none

/-- The name that renders the body of the pending partial block. -/
def partialBlockName : String := "@partial-block"

/-- What a partial renders: the text of a pending partial block, or elements, with the
name of the template they belong to when it has one. -/
inductive Inclusion where
  | written (text : String)
  | elements (name : Option String) (body : List Element)

/-- The partial of a name defined inline in the innermost frame that has one. -/
def findPartial (name : String) (frames : List Frame) : Option (List Element) :=
  frames.findSome? fun f => f.partials.lookup name

/-- The indent of a partial inside another: the outer indent, then its own. -/
def nestIndent : Option String → Option String → Option String
  | some outer, some own => some (outer ++ own)
  | some outer, none => some outer
  | none, own => own

/-- The fields named arguments of a partial are added to: an object's own, an array's
items and a text's characters named by their index, none for other values. -/
def fieldsOf : Json → List (String × Json)
  | .object fields => fields
  | .array items => items.zipIdx.foldl (fun acc (v, i) => Json.insertField (toString i) v acc) []
  | .string s =>
    s.toList.zipIdx.foldl (fun acc (c, i) => Json.insertField (toString i) (.string c.toString) acc) []
  | _ => []

/-- Set a local variable of a frame. -/
def setLocal (locals : List (String × Json)) (name : String) (value : Json) :
    List (String × Json) :=
  (name, value) :: locals.filter (·.1 != name)

section

variable (reg : Registry) (root : Json)

mutual

/-- Evaluate an argument. -/
def expand : Nat → Param → Render Arg
  | 0, _ => fail (.other "nesting too deep")
  | fuel + 1, p =>
    match p with
    | .name n => pure ⟨some n, .missing⟩
    | .path path => do
      let st ← get
      let found ← liftHalt (lookupPath root st.blocks path)
      pure ⟨some path.raw, found⟩
    | .literal v => pure ⟨none, .constant v⟩
    | .call head args hash => do
      let _ ← nameOf fuel head
      let inv ← invocation fuel ⟨head, args, hash, none, false, false⟩ none none
      let found ← callValue fuel inv
      pure ⟨none, found⟩

/-- The name a head stands for: a name or path as written, or the text of a value. -/
def nameOf : Nat → Param → Render String
  | 0, _ => fail (.other "nesting too deep")
  | fuel + 1, p =>
    match p with
    | .name n => pure n
    | .path path => pure path.raw
    | .literal v => pure (shown v)
    | .call _ _ _ => do
      let a ← expand fuel p
      pure (shown a.value)

/-- Evaluate the arguments of a call. -/
def expandAll : Nat → List Param → Render (List Arg)
  | 0, _ => fail (.other "nesting too deep")
  | _ + 1, [] => pure []
  | fuel + 1, p :: ps => do
    let a ← expand fuel p
    let rest ← expandAll fuel ps
    pure (a :: rest)

/-- Evaluate named arguments. -/
def expandHash : Nat → List (String × Param) → Render (List (String × Arg))
  | 0, _ => fail (.other "nesting too deep")
  | _ + 1, [] => pure []
  | fuel + 1, (k, p) :: ps => do
    let a ← expand fuel p
    let rest ← expandHash fuel ps
    pure ((k, a) :: rest)

/-- Evaluate a call into an invocation: its name, arguments and named arguments. -/
def invocation : Nat → Call → Option (List Element) → Option (List Element) → Render Invocation
  | 0, _, _, _ => fail (.other "nesting too deep")
  | fuel + 1, call, body, inverse => do
    let name ← nameOf fuel call.head
    let args ← expandAll fuel call.args
    let sorted := call.hash.mergeSort fun a b => decide (a.1 ≤ b.1)
    let hash ← expandHash fuel sorted
    pure ⟨name, args, hash, body, inverse, call.blockParams⟩

/-- Invoke a helper for its value, as an argument in parentheses. -/
def callValue : Nat → Invocation → Render Found
  | 0, _ => fail (.other "nesting too deep")
  | fuel + 1, inv =>
    match reg.helpers.lookup inv.name with
    | some h => do pure (.derived (← liftHalt (h inv.args)))
    | none =>
      if blockHelpers.contains inv.name then do
        let before ← get
        set { before with out := "" }
        callOutput fuel inv
        let after ← get
        set { after with out := before.out }
        pure (.derived (.string after.out))
      else match builtinValue? inv.name with
        | some h => do pure (.derived (← liftHalt (h inv.args)))
        | none => fail (.helperNotFound inv.name)

/-- Invoke a helper for its output, as a tag or a block. -/
def callOutput : Nat → Invocation → Render Unit
  | 0, _ => fail (.other "nesting too deep")
  | fuel + 1, inv =>
    match reg.helpers.lookup inv.name with
    | some h => do writeIndented (shown (← liftHalt (h inv.args)))
    | none =>
      match inv.name with
      | "if" => conditional fuel true inv
      | "unless" => conditional fuel false inv
      | "each" => eachBlock fuel inv
      | "with" => withBlock fuel inv
      | "raw" =>
        match inv.body with
        | some t => renderElements fuel none t
        | none => pure ()
      | "log" =>
        let level := ((inv.hash.lookup "level").bind fun a => a.value.str?).getD "info"
        if logLevels.contains (String.ofList (level.toList.map Char.toLower)) then pure ()
        else fail (.invalidLoggingLevel level)
      | name =>
        match builtinTest? name, inv.body with
        | some test, some body => do
          if ← liftHalt (test inv.args) then renderElements fuel none body
          else match inv.inverse with
            | some t => renderElements fuel none t
            | none => pure ()
        | some test, none => do write (if ← liftHalt (test inv.args) then "true" else "false")
        | none, _ =>
          match builtinValue? name with
          | some h => do writeIndented (shown (← liftHalt (h inv.args)))
          | none => fail (.helperNotFound name)

/-- `if` and `unless`: the body when the argument is true (false), else the inverse. -/
def conditional : Nat → Bool → Invocation → Render Unit
  | 0, _, _ => fail (.other "nesting too deep")
  | fuel + 1, positive, inv =>
    match inv.args.head? with
    | none => fail (.paramNotFoundForIndex "if" 0)
    | some a =>
      let includeZero := match (inv.hash.lookup "includeZero").map Arg.value with
        | some (.bool b) => b
        | _ => false
      let holds := truthy includeZero a.value == positive
      match (if holds then inv.body else inv.inverse) with
      | some t => renderElements fuel none t
      | none => pure ()

/-- `each`: the body once per item of an array or field of an object, in a
frame placed at that item, with `@index`, `@first`, `@last` and, for fields, `@key`;
the inverse when there is nothing to visit. -/
def eachBlock : Nat → Invocation → Render Unit
  | 0, _ => fail (.other "nesting too deep")
  | fuel + 1, inv =>
    match inv.args.head? with
    | none => fail (.paramNotFoundForIndex "each" 0)
    | some a =>
      match inv.body with
      | none => pure ()
      | some body =>
        let visit := match eachEntries a.value with
          | some entries => if !entries.isEmpty || inv.inverse.isNone then some entries else none
          | none => none
        match visit with
        | some entries => do
          pushFrame (frameFor a)
          let count := entries.length
          let isArray := match a.value with
            | .array _ => true
            | _ => false
          for ((keyValue, keyText, item), i) in entries.zipIdx do
            let place := a.found.contextPath.map (· ++ [keyText])
            let params := match inv.blockParams with
              | some ⟨name, none⟩ =>
                some [(name, if place.isSome then Holder.path [] else .value item)]
              | some ⟨name, some keyName⟩ =>
                some [(name, if place.isSome then Holder.path [] else .value item),
                      (keyName, .value keyValue)]
              | none => none
            modifyFrame fun f =>
              let marked := setLocal f.locals "first" (.bool (i = 0))
              let marked := setLocal marked "last" (.bool (i + 1 = count))
              let marked := setLocal marked "index" (Json.nat i)
              let marked := if isArray then marked else setLocal marked "key" keyValue
              let f := { f with locals := marked }
              let f := match place with
                | some p => { f with basePath := p }
                | none => { f with baseValue := some item }
              match params with
              | some ps => { f with params := ps }
              | none => f
            renderElements fuel none body
          popFrame
        | none =>
          match inv.inverse with
          | some t => renderElements fuel none t
          | none => fail (.missingVariable a.path)

/-- `with`: the body in a frame placed at the argument when it is true, else the
inverse. -/
def withBlock : Nat → Invocation → Render Unit
  | 0, _ => fail (.other "nesting too deep")
  | fuel + 1, inv =>
    match inv.args.head? with
    | none => fail (.paramNotFoundForIndex "with" 0)
    | some a =>
      if truthy false a.value then do
        let frame := frameFor a
        let frame := match inv.blockParams with
          | some ⟨name, none⟩ =>
            { frame with params :=
                [(name, if a.found.contextPath.isSome then Holder.path [] else .value a.value)] }
          | _ => frame
        pushFrame frame
        match inv.body with
        | some t => renderElements fuel none t
        | none => pure ()
        popFrame
      else
        match inv.inverse with
        | some t => renderElements fuel none t
        | none => fail (.missingVariable a.path)

/-- Render elements as the body of a template named `name` (none for blocks),
placing errors at the element they came from. -/
def renderElements : Nat → Option String → List Element → Render Unit
  | 0, _, _ => fail (.other "nesting too deep")
  | fuel + 1, name, elements => do
    modify fun st => { st with current := name }
    for el in elements do
      tryCatch (renderElement fuel el) fun h => throw (placeHalt el.pos? name h)

/-- Render one element. -/
def renderElement : Nat → Element → Render Unit
  | 0, _ => fail (.other "nesting too deep")
  | fuel + 1, el =>
    match el with
    | .text s => writeIndented s
    | .comment _ => pure ()
    | .value _ call _ =>
      if call.args.isEmpty && call.hash.isEmpty then do
        let name ← nameOf fuel call.head
        if reg.hasHelper name then
          callOutput fuel (← invocation fuel call none none)
        else do
          let a ← expand fuel call.head
          if a.found.isMissing then fail (.missingVariable a.path)
          else writeIndented (shown a.value)
      else do
        callOutput fuel (← invocation fuel call none none)
    | .block _ call body inverse => do
      callOutput fuel (← invocation fuel call body inverse)
    | .decorator _ call body => decorate fuel call body
    | .includePartial _ call body indent => includePartial fuel call body indent

/-- Run a decorator: `inline` defines a partial from its body. -/
def decorate : Nat → Call → Option (List Element) → Render Unit
  | 0, _, _ => fail (.other "nesting too deep")
  | fuel + 1, call, body => do
    let inv ← invocation fuel call body none
    if inv.name = "inline" then
      match inv.args.head? with
      | none => fail (.paramNotFoundForIndex "inline" 0)
      | some a =>
        match a.value.str?, body with
        | none, _ => fail (.invalidParamType "String")
        | some _, none => fail .blockContentRequired
        | some n, some t => modifyFrame fun f => { f with partials := (n, t) :: f.partials }
    else fail (.decoratorNotFound inv.name)

/-- Render a partial.  Its name is looked up among the partials defined inline in the
open frames, innermost first, then among the registered templates; the body of a
partial block stands in when neither has it, and `@partial-block` names the pending
partial block instead.  The partial renders in a frame of its own: at the place of its
first argument (a path, or a value), else at the current place.  Named arguments
become block parameters of that frame and are added to the fields of its place.  A
body is rendered first, in that frame, and is the pending partial block while the
partial renders; a partial without a body leaves none pending.  A partial written
alone on its line after blanks indents the lines it writes by those blanks, after the
indent of the partial around it. -/
def includePartial : Nat → Call → Option (List Element) → Option String → Render Unit
  | 0, _, _, _ => fail (.other "nesting too deep")
  | fuel + 1, call, body, indent => do
    let inv ← invocation fuel call body none
    let st ← get
    if st.current = some inv.name then fail .cannotIncludeSelf
    else
      let found : Option Inclusion :=
        if inv.name = partialBlockName then
          match st.partialBlocks.head? with
          | some text => some (.written text)
          | none => body.map (.elements none)
        else
          match findPartial inv.name st.blocks with
          | some t => some (.elements none t)
          | none =>
            match reg.templates.lookup inv.name with
            | some t => some (.elements t.name t.elements)
            | none => body.map (.elements none)
      match found with
      | none =>
        if inv.name = partialBlockName then fail (.other "Partial block cound not be found")
        else fail (.partialNotFound inv.name)
      | some inclusion => do
        let here := st.blocks.head?.getD {}
        let frame : Frame := match inv.args.head? with
          | some a =>
            match a.found.contextPath with
            | some p => { basePath := p }
            | none => { baseValue := some a.value }
          | none => { basePath := here.basePath, baseValue := here.baseValue }
        let frame ← if inv.hash.isEmpty then pure frame else do
          let place ← liftHalt (lookupPath root (frame :: st.blocks) (.relative [] ""))
          let merged := inv.hash.foldl (fun acc field => Json.insertField field.1 field.2.value acc)
            (fieldsOf place.value)
          pure { frame with baseValue := some (.object merged)
                            params := inv.hash.map fun (k, a) => (k, Holder.value a.value) }
        set { st with blocks := frame :: st.blocks }
        let pending ← match body with
          | some t => do
            let before ← get
            set { before with out := "", indent := none, lineEnded := true }
            renderElements fuel none t
            let after ← get
            set { after with out := before.out, indent := before.indent, lineEnded := before.lineEnded
                             current := before.current }
            pure (after.out :: st.partialBlocks)
          | none => pure []
        modify fun now => { now with indent := nestIndent st.indent indent, partialBlocks := pending }
        match inclusion with
        | .written text => writeIndented text
        | .elements name elements => renderElements fuel name elements
        modify fun now =>
          { now with blocks := st.blocks, current := st.current, indent := st.indent
                     partialBlocks := st.partialBlocks }

end

end

/-- Render a registered template against data. -/
def Registry.render (reg : Registry) (name : String) (data : Json) : Except Halt String :=
  match reg.templates.lookup name with
  | none => .error (Halt.of (.templateNotFound name))
  | some t =>
    match (renderElements reg data 2000 t.name t.elements).run
        { blocks := [{}], current := some name, out := "" } with
    | .ok ((), st) => .ok st.out
    | .error h => .error h

end BalancerSync.Template
