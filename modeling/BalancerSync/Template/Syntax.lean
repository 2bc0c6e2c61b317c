import BalancerSync.Json.Value

/-!
# Template syntax

A compiled template is a list of elements: text, comments, value tags, blocks,
partials and decorators.  Tags carry a call: a head (the helper or the value to
show), positional arguments, named arguments and block parameters.  Paths into
the data are kept as the steps written, with the raw text for messages.

Elements that can fail while rendering carry the line and column of their tag,
so that an error names the innermost tag it came from.
-/

namespace BalancerSync.Template

/-- One step of a written path. -/
inductive Step where
  /-- `@root`: start from the data itself. -/
  | root
  /-- `@`: the path names a local variable such as `@index`. -/
  | variable
  /-- `..`: one block up. -/
  | up
  /-- A field name or an array index. -/
  | key (name : String)
deriving DecidableEq, Repr, Inhabited

/-- A path as written in a tag. -/
inductive Path where
  /-- Steps through the data from the current block (or from the root). -/
  | relative (steps : List Step) (raw : String)
  /-- A block's local variable, `level` blocks up: `@index`, `@../key`. -/
  | variable (level : Nat) (name : String) (raw : String)
deriving Repr, Inhabited

namespace Path

/-- The text of the path as written. -/
def raw : Path → String
  | .relative _ r => r
  | .variable _ _ r => r

/-- Read written steps: a leading `@`, then any `..`, then a name, is a local variable. -/
def ofSteps (steps : List Step) (raw : String) : Path :=
  match steps with
  | .variable :: rest =>
    let ups := rest.takeWhile (· == .up)
    match rest.drop ups.length with
    | .key name :: _ => .variable ups.length name raw
    | _ => .relative steps raw
  | _ => .relative steps raw

end Path

/-- Arguments of tags, and heads of calls. -/
inductive Param where
  /-- A bare name: the helper of a call, or a hash key's identifier. -/
  | name (text : String)
  /-- A path into the data. -/
  | path (path : Path)
  /-- A literal value. -/
  | literal (value : Json)
  /-- A parenthesised call, whose value is the argument. -/
  | call (head : Param) (args : List Param) (hash : List (String × Param))
deriving Inhabited

/-- The names of block parameters, `as |item|` or `as |item key|`. -/
structure BlockParams where
  first : String
  second : Option String
deriving Repr, Inhabited

/-- The call in a tag, with the trimming marks around it. -/
structure Call where
  head : Param
  args : List Param := []
  hash : List (String × Param) := []
  blockParams : Option BlockParams := none
  trimBefore : Bool := false
  trimAfter : Bool := false
deriving Inhabited

/-- Where a tag starts: line and column, both from one. -/
structure Pos where
  line : Nat
  column : Nat
deriving DecidableEq, Repr, Inhabited

/-- Elements of a template. -/
inductive Element where
  /-- Text written as it is. -/
  | text (value : String)
  /-- A comment, written nowhere. -/
  | comment (value : String)
  /-- `{{...}}`; `raw` for the triple-brace forms, which escape nothing. -/
  | value (pos : Pos) (call : Call) (raw : Bool)
  /-- A block `{{#h}}body{{else}}inverse{{/h}}`.  Links of an `{{else h}}` chain
  have no position of their own. -/
  | block (pos : Option Pos) (call : Call) (body : Option (List Element))
      (inverse : Option (List Element))
  /-- `{{> name}}` or `{{#> name}}body{{/name}}`, with the blanks before a lone tag. -/
  | includePartial (pos : Pos) (call : Call) (body : Option (List Element)) (indent : Option String)
  /-- `{{* name}}` or `{{#* name}}body{{/name}}`. -/
  | decorator (pos : Pos) (call : Call) (body : Option (List Element))
deriving Inhabited

/-- A compiled template: its elements, and its name if it is registered under one. -/
structure Compiled where
  name : Option String
  elements : List Element
deriving Inhabited

end BalancerSync.Template
