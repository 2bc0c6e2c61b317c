import BalancerSync.Naming.Templates
import BalancerSync.Topology.Label
import BalancerSync.Arith.Int64
import BalancerSync.Text.CaseMap

/-!
# Helpers for configuration templates

The value helpers a configuration template may call besides the built-in ones:

* `EscapeNode s`: `s` with every `.` and `:` made `_`;
* `ToLower s`, `ToUpper s`: `s` in lower or upper case, by the full Unicode mapping;
* `IntRange count initial step`: the array of `count` integers from `initial` by `step`,
  wrapping at 64 bits, for counts up to 65536;
* `Add a b ...`: the sum of 64-bit integers, stopping rendering with a panic on overflow;
* `ServerNames service domain`: the server names of a service, as `{Name, IsRegexp, Regexp}`;
* `Label v`: the section label of a service (a value with a `Namespace` key) or of a port.

The text helpers take one named text argument and report a missing or mistyped argument
under their own names (`escape_node_helper` and `node`, `to_lower_helper` and `s`,
`to_upper_helper` and `s`).  The others report `<Helper>: <message>`.
-/

namespace BalancerSync.Output

open Template

/-- The largest sequence `IntRange` makes. -/
def intRangeLimit : Int := 65536

/-- A helper's own failure: `<helper>: <message>`. -/
def helperFailure (helper message : String) : Halt :=
  Halt.of (.other (helper ++ ": " ++ message))

/-- The one text argument of a text helper. -/
def textParam (helper param : String) (args : List Arg) : Except Halt String := do
  match (← namedParam helper param args 0) with
  | .string s => .ok s
  | _ => .error (Halt.of (.paramTypeMismatchForName helper param "str"))

/-- An argument that is a 64-bit integer. -/
def int64Arg? (a : Arg) : Option Int :=
  match a.value with
  | .number n => n.toInt64?
  | _ => none

/-- `EscapeNode`. -/
def escapeNodeHelper : ValueHelper := fun args => do
  .ok (.string (Topology.escapeNode (← textParam "escape_node_helper" "node" args)))

/-- `ToLower`. -/
def toLowerHelper : ValueHelper := fun args => do
  .ok (.string (Text.toLower (← textParam "to_lower_helper" "s" args)))

/-- `ToUpper`. -/
def toUpperHelper : ValueHelper := fun args => do
  .ok (.string (Text.toUpper (← textParam "to_upper_helper" "s" args)))

/-- Argument `i` of `IntRange`, which must be a 64-bit integer. -/
def rangeParam (args : List Arg) (index : Nat) : Except Halt Int :=
  match args[index]?.bind int64Arg? with
  | some n => .ok n
  | none => .error (helperFailure "IntRange" ("argument " ++ toString index ++ " must be an integer"))

/-- `IntRange`. -/
def intRangeHelper : ValueHelper := fun args => do
  let count ← rangeParam args 0
  let initial ← rangeParam args 1
  let step ← rangeParam args 2
  if count > intRangeLimit then
    .error (helperFailure "IntRange"
      ("count " ++ toString count ++ " exceeds the limit of " ++ toString intRangeLimit))
  else
    .ok (.array ((Arith.Stride.start count initial step).values.map Json.int))

/-- The integers of `Add`'s arguments, or the first that is not one. -/
def addends : Nat → List Arg → Except Halt (List Int)
  | _, [] => .ok []
  | index, a :: rest =>
    match int64Arg? a with
    | some n => do .ok (n :: (← addends (index + 1) rest))
    | none => .error (helperFailure "Add" ("argument " ++ toString index ++ " is not an integer"))

/-- `Add`. -/
def addHelper : ValueHelper := fun args => do
  match Arith.checkedSum (← addends 0 args) with
  | some total => .ok (Json.int total)
  | none => .error (.panic "attempt to add with overflow")

/-- `ServerNames`, with the naming templates it expands. -/
def serverNamesHelper (names : Naming.NameTemplates) : ValueHelper := fun args =>
  match args[0]? with
  | none => .error (helperFailure "ServerNames" "missing service argument")
  | some service =>
    match args[1]?.bind (fun a => a.value.str?) with
    | none => .error (helperFailure "ServerNames" "missing domain argument")
    | some domain =>
      match Topology.Service.decode service.value with
      | .error e => .error (helperFailure "ServerNames" e)
      | .ok s => do
        let generated ← names.generate s domain
        .ok (.array (generated.map Naming.ServerName.toJson))

/-- `Label`. -/
def labelHelper : ValueHelper := fun args =>
  match args[0]? with
  | none => .error (helperFailure "Label" "missing argument")
  | some a =>
    let v := a.value
    let label := if (v.get? "Namespace").isSome then (Topology.Service.decode v).map (·.label)
      else (Topology.PortSpec.decode v).map (·.label)
    match label with
    | .ok text => .ok (.string text)
    | .error e => .error (helperFailure "Label" e)

/-- Every helper of configuration templates, by name. -/
def configHelpers (names : Naming.NameTemplates) : List (String × ValueHelper) :=
  [("EscapeNode", escapeNodeHelper), ("IntRange", intRangeHelper),
   ("ServerNames", serverNamesHelper names), ("ToLower", toLowerHelper),
   ("ToUpper", toUpperHelper), ("Add", addHelper), ("Label", labelHelper)]

end BalancerSync.Output
