import BalancerSync.Template.Render
import BalancerSync.Topology.Model
import BalancerSync.Naming.ServerName
import BalancerSync.Text.Whitespace

/-!
# Naming templates

The server names of a service come from a comma-separated list of small templates, each
rendered against `{"Domain": domain, "Service": service}`.  A blank list means the one
default template `<name>.<namespace>.svc.<domain>`.  The list is cut at every comma, with
no trimming and empty pieces kept, and piece `i` is compiled under the name
`server_name_<i>`, which its errors show.

The names a service gets are the rendered names with repeats dropped (the first of equal
names stays in place), then every external name of the service as it is, repeats and all.
-/

namespace BalancerSync.Naming

open Template

/-- The template used when none is given: the name, the namespace, `svc` and the domain,
joined by dots. -/
def defaultTemplate : String :=
  "\x7b\x7bService.Name\x7d\x7d.\x7b\x7bService.Namespace\x7d\x7d.svc.\x7b\x7bDomain\x7d\x7d"

/-- A piece of the list that failed to compile: its index, its text and the error. -/
structure NameTemplateError where
  index : Nat
  template : String
  error : TemplateError

/-- `invalid server name template #<i> ` followed by the quoted piece and the error. -/
def NameTemplateError.message (e : NameTemplateError) : String :=
  "invalid server name template #" ++ toString e.index ++ " `" ++ e.template ++ "`: " ++
    e.error.message

/-- The debug view of a piece that failed to compile. -/
def NameTemplateError.debug (e : NameTemplateError) : String :=
  "NameTemplateError \x7b index: " ++ toString e.index ++ ", template: " ++ Text.quoted e.template ++
    ", source: " ++ e.error.debug ++ " \x7d"

/-- The compiled naming templates, in order, with the names they are registered under. -/
structure NameTemplates where
  pieces : List (String × Compiled)

namespace NameTemplates

/-- The name piece `i` is registered under. -/
def pieceName (index : Nat) : String := "server_name_" ++ toString index

/-- Compile the pieces from `index` on, stopping at the first that fails. -/
def compilePieces : Nat → List String → Except NameTemplateError (List (String × Compiled))
  | _, [] => .ok []
  | index, piece :: rest =>
    match Template.compile (some (pieceName index)) piece with
    | .error e => .error ⟨index, piece, e⟩
    | .ok compiled => do
      let more ← compilePieces (index + 1) rest
      .ok ((pieceName index, compiled) :: more)

/-- The pieces of a list of templates: the text cut at every comma, with no trimming and empty
pieces kept. -/
def commaPieces (text : String) : List String :=
  (text.toList.splitOn ',').map String.ofList

/-- Read a comma-separated list of naming templates; a blank list is the default one. -/
def parse (templates : String) : Except NameTemplateError NameTemplates := do
  let text := if (Text.trim templates).isEmpty then defaultTemplate else templates
  .ok ⟨← compilePieces 0 (commaPieces text)⟩

/-- How many templates there are. -/
def count (t : NameTemplates) : Nat := t.pieces.length

/-- The list without its repeats, the first of equal names kept in place. -/
def withoutRepeats : List String → List String → List String
  | _, [] => []
  | seen, n :: rest =>
    if seen.contains n then withoutRepeats seen rest else n :: withoutRepeats (n :: seen) rest

/-- The registry the templates render in: each template under its name, and no helpers. -/
def registry (t : NameTemplates) : Registry := { templates := t.pieces }

/-- Render every template in order for one service and domain. -/
def renderAll (t : NameTemplates) (data : Json) : Except Halt (List String) :=
  t.pieces.mapM fun piece => t.registry.render piece.1 data

/-- What the templates are rendered against: the service and the domain. -/
def nameContext (service : Topology.Service) (domain : String) : Json :=
  Json.mkObject [("Service", service.toJson), ("Domain", .string domain)]

/-- The server names of a service: the rendered names without repeats, then its external
names. -/
def generate (t : NameTemplates) (service : Topology.Service) (domain : String) :
    Except Halt (List ServerName) := do
  let rendered ← t.renderAll (nameContext service domain)
  .ok ((withoutRepeats [] rendered ++ service.external).map ServerName.mk)

end NameTemplates

end BalancerSync.Naming
