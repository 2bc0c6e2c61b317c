import BalancerSync.Output.Helpers
import BalancerSync.Files.Tree
import BalancerSync.Text.Quote

/-!
# Template files

A template file turns a cluster snapshot into a configuration file.  Every render reads
the template source afresh, compiles it under the last component of its path (so edits
apply on the next render, and messages name the file), and renders the snapshot with the
configuration helpers.  Executing writes the result over the target through a temporary
file beside it, so the target holds the old text or the whole new text, never a part; a
failed render leaves the target as it was.
-/

namespace BalancerSync.Output

open Template

/-- Why a configuration file could not be produced. -/
inductive OutputFailure where
  /-- The template source could not be read. -/
  | source (path : String) (error : Files.IoError)
  /-- The template source is not a valid template. -/
  | parse (path : String) (error : TemplateError)
  /-- A helper or a tag failed while rendering. -/
  | render (path : String) (error : RenderError)
  /-- The target could not be written. -/
  | write (path : String) (error : Files.IoFailure)
  /-- A helper stopped the program. -/
  | panic (message : String)

namespace OutputFailure

/-- The kind of a failure: `Source`, `Parse`, `Render`, `Write` or `Panic`. -/
def kind : OutputFailure → String
  | .source .. => "Source"
  | .parse .. => "Parse"
  | .render .. => "Render"
  | .write .. => "Write"
  | .panic _ => "Panic"

/-- The message of a failure; `brief` leaves out the temporary file's path of a write
failure. -/
def report (brief : Bool) : OutputFailure → String
  | .source p e => "failed to read template " ++ p ++ ": " ++ e.message
  | .parse p e => "failed to parse template " ++ p ++ ": " ++ e.message
  | .render p e => "failed to render template " ++ p ++ ": " ++ e.message
  | .write p e =>
    "failed to write " ++ p ++ ": " ++
      (match e with
       | .atPath err _ => if brief then err.message else e.message
       | .os err => err.message)
  | .panic m => m

/-- The full message of a failure. -/
def message (f : OutputFailure) : String := f.report false

/-- The debug view of a failure. -/
def debug : OutputFailure → String
  | .source p e => "Source \x7b path: " ++ Text.quoted p ++ ", source: " ++ e.debug ++ " \x7d"
  | .parse p e => "Parse \x7b path: " ++ Text.quoted p ++ ", source: " ++ e.debug ++ " \x7d"
  | .render p e => "Render \x7b path: " ++ Text.quoted p ++ ", source: " ++ e.debug ++ " \x7d"
  | .write p e => "Write \x7b path: " ++ Text.quoted p ++ ", source: " ++ e.debug ++ " \x7d"
  | .panic m => Text.quoted m

end OutputFailure

/-- A template source, the target it renders to, and the naming templates its
`ServerNames` helper expands. -/
structure TemplateFile where
  source : String
  path : String
  names : Naming.NameTemplates

namespace TemplateFile

/-- The debug view of a template file. -/
def debug (t : TemplateFile) : String :=
  "TemplateFile \x7b source: " ++ Text.quoted t.source ++ ", path: " ++ Text.quoted t.path ++
    ", names: ServerNameTemplates \x7b count: " ++ toString t.names.count ++ " \x7d \x7d"

/-- The name the template is compiled under: the last component of its path. -/
def templateName (t : TemplateFile) : String :=
  (Files.fileName? t.source).getD "template"

/-- Render a snapshot to text without touching the target. -/
def render (t : TemplateFile) (files : Files.Tree) (cluster : Topology.Cluster) :
    Except OutputFailure String :=
  match files.read t.source with
  | .error e => .error (.source t.source e)
  | .ok content =>
    let name := t.templateName
    match Template.compile (some name) content with
    | .error e => .error (.parse t.source e)
    | .ok compiled =>
      let registry : Registry :=
        { templates := [(name, compiled)], helpers := configHelpers t.names }
      match registry.render name cluster.toJson with
      | .ok text => .ok text
      | .error (.error e) => .error (.render t.source e)
      | .error (.panic m) => .error (.panic m)

/-- Render a snapshot and replace the target with the result; `faults` are the failures the
system raises while the result is written, none by default. -/
def execute (t : TemplateFile) (files : Files.Tree) (cluster : Topology.Cluster)
    (faults : Files.WriteFaults := {}) : Except OutputFailure Files.Tree := do
  let text ← t.render files cluster
  match files.replace t.path text faults with
  | .ok written => .ok written
  | .error e => .error (.write t.path e)

/-- What a watcher of the target's directory sees while a snapshot is rendered and written:
nothing when the render fails, and otherwise the events of the write. -/
def executeEvents (t : TemplateFile) (files : Files.Tree) (cluster : Topology.Cluster)
    (faults : Files.WriteFaults := {}) : List Files.FileEvent :=
  match t.render files cluster with
  | .ok text => files.writeEvents t.path text faults
  | .error _ => []

end TemplateFile

end BalancerSync.Output
