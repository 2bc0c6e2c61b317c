import BalancerSync.Config.Settings
import BalancerSync.Output.TemplateFile
import BalancerSync.Reload.Notifier
import BalancerSync.Topology.Source

/-!
# Starting up and updating

The pieces of the program built from its settings: the template file (with its naming
templates) and the reload notifier.  An update renders the latest snapshot over the output
and, only when that worked, tells the load balancer to reload; it succeeds when both did.  A
one-off render builds the template file, reads a snapshot file and writes the output once,
and tells no one.
-/

namespace BalancerSync.Lifecycle

open BalancerSync.Config

/-- Why the program could not start, or a one-off render failed. -/
inductive StartupError where
  | nameTemplate (error : Naming.NameTemplateError)
  | reload (error : Reload.ReloadError)
  | snapshot (error : Topology.SnapshotError)
  | render (error : Output.OutputFailure)
  /-- A directory to watch could not be watched. -/
  | watch (error : Files.IoError) (path : String)

namespace StartupError

/-- The kind of a startup failure. -/
def kind : StartupError → String
  | .nameTemplate _ => "NameTemplate"
  | .reload _ => "Reload"
  | .snapshot _ => "Snapshot"
  | .render _ => "Render"
  | .watch .. => "Watch"

/-- The message of a startup failure: the message of what failed, or for a watch
`failed to watch files: <error> about ["<path>"]`. -/
def message : StartupError → String
  | .nameTemplate e => e.message
  | .reload e => e.message
  | .snapshot e => e.message
  | .render e => e.message
  | .watch e path => "failed to watch files: " ++ e.message ++ " about [" ++ Text.quoted path ++ "]"

/-- The debug view of a startup failure. -/
def debug : StartupError → String
  | .nameTemplate e => "NameTemplate(" ++ e.debug ++ ")"
  | .reload e => "Reload(" ++ e.debug ++ ")"
  | .snapshot e => "Snapshot(" ++ e.debug ++ ")"
  | .render e => "Render(" ++ e.debug ++ ")"
  | .watch e path =>
    "Watch(Error \x7b kind: Io(" ++ e.debug ++ "), paths: [" ++ Text.quoted path ++ "] \x7d)"

end StartupError

/-- The template file the settings describe. -/
def buildTemplate (s : Settings) : Except Naming.NameTemplateError Output.TemplateFile := do
  let names ← Naming.NameTemplates.parse s.renderer.serverNameTemplates
  .ok ⟨s.renderer.templatePath, s.renderer.outputPath, names⟩

/-- The notifier the reload settings describe: none without a pidfile. -/
def buildNotifier (r : ReloadSettings) : Except Reload.ReloadError Reload.Notifier :=
  Reload.Notifier.build r.pidfile r.signal

/-- What an update did: the files after it, whether rendering and notifying both worked,
and the signal it sent. -/
structure UpdateOutcome where
  files : Files.Tree
  succeeded : Bool
  delivery : Option Reload.Delivery

/-- Render the latest snapshot over the output and, when that worked, notify.  A failed
render leaves the output as it was and notifies no one.  A helper that stops the program
stops the update: its message is the error. -/
def applyUpdate (t : Output.TemplateFile) (store : Topology.Store) (n : Reload.Notifier)
    (files : Files.Tree) (alive : Int → Bool) : Except String UpdateOutcome :=
  match t.execute files store.load with
  | .error (.panic m) => .error m
  | .error _ => .ok ⟨files, false, none⟩
  | .ok written =>
    match n.notify written alive with
    | .ok delivery => .ok ⟨written, true, delivery⟩
    | .error _ => .ok ⟨written, false, none⟩

/-- Render a snapshot file once: build the template file, read the snapshot, write the
output. -/
def renderOnce (s : Settings) (files : Files.Tree) (snapshot : String) :
    Except StartupError Files.Tree := do
  let t ← (buildTemplate s).mapError .nameTemplate
  let cluster ← (Topology.loadSnapshot files snapshot).mapError .snapshot
  (t.execute files cluster).mapError .render

end BalancerSync.Lifecycle
