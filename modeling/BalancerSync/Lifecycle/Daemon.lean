import BalancerSync.Lifecycle.Startup

/-!
# The watch, render and reload loop

The long-running program as a state machine over the files it sees.  At start it builds the
template file and the notifier, reads the snapshot file if one is configured (a snapshot that
cannot be read is waited for), and watches the directories of the snapshot file and of the
template.  When the first snapshot was read it renders at once.

Afterwards it reacts to two things.  A file replaced in a watched directory whose name is the
snapshot file's name reloads the snapshot (one that cannot be read keeps the current one);
one whose name is the template's name means the template changed.  Either way, when
something changed, it updates.  A hang-up signal updates too.  An update renders the current
snapshot and notifies; an update stopped by a failing helper changes nothing.

Files are matched by their last name within the watched directories, so a file of the
snapshot's name beside the template reloads the snapshot as well.

The watcher sees the program's own writes too: rendering writes a temporary file beside the
output and renames it over the output, and every event of that write reaches the same callback.
When one of them signals, the coordinator holds a signal, and the update it asks for runs with
the next change the program reacts to.
-/

namespace BalancerSync.Lifecycle

open BalancerSync.Config

/-- The parent directory of a path as the watcher watches it: `.` when it has none. -/
def watchedParent (path : String) : String := Files.parentText path

/-- Whether a directory can be watched: it, or a file, must be there, under directories. -/
def canWatch (files : Files.Tree) (dir : String) : Except Files.IoError Unit := do
  let parts := Files.components dir
  files.checkParents parts
  match files.find? parts with
  | some _ => .ok ()
  | none => .error .notFound

/-- A directory's path as the watcher reports it: relative paths are taken from the
working directory. -/
def watchedPath (files : Files.Tree) (dir : String) : String :=
  if dir.startsWith "/" then dir else files.root ++ "/" ++ dir

/-- The distinct members of a list, first occurrences kept in order. -/
def distinct : List String → List String → List String
  | seen, [] => seen
  | seen, x :: rest => if seen.contains x then distinct seen rest else distinct (seen ++ [x]) rest

/-- A change from outside. -/
inductive Change where
  /-- A file was replaced with new content. -/
  | replaced (path content : String)
  /-- A hang-up signal arrived. -/
  | hangup
deriving Repr, Inhabited

/-- The running program. -/
structure Daemon where
  template : Output.TemplateFile
  notifier : Reload.Notifier
  snapshotPath : Option String
  store : Topology.Store
  files : Files.Tree
  /-- The watcher signalled while the last update wrote the output: another update is due. -/
  pending : Bool := false

namespace Daemon

/-- The files watched: the snapshot file, then the template. -/
def watchedFiles (d : Daemon) : List String := d.snapshotPath.toList ++ [d.template.source]

/-- The directories watched, each once. -/
def watchedDirs (d : Daemon) : List String := distinct [] (d.watchedFiles.map watchedParent)

/-- The watcher delivers an event when it happened in a watched directory. -/
def delivers (d : Daemon) (event : Files.FileEvent) : Bool :=
  event.paths.any fun parts => d.watchedDirs.any fun dir => Files.components dir == parts.dropLast

/-- An event concerns a watched file when one of its paths has the watched file's name. -/
def concerns (event : Files.FileEvent) (watched : String) : Bool :=
  (Files.fileName? watched).any fun name => event.paths.any fun parts => parts.getLast? == some name

/-- The watcher's callback on one event: a create or modify event that concerns the snapshot
file reloads it and publishes what could be read; one that concerns the template is a change
as well.  Answers the daemon and whether the callback signalled the coordinator. -/
def callback (d : Daemon) (event : Files.FileEvent) : Daemon × Bool :=
  if ¬(event.kind = .modify ∨ event.kind = .create) then (d, false)
  else
    let reloaded := match d.snapshotPath with
      | some p => if concerns event p then (Topology.loadSnapshot d.files p).toOption else none
      | none => none
    let published := match reloaded with
      | some cluster => { d with store := d.store.publish cluster }
      | none => d
    (published, reloaded.isSome || concerns event d.template.source)

/-- The callbacks on the events the watcher delivers, in order.  Answers the daemon and whether
any callback signalled. -/
def observe (d : Daemon) : List Files.FileEvent → Daemon × Bool
  | [] => (d, false)
  | event :: rest =>
    let first := if d.delivers event then d.callback event else (d, false)
    let later := first.1.observe rest
    (later.1, first.2 || later.2)

/-- Update: render and notify, the watcher seeing the write.  The signals sent are returned. -/
def update (d : Daemon) (alive : Int → Bool) : Daemon × List Reload.Delivery :=
  let events := d.template.executeEvents d.files d.store.load
  match applyUpdate d.template d.store d.notifier d.files alive with
  | .ok outcome =>
    let seen := { d with files := outcome.files }.observe events
    ({ seen.1 with pending := seen.2 }, outcome.delivery.toList)
  | .error _ => ({ d with pending := false }, [])

/-- Watch every watched directory, in order; the first that cannot be watched fails. -/
def watchAll (files : Files.Tree) : List String → Except StartupError Unit
  | [] => .ok ()
  | dir :: rest =>
    match canWatch files dir with
    | .ok () => watchAll files rest
    | .error e => .error (.watch e (watchedPath files dir))

/-- Start from settings and files: build, read the first snapshot, watch, and render when
the first snapshot was read. -/
def start (s : Settings) (files : Files.Tree) (alive : Int → Bool) :
    Except StartupError (Daemon × List Reload.Delivery) := do
  let template ← (buildTemplate s).mapError .nameTemplate
  let notifier ← (buildNotifier s.reload).mapError .reload
  let first := s.snapshot.path.bind fun p => (Topology.loadSnapshot files p).toOption
  let d : Daemon :=
    { template := template, notifier := notifier, snapshotPath := s.snapshot.path,
      store := Topology.Store.new (first.getD Topology.Cluster.empty), files := files }
  watchAll files d.watchedDirs
  if first.isSome then .ok (d.update alive) else .ok (d, [])

/-- React to a change, and run an update that is due; the signals sent are returned. -/
def react (d : Daemon) (alive : Int → Bool) : Change → Daemon × List Reload.Delivery
  | .hangup => d.update alive
  | .replaced path content =>
    let d := { d with files := (d.files.write path content).toOption.getD d.files }
    let seen := d.observe [⟨.modify, [Files.components path]⟩]
    if seen.2 || seen.1.pending then seen.1.update alive else (seen.1, [])

end Daemon

end BalancerSync.Lifecycle
