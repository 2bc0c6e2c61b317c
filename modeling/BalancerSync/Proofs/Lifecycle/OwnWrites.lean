import Mathlib
import BalancerSync.Lifecycle.Daemon
import BalancerSync.Config.Validate
import BalancerSync.Proofs.Output.WholeOrNothing

/-!
# The program's own writes do not trigger it again

Rendering writes a temporary file beside the output and renames it over the output, and the
watcher of that directory reports each step to the same callback that watches the snapshot
file and the template.  The callback compares names only, so a write concerns a watched file
exactly when the output, or the temporary file, has that file's name.

When the output's name is neither the template's nor the snapshot file's, and no watched file
has a name of the kind the temporary files get, the events of any write the program makes
leave the program as it was and signal nothing, and no update is ever due to an earlier
one (`own_writes_never_retrigger`).  Nothing in the settings keeps these names apart: an
output that is also the snapshot file reloads its own rendering and updates again, and again
(`output_as_snapshot_retriggers`).
-/

namespace BalancerSync

namespace Files

theorem fileName?_eq_some_iff {path name : String} :
    fileName? path = some name ↔
      (components path).getLast? = some name ∧ name ≠ "/" ∧ name ≠ ".." := by
  unfold fileName?
  cases (components path).getLast? with
  | none => simp
  | some final =>
    by_cases root : final = "/"
    · subst root
      constructor
      · intro named
        cases named
      · rintro ⟨same, notRoot, -⟩
        exact absurd (Option.some.inj same).symm notRoot
    · by_cases parent : final = ".."
      · subst parent
        constructor
        · intro named
          cases named
        · rintro ⟨same, -, notParent⟩
          exact absurd (Option.some.inj same).symm notParent
      · simp only [Option.some.injEq]
        constructor
        · rintro rfl
          exact ⟨rfl, root, parent⟩
        · rintro ⟨rfl, -, -⟩
          rfl

namespace Tree

variable {t : Tree} {path content : String} {faults : WriteFaults}

theorem getLast?_tempParts : (t.tempParts path).getLast? = some (t.tempName path) := by
  simp [tempParts]

theorem prefix_tempName : ".lb-reloader".toList <+: (t.tempName path).toList := by
  simp only [tempName, String.toList_append]
  exact List.prefix_append _ _

theorem getLast?_tempParts_ne {name : String} (plain : ¬ ".lb-reloader".toList <+: name.toList) :
    (t.tempParts path).getLast? ≠ some name := by
  rw [getLast?_tempParts]
  intro same
  obtain rfl := Option.some.inj same
  exact plain prefix_tempName

theorem mem_paths_writeEvents {event : FileEvent}
    (member : event ∈ t.writeEvents path content faults) :
    ∀ parts ∈ event.paths, parts = t.tempParts path ∨ parts = components path := by
  unfold writeEvents at member
  dsimp only at member
  split at member
  · simp at member
  repeat' split at member
  all_goals
    simp only [List.cons_append, List.nil_append, List.mem_cons, List.not_mem_nil,
      or_false] at member
    rcases member with rfl | rfl | rfl | rfl <;> simp

/-- The events of a write the system raises nothing in, when the directory beside the target is
there and the target passes the rename's checks: the temporary file is created, written, given
its mode and renamed over the target. -/
theorem writeEvents_of_checks (beside : t.tempFailure? path = none)
    (passes : t.renameFailure? path = none) :
    t.writeEvents path content =
      ⟨.create, [t.tempParts path]⟩ ::
        (if content.isEmpty then [] else [⟨.modify, [t.tempParts path]⟩]) ++
        [⟨.modify, [t.tempParts path]⟩,
          ⟨.modify, [t.tempParts path, components path]⟩] := by
  unfold writeEvents
  simp only [beside, renameFailure?_put_tempParts passes]

end Tree

end Files

namespace Output.TemplateFile

theorem mem_paths_executeEvents {t : TemplateFile} {files : Files.Tree}
    {cluster : Topology.Cluster} {faults : Files.WriteFaults} {event : Files.FileEvent}
    (member : event ∈ t.executeEvents files cluster faults) :
    ∀ parts ∈ event.paths,
      parts = files.tempParts t.path ∨ parts = Files.components t.path := by
  unfold executeEvents at member
  split at member
  · exact Files.Tree.mem_paths_writeEvents member
  · simp at member

end Output.TemplateFile

namespace Lifecycle

/-- A watched file is apart from an output: the output does not have its name, and its name is
not of the kind the output's temporary files get. -/
def ApartFrom (output watched : String) : Prop :=
  ∀ name, Files.fileName? watched = some name →
    Files.fileName? output ≠ some name ∧ ¬ ".lb-reloader".toList <+: name.toList

/-- An output is apart from the template and from the snapshot file, when there is one. -/
structure OutputApart (output template : String) (snapshot : Option String) : Prop where
  template : ApartFrom output template
  snapshot : ∀ path, snapshot = some path → ApartFrom output path

/-- The daemons a run reaches: the one the start built, and each one a change leads to. -/
inductive Reachable (s : Config.Settings) (files : Files.Tree) : Daemon → Prop
  | start {d : Daemon} {sent : List Reload.Delivery} {alive : Int → Bool} :
      Daemon.start s files alive = .ok (d, sent) → Reachable s files d
  | react {d : Daemon} (alive : Int → Bool) (change : Change) :
      Reachable s files d → Reachable s files (d.react alive change).1

namespace Daemon

variable {d : Daemon} {event : Files.FileEvent} {events : List Files.FileEvent}

/-! ## The callback -/

theorem concerns_eq_false {watched : String}
    (unnamed : ∀ name, Files.fileName? watched = some name →
      ∀ parts ∈ event.paths, parts.getLast? ≠ some name) :
    concerns event watched = false := by
  unfold concerns
  cases named : Files.fileName? watched with
  | none => rfl
  | some name =>
    simp only [Option.any_some, List.any_eq_false, beq_iff_eq]
    exact unnamed name named

theorem concerns_tempParts {t : Files.Tree} {path watched : String} {kind : Files.EventKind}
    (plain : ∀ name, Files.fileName? watched = some name →
      ¬ ".lb-reloader".toList <+: name.toList) :
    concerns ⟨kind, [t.tempParts path]⟩ watched = false := by
  apply concerns_eq_false
  intro name named parts within
  rw [List.mem_singleton.mp within]
  exact Files.Tree.getLast?_tempParts_ne (plain name named)

theorem callback_eq_self
    (snapshot : ∀ path, d.snapshotPath = some path → concerns event path = false)
    (template : concerns event d.template.source = false) :
    d.callback event = (d, false) := by
  unfold callback
  split
  · rfl
  · cases known : d.snapshotPath with
    | none => simp [template]
    | some path => simp [snapshot path known, template]

theorem observe_cons_of_quiet
    (snapshot : ∀ path, d.snapshotPath = some path → concerns event path = false)
    (template : concerns event d.template.source = false) :
    d.observe (event :: events) = d.observe events := by
  have first : (if d.delivers event then d.callback event else (d, false)) = (d, false) := by
    split
    · exact callback_eq_self snapshot template
    · rfl
  simp only [observe, first, Bool.false_or]

theorem observe_eq_self
    (quiet : ∀ event ∈ events,
      (∀ path, d.snapshotPath = some path → concerns event path = false) ∧
        concerns event d.template.source = false) :
    d.observe events = (d, false) := by
  induction events with
  | nil => rfl
  | cons event rest ih =>
    obtain ⟨snapshot, template⟩ := quiet event (List.mem_cons_self ..)
    rw [observe_cons_of_quiet snapshot template]
    exact ih fun e member => quiet e (List.mem_cons_of_mem _ member)

theorem callback_eq_with_store (d : Daemon) (event : Files.FileEvent) :
    (d.callback event).1 = { d with store := (d.callback event).1.store } := by
  unfold callback
  split
  · rfl
  · dsimp only
    split <;> rfl

theorem observe_eq_with_store (d : Daemon) (events : List Files.FileEvent) :
    (d.observe events).1 = { d with store := (d.observe events).1.store } := by
  induction events generalizing d with
  | nil => rfl
  | cons event rest ih =>
    have first : (if d.delivers event then d.callback event else (d, false)).1 =
        { d with
          store := (if d.delivers event then d.callback event else (d, false)).1.store } := by
      split
      · exact callback_eq_with_store d event
      · rfl
    simp only [observe]
    rw [ih, first]

/-! ## The program's own writes -/

theorem concerns_executeEvents {t : Output.TemplateFile} {files : Files.Tree}
    {cluster : Topology.Cluster} {faults : Files.WriteFaults} {watched : String}
    (apart : ApartFrom t.path watched) (member : event ∈ t.executeEvents files cluster faults) :
    concerns event watched = false := by
  apply concerns_eq_false
  intro name named parts within last
  obtain ⟨differs, notTemp⟩ := apart name named
  rcases Output.TemplateFile.mem_paths_executeEvents member parts within with rfl | rfl
  · exact Files.Tree.getLast?_tempParts_ne notTemp last
  · obtain ⟨-, notRoot, notParent⟩ := Files.fileName?_eq_some_iff.mp named
    exact differs (Files.fileName?_eq_some_iff.mpr ⟨last, notRoot, notParent⟩)

/-- With its output apart from the watched files, the watcher's callbacks on any write of the
output change nothing and signal nothing. -/
theorem observe_executeEvents (apart : OutputApart d.template.path d.template.source d.snapshotPath)
    (files : Files.Tree) (cluster : Topology.Cluster) (faults : Files.WriteFaults) :
    d.observe (d.template.executeEvents files cluster faults) = (d, false) :=
  observe_eq_self fun _ member =>
    ⟨fun path known => concerns_executeEvents (apart.snapshot path known) member,
      concerns_executeEvents apart.template member⟩

/-- Conversely, a write that goes through over a file with the snapshot file's name, in a
watched directory, reloads the snapshot after the rename: over files in which the snapshot
reads, the callbacks on the write's events signal. -/
theorem observe_writeEvents_reloads {path content snapshot name : String}
    {cluster : Topology.Cluster}
    (plain : ∀ watched ∈ d.watchedFiles, ∀ name, Files.fileName? watched = some name →
      ¬ ".lb-reloader".toList <+: name.toList)
    (known : d.snapshotPath = some snapshot) (snapshotName : Files.fileName? snapshot = some name)
    (outputName : Files.fileName? path = some name)
    (watched : d.watchedDirs.any (fun dir =>
      Files.components dir == (Files.components path).dropLast) = true)
    (beside : d.files.tempFailure? path = none) (passes : d.files.renameFailure? path = none)
    {after : Files.Tree} (reads : (Topology.loadSnapshot after snapshot).toOption = some cluster) :
    ({ d with files := after }.observe (d.files.writeEvents path content)).2 = true := by
  rw [Files.Tree.writeEvents_of_checks beside passes, List.cons_append]
  set written : Daemon := { d with files := after }
  have quiet (kind : Files.EventKind) :
      (∀ other, written.snapshotPath = some other →
        concerns ⟨kind, [d.files.tempParts path]⟩ other = false) ∧
      concerns ⟨kind, [d.files.tempParts path]⟩ written.template.source = false := by
    refine ⟨fun other known' => concerns_tempParts (plain other ?_),
      concerns_tempParts (plain _ ?_)⟩
    · have same : d.snapshotPath = some other := known'
      simp [watchedFiles, same]
    · simp [written, watchedFiles]
  rw [observe_cons_of_quiet (quiet .create).1 (quiet .create).2]
  have skipWritten (events : List Files.FileEvent) :
      written.observe
        ((if content.isEmpty then [] else [⟨.modify, [d.files.tempParts path]⟩]) ++ events) =
      written.observe events := by
    split
    · rfl
    · exact observe_cons_of_quiet (quiet .modify).1 (quiet .modify).2
  rw [skipWritten, observe_cons_of_quiet (quiet .modify).1 (quiet .modify).2]
  have delivered :
      written.delivers ⟨.modify, [d.files.tempParts path, Files.components path]⟩ = true := by
    simp only [delivers, List.any_cons, List.any_nil, Bool.or_false]
    exact Bool.or_eq_true_iff.mpr (.inr watched)
  have renamed : concerns ⟨.modify, [d.files.tempParts path, Files.components path]⟩ snapshot =
      true := by
    simp [concerns, snapshotName, (Files.fileName?_eq_some_iff.mp outputName).1]
  have reloads : (Topology.loadSnapshot written.files snapshot).toOption = some cluster := reads
  have knownAfter : written.snapshotPath = some snapshot := known
  simp only [observe, delivered, if_true, callback, knownAfter, renamed, reloads, reduceCtorEq,
    true_or, not_true_eq_false, if_false, Option.isSome_some, Bool.true_or]

/-! ## Steps of a run -/

variable {alive : Int → Bool}

theorem update_eq_with (d : Daemon) (alive : Int → Bool) :
    (d.update alive).1 =
      { d with
        files := (d.update alive).1.files
        store := (d.update alive).1.store
        pending := (d.update alive).1.pending } := by
  unfold update
  dsimp only
  split
  · rw [observe_eq_with_store]
  · rfl

theorem react_eq_with (d : Daemon) (alive : Int → Bool) (change : Change) :
    (d.react alive change).1 =
      { d with
        files := (d.react alive change).1.files
        store := (d.react alive change).1.store
        pending := (d.react alive change).1.pending } := by
  cases change with
  | hangup => exact update_eq_with d alive
  | replaced path content =>
    unfold react
    dsimp only
    split
    · rw [update_eq_with, observe_eq_with_store]
    · rw [observe_eq_with_store]

/-- After an update that rendered and wrote, another update is due exactly when the watcher's
callbacks on the events of the write signalled. -/
theorem update_pending_of_ok {outcome : UpdateOutcome}
    (updated : applyUpdate d.template d.store d.notifier d.files alive = .ok outcome) :
    (d.update alive).1.pending =
      ({ d with files := outcome.files }.observe
        (d.template.executeEvents d.files d.store.load)).2 := by
  unfold update
  simp only [updated]

theorem update_pending (apart : OutputApart d.template.path d.template.source d.snapshotPath) :
    (d.update alive).1.pending = false := by
  unfold update
  split
  · next outcome _ =>
    have quiet := observe_executeEvents (d := { d with files := outcome.files }) apart d.files
      d.store.load {}
    simp only [quiet]
  · rfl

/-- With the output apart from the watched files, a reaction leaves no update due when none was
due before. -/
theorem react_pending (apart : OutputApart d.template.path d.template.source d.snapshotPath)
    (quiet : d.pending = false) (change : Change) :
    (d.react alive change).1.pending = false := by
  cases change with
  | hangup => exact update_pending apart
  | replaced path content =>
    unfold react
    dsimp only
    split
    · rw [observe_eq_with_store] at *
      exact update_pending apart
    · rw [observe_eq_with_store]
      exact quiet

end Daemon

theorem buildTemplate_eq_ok {s : Config.Settings} {t : Output.TemplateFile}
    (built : buildTemplate s = .ok t) :
    t.source = s.renderer.templatePath ∧ t.path = s.renderer.outputPath := by
  unfold buildTemplate at built
  simp only [bind, Except.bind] at built
  split at built
  · cases built
  · cases built
    exact ⟨rfl, rfl⟩

namespace Daemon

variable {s : Config.Settings} {files : Files.Tree} {alive : Int → Bool} {d : Daemon}
  {sent : List Reload.Delivery}

theorem start_eq_of {t : Output.TemplateFile} {n : Reload.Notifier}
    (built : buildTemplate s = .ok t) (notifier : buildNotifier s.reload = .ok n)
    (watched : watchAll files
      (distinct [] ((s.snapshot.path.toList ++ [t.source]).map watchedParent)) = .ok ()) :
    Daemon.start s files alive =
      .ok (let first := s.snapshot.path.bind fun p => (Topology.loadSnapshot files p).toOption
        let d : Daemon := ⟨t, n, s.snapshot.path, Topology.Store.new (first.getD .empty), files,
          false⟩
        if first.isSome then d.update alive else (d, [])) := by
  simp only [start, built, notifier, bind, Except.bind, Except.mapError, watchedDirs,
    watchedFiles, watched]
  split <;> rfl

theorem start_eq_ok (started : Daemon.start s files alive = .ok (d, sent)) :
    ∃ (t : Output.TemplateFile) (first : Daemon), buildTemplate s = .ok t ∧
      first.template = t ∧ first.snapshotPath = s.snapshot.path ∧ first.pending = false ∧
      (d = first ∨ d = (first.update alive).1) := by
  unfold start at started
  cases built : buildTemplate s with
  | error e => simp [built, bind, Except.bind, Except.mapError] at started
  | ok t =>
    simp only [built, bind, Except.bind, Except.mapError] at started
    split at started
    · cases started
    · split at started
      · cases started
      · split at started
        · have updated := congrArg Prod.fst (Except.ok.inj started)
          exact ⟨t, _, rfl, rfl, rfl, rfl, .inr updated.symm⟩
        · have kept := congrArg Prod.fst (Except.ok.inj started)
          exact ⟨t, _, rfl, rfl, rfl, rfl, .inl kept.symm⟩

end Daemon

/-! ## Runs -/

section Runs

variable {s : Config.Settings} {files : Files.Tree} {d : Daemon}

/-- Along a run, the daemon keeps the settings' output apart from its watched files when the
settings keep it apart, and no update is ever due to the program's own write. -/
theorem Reachable.quiet
    (apart : OutputApart s.renderer.outputPath s.renderer.templatePath s.snapshot.path)
    (reached : Reachable s files d) :
    OutputApart d.template.path d.template.source d.snapshotPath ∧ d.pending = false := by
  induction reached with
  | start started =>
    obtain ⟨t, first, built, template, snapshot, pending, after⟩ := Daemon.start_eq_ok started
    obtain ⟨source, output⟩ := buildTemplate_eq_ok built
    have apartFirst : OutputApart first.template.path first.template.source
        first.snapshotPath := by
      rw [template, snapshot, source, output]
      exact apart
    rcases after with rfl | rfl
    · exact ⟨apartFirst, pending⟩
    · rw [Daemon.update_eq_with]
      exact ⟨apartFirst, Daemon.update_pending apartFirst⟩
  | react alive change _ ih =>
    obtain ⟨apartBefore, quiet⟩ := ih
    rw [Daemon.react_eq_with]
    exact ⟨apartBefore, Daemon.react_pending apartBefore quiet change⟩

end Runs

/-- The program's own writes do not trigger it again.  Let the output's name be neither the
template's nor the snapshot file's, and let no watched file have a name of the kind the
temporary files get.  Then along every run, whatever the files, the snapshot and the failures
the system raises, the watcher's callbacks on the events of the program's write of its output
publish no snapshot and signal nothing, and so no update is ever due to an earlier one. -/
theorem own_writes_never_retrigger (s : Config.Settings) (files : Files.Tree)
    (apart : OutputApart s.renderer.outputPath s.renderer.templatePath s.snapshot.path)
    (d : Daemon) (reached : Reachable s files d) :
    d.pending = false ∧
      ∀ (before : Files.Tree) (cluster : Topology.Cluster) (faults : Files.WriteFaults),
        d.observe (d.template.executeEvents before cluster faults) = (d, false) := by
  obtain ⟨apartHere, quiet⟩ := reached.quiet apart
  exact ⟨quiet, Daemon.observe_executeEvents apartHere⟩

private theorem plainRenderer_built (snapshot : Config.SnapshotSettings) :
    buildTemplate
        { renderer := { templatePath := "t", outputPath := "o", serverNameTemplates := "x" }
          snapshot := snapshot } =
      .ok ⟨"t", "o", ⟨[("server_name_0", ⟨some "server_name_0", [.text "x"]⟩)]⟩⟩ := by
    cbv

/-- An output beside its template, the snapshot file still to come: the daemon the start builds
has no update due, and its writes trigger nothing. -/
theorem own_writes_never_retrigger_beside_template :
    OutputApart "o" "t" (some "s") ∧
      ∃ d, Reachable
        { renderer := { templatePath := "t", outputPath := "o", serverNameTemplates := "x" }
          snapshot := { path := some "s" } }
        ⟨"/w", [(["t"], .file "x" 0o644)]⟩ d ∧
        d.pending = false ∧
        ∀ (before : Files.Tree) (cluster : Topology.Cluster) (faults : Files.WriteFaults),
          d.observe (d.template.executeEvents before cluster faults) = (d, false) := by
  have output : Files.fileName? "o" = some "o" := by cbv
  have apart : OutputApart "o" "t" (some "s") := by
    constructor
    · intro name named
      rw [show Files.fileName? "t" = some "t" by cbv] at named
      cases named
      exact ⟨by rw [output]; decide, by decide⟩
    · intro path known name named
      cases known
      rw [show Files.fileName? "s" = some "s" by cbv] at named
      cases named
      exact ⟨by rw [output]; decide, by decide⟩
  have missing :
      (Topology.loadSnapshot ⟨"/w", [(["t"], .file "x" 0o644)]⟩ "s").toOption = none := by
    cbv
  have started : Daemon.start
        { renderer := { templatePath := "t", outputPath := "o", serverNameTemplates := "x" }
          snapshot := { path := some "s" } }
        ⟨"/w", [(["t"], .file "x" 0o644)]⟩ (fun _ => false) =
      .ok (⟨⟨"t", "o", ⟨[("server_name_0", ⟨some "server_name_0", [.text "x"]⟩)]⟩⟩,
        .silent, some "s",
        Topology.Store.new, ⟨"/w", [(["t"], .file "x" 0o644)]⟩, false⟩, []) := by
    rw [Daemon.start_eq_of (plainRenderer_built _) rfl (by cbv)]
    simp only [Option.bind_some, missing, Option.isSome_none, Option.getD_none]
    rfl
  have reached := Reachable.start started
  exact ⟨apart, _, reached, own_writes_never_retrigger _ _ apart _ reached⟩

/-! ## An output that is also the snapshot file

The settings below name the output as the snapshot file.  The evaluations the refutation rests
on are stated one by one. -/

private theorem snapshotOutput_accepted :
    Config.Settings.validate
        { renderer := { templatePath := "t", outputPath := "o", serverNameTemplates := "x" }
          snapshot := { path := some "o" } } =
      .ok
        { renderer := { templatePath := "t", outputPath := "o", serverNameTemplates := "x" }
          snapshot := { path := some "o" } } := by cbv

private theorem snapshotOutput_rendered :
    Output.TemplateFile.render
        ⟨"t", "o", ⟨[("server_name_0", ⟨some "server_name_0", [.text "x"]⟩)]⟩⟩
        ⟨"/w", [(["t"], .file "{}" 0o644), (["o"], .file "{}" 0o644)]⟩ Topology.Cluster.empty =
      .ok "{}" := by
    cbv

/-- An output that is also the snapshot file: the settings pass validation, and the first
update's write reloads its own rendering, so another update is due. -/
theorem output_as_snapshot_retriggers :
    Config.Settings.validate
        { renderer := { templatePath := "t", outputPath := "o", serverNameTemplates := "x" }
          snapshot := { path := some "o" } } =
      .ok
        { renderer := { templatePath := "t", outputPath := "o", serverNameTemplates := "x" }
          snapshot := { path := some "o" } } ∧
    ∃ d sent, Daemon.start
        { renderer := { templatePath := "t", outputPath := "o", serverNameTemplates := "x" }
          snapshot := { path := some "o" } }
        ⟨"/w", [(["t"], .file "{}" 0o644), (["o"], .file "{}" 0o644)]⟩ (fun _ => false) =
      .ok (d, sent) ∧ d.pending = true := by
  have loaded : (Topology.loadSnapshot
      ⟨"/w", [(["t"], .file "{}" 0o644), (["o"], .file "{}" 0o644)]⟩ "o").toOption =
        some Topology.Cluster.empty := by cbv
  refine ⟨snapshotOutput_accepted, ?_⟩
  rw [Daemon.start_eq_of (plainRenderer_built _) rfl (by cbv)]
  simp only [Option.bind_some, loaded, Option.isSome_some, if_true, Option.getD_some]
  refine ⟨(Daemon.update _ fun _ => false).1, (Daemon.update _ fun _ => false).2, rfl, ?_⟩
  have beside : Files.Tree.tempFailure?
      ⟨"/w", [(["t"], .file "{}" 0o644), (["o"], .file "{}" 0o644)]⟩ "o" = none := by cbv
  have passes : Files.Tree.renameFailure?
      ⟨"/w", [(["t"], .file "{}" 0o644), (["o"], .file "{}" 0o644)]⟩ "o" = none :=
    Files.Tree.renameFailure?_eq_none_iff.mpr
      ⟨by decide, by cbv, by cbv, by cbv, fun mode => by cbv; simp⟩
  have target : Files.components "o" = ["o"] := by cbv
  have executed : Output.TemplateFile.execute
      ⟨"t", "o", ⟨[("server_name_0", ⟨some "server_name_0", [.text "x"]⟩)]⟩⟩
      ⟨"/w", [(["t"], .file "{}" 0o644), (["o"], .file "{}" 0o644)]⟩ Topology.Cluster.empty =
        .ok (Files.Tree.put ⟨"/w", [(["t"], .file "{}" 0o644), (["o"], .file "{}" 0o644)]⟩ ["o"]
          (.file "{}" 0o644)) := by
    rw [Output.TemplateFile.execute_eq, snapshotOutput_rendered]
    simp only [Files.Tree.writeThrough_of_checks beside passes, target]
  rw [Daemon.update_pending_of_ok
    (by simp only [applyUpdate, Topology.Store.load, Topology.Store.new, executed]; rfl)]
  have events : Output.TemplateFile.executeEvents
      ⟨"t", "o", ⟨[("server_name_0", ⟨some "server_name_0", [.text "x"]⟩)]⟩⟩
      ⟨"/w", [(["t"], .file "{}" 0o644), (["o"], .file "{}" 0o644)]⟩ Topology.Cluster.empty =
        Files.Tree.writeEvents
          ⟨"/w", [(["t"], .file "{}" 0o644), (["o"], .file "{}" 0o644)]⟩ "o" "{}" := by
    simp only [Output.TemplateFile.executeEvents, snapshotOutput_rendered]
  have plain : ∀ watched ∈ ["o", "t"], ∀ name, Files.fileName? watched = some name →
      ¬ ".lb-reloader".toList <+: name.toList := by
    intro watched member name named
    simp only [List.mem_cons, List.not_mem_nil, or_false] at member
    rcases member with rfl | rfl
    · rw [show Files.fileName? "o" = some "o" by cbv] at named
      cases named
      decide
    · rw [show Files.fileName? "t" = some "t" by cbv] at named
      cases named
      decide
  simp only [Topology.Store.load, Topology.Store.new, events]
  have named : Files.fileName? "o" = some "o" := by cbv
  have reread : (Topology.loadSnapshot (Files.Tree.put
      ⟨"/w", [(["t"], .file "{}" 0o644), (["o"], .file "{}" 0o644)]⟩ ["o"]
      (.file "{}" 0o644)) "o").toOption = some Topology.Cluster.empty := by
    cbv
  exact Daemon.observe_writeEvents_reloads
    (d := ⟨⟨"t", "o", ⟨[("server_name_0", ⟨some "server_name_0", [.text "x"]⟩)]⟩⟩,
      .silent, some "o", ⟨.empty⟩,
      ⟨"/w", [(["t"], .file "{}" 0o644), (["o"], .file "{}" 0o644)]⟩, false⟩)
    plain rfl named named (by cbv) beside passes reread

end Lifecycle

end BalancerSync
