import BalancerSync.Cli.Arguments
import BalancerSync.Config.Load
import BalancerSync.Lifecycle.Daemon

/-!
# The program

What one invocation of the program does, given its command line and the files it sees: the
exit code, what it prints, and the files it leaves.

The settings are the configuration file's (every field defaulting without one), overridden
by the options given, then checked.  `render` renders the snapshot once; `run` starts the
watch loop and keeps going until it is told to stop, which ends it successfully.  A failure
prints `Error: ` and a debug view of the error, and exits with 1; a malformed command line
exits with 2, and a helper stopping the program exits with 101.
-/

namespace BalancerSync.Cli

open BalancerSync.Config

/-- The outcome of an invocation. -/
structure Outcome where
  code : Nat
  stdout : String := ""
  stderr : String := ""
  files : Files.Tree

/-- The settings with the options given on the command line put over them. -/
def Given.apply (g : Given) (s : Settings) : Settings :=
  let text (key : String) (current : String) := (g.get? key).getD current
  { renderer :=
      { templatePath := text "template" s.renderer.templatePath,
        outputPath := text "output" s.renderer.outputPath,
        serverNameTemplates := text "server-name-templates" s.renderer.serverNameTemplates },
    coordinator :=
      { quiescenceMs := match (g.get? "quiescence-ms").map readCount with
          | some (.ok n) => n
          | _ => s.coordinator.quiescenceMs },
    snapshot := { path := match g.get? "snapshot" with
      | some p => some p
      | none => s.snapshot.path },
    reload := { s.reload with pidfile := match g.get? "pidfile" with
      | some p => some p
      | none => s.reload.pidfile },
    observability := { s.observability with logLevel := text "log-level" s.observability.logLevel } }

/-- A failure: `Error: <debug view>` on the error stream, exit code 1. -/
def failed (files : Files.Tree) (debug : String) : Outcome :=
  { code := 1, stderr := "Error: " ++ debug ++ "\n", files := files }

/-- A helper stopped the program: the panic report, exit code 101. -/
def panicked (files : Files.Tree) (message : String) : Outcome :=
  { code := 101, files := files,
    stderr := "\nthread 'main' panicked at library/core/src/iter/traits/accum.rs:149:1:\n" ++
      message ++ "\nnote: run with " ++ "`RUST_BACKTRACE=1`" ++
      " environment variable to display a backtrace\n" }

/-- The settings of an invocation: the configuration file's, overridden and checked. -/
def settingsFor (given : Given) (files : Files.Tree) : Except String Settings := do
  let base ← match given.get? "config" with
    | some path => (readSettings files path).mapError ConfigError.debug
    | none => .ok {}
  (given.apply base).validate.mapError fun ps => (ConfigError.validation ps).debug

/-- Run a subcommand with checked settings.  `alive` tells which pids belong to running
processes. -/
def runCommand (command : Command) (s : Settings) (files : Files.Tree) (alive : Int → Bool) :
    Outcome :=
  match command with
  | .render =>
    match s.snapshot.path with
    | none => failed files (Text.quoted "render requires --snapshot or snapshot.path")
    | some snapshot =>
      match Lifecycle.renderOnce s files snapshot with
      | .ok written => { code := 0, files := written }
      | .error (.render (.panic m)) => panicked files m
      | .error e => failed files e.debug
  | .run =>
    match Lifecycle.Daemon.start s files alive with
    | .ok (d, _) => { code := 0, files := d.files }
    | .error e => failed files e.debug

/-- One invocation: read the command line, then the settings, then run the subcommand. -/
def invoke (args : List String) (files : Files.Tree) (alive : Int → Bool) : Outcome :=
  match readArguments args with
  | .help text => { code := 0, stdout := text, files := files }
  | .refuse text => { code := 2, stderr := text, files := files }
  | .invoke command given =>
    match settingsFor given files with
    | .error debug => failed files debug
    | .ok s => runCommand command s files alive

end BalancerSync.Cli
