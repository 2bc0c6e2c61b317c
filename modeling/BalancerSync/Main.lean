import BalancerSync.Cli.Program

/-!
# The executable

The outer layer that touches the machine: it reads the files an invocation needs into a
tree, runs the invocation on it, prints what it printed, writes back the files it changed,
and exits with its code.  With `run` it then keeps watching: it reads the snapshot file and
the template again every 200 milliseconds and hands every change to the loop, writing the
output whenever it changes, until the process is stopped.

No signal is sent from here: a configured pidfile's process is treated as gone, so every
update reports the notification as failed after writing the output.
-/

open BalancerSync

namespace BalancerSync.Executable

/-- Read one file into the tree, with the directories above it; a file that cannot be read
is left out. -/
def loadFile (t : Files.Tree) (path : String) : IO Files.Tree := do
  try
    let content ← IO.FS.readFile path
    let t := t.makeDirs (Files.parentText path)
    pure ((t.write path content).toOption.getD t)
  catch _ =>
    pure (t.makeDirs (Files.parentText path))

/-- Read the files an invocation may need: the configuration file, then those its settings
name. -/
def loadTree (root : String) (args : List String) : IO Files.Tree := do
  let t := Files.Tree.empty root
  match Cli.readArguments args with
  | .invoke _ given =>
    let t ← match given.get? "config" with
      | some path => loadFile t path
      | none => pure t
    match Cli.settingsFor given t with
    | .ok s =>
      let paths := [s.renderer.templatePath, s.renderer.outputPath] ++ s.snapshot.path.toList ++
        s.reload.pidfile.toList
      paths.foldlM loadFile t
    | .error _ => pure t
  | _ => pure t

/-- Write a file the way the program does: a temporary file beside it, renamed over it. -/
def writeBack (path content : String) : IO Unit := do
  let temp := Files.parentText path ++ "/.lb-reloader-output"
  IO.FS.writeFile temp content
  IO.FS.rename temp path

/-- Write the output file when its text differs from what it was. -/
def flushOutput (path : String) (before after : Files.Tree) : IO Unit := do
  match before.entry? path, after.entry? path with
  | some (.file old _), some (.file new _) => if old != new then writeBack path new
  | none, some (.file new _) => writeBack path new
  | _, _ => pure ()

/-- The text of a file now, if it can be read. -/
def currentText (path : String) : IO (Option String) := do
  try pure (some (← IO.FS.readFile path)) catch _ => pure none

/-- Watch the snapshot file and the template, handing every change to the loop. -/
partial def watch (d : Lifecycle.Daemon) (seen : List (String × Option String)) : IO Unit := do
  IO.sleep 200
  let mut d := d
  let mut now : List (String × Option String) := []
  for (path, last) in seen do
    let text ← currentText path
    now := now ++ [(path, text)]
    if text != last then
      match text with
      | some content =>
        let before := d.files
        d := (d.react (fun _ => false) (.replaced path content)).1
        flushOutput d.template.path before d.files
      | none => pure ()
  watch d now

end BalancerSync.Executable

open BalancerSync.Executable in
/-- Run the program on the command line it was given. -/
def main (args : List String) : IO UInt32 := do
  let root := toString (← IO.currentDir)
  let files ← loadTree root args
  let out := Cli.invoke args files (fun _ => false)
  IO.print out.stdout
  IO.eprint out.stderr
  match Cli.readArguments args with
  | .invoke command given =>
    match Cli.settingsFor given files with
    | .ok s =>
      flushOutput s.renderer.outputPath files out.files
      if command == .run && out.code == 0 then
        match Lifecycle.Daemon.start s files (fun _ => false) with
        | .ok (d, _) =>
          let watched := d.watchedFiles
          let seen ← watched.mapM fun p => do pure (p, ← currentText p)
          watch d seen
        | .error _ => pure ()
    | .error _ => pure ()
  | _ => pure ()
  pure out.code.toUInt32
