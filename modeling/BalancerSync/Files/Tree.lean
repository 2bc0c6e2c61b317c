import BalancerSync.Text.Quote

/-!
# Working directory files

A model of the files the program reads and writes: a tree of regular files (with their text and
permission bits) and directories under a working directory. Paths are relative to the working
directory; an absolute path names nothing, since the model holds no other directory.

Reading, writing and renaming fail as the operating system would: a missing file or parent is
`No such file or directory (os error 2)`, a parent that is a file is `Not a directory (os error
20)`, and reading or replacing a directory as a file is `Is a directory (os error 21)`. New
files get mode 644 and new directories 755.

A path written with a trailing `/` (or ending in a `.` step) asks for a directory: a file there
is `Not a directory`, and renaming a file onto such a path fails with that error too. The empty
path names nothing, and a rename onto the root, `.` or `..` is refused as busy.
-/

namespace BalancerSync.Files

/-- An operating-system error of a file operation. -/
inductive IoError where
  | notFound
  | busy
  | notDirectory
  | isDirectory
  deriving DecidableEq, Repr, Inhabited

namespace IoError

/-- The error number. -/
def code : IoError → Nat
  | .notFound => 2 | .busy => 16 | .notDirectory => 20 | .isDirectory => 21

/-- The kind's name, as debug views write it. -/
def kindName : IoError → String
  | .notFound => "NotFound" | .busy => "ResourceBusy" | .notDirectory => "NotADirectory"
  | .isDirectory => "IsADirectory"

/-- The system's description. -/
def description : IoError → String
  | .notFound => "No such file or directory"
  | .busy => "Device or resource busy"
  | .notDirectory => "Not a directory"
  | .isDirectory => "Is a directory"

/-- `<description> (os error <code>)`. -/
def message (e : IoError) : String :=
  e.description ++ " (os error " ++ toString e.code ++ ")"

/-- The debug view of the error. -/
def debug (e : IoError) : String :=
  "Os \x7b code: " ++ toString e.code ++ ", kind: " ++ e.kindName ++ ", message: " ++
    Text.quoted e.description ++ " \x7d"

end IoError

/-- An error of a file operation, possibly with the path of the file it concerns. -/
inductive IoFailure where
  | os (error : IoError)
  | atPath (error : IoError) (path : String)
  deriving Inhabited

/-- `<message>`, or `<message> at path "<path>"`. -/
def IoFailure.message : IoFailure → String
  | .os e => e.message
  | .atPath e p => e.message ++ " at path " ++ Text.quoted p

/-- The debug view of a failure. -/
def IoFailure.debug : IoFailure → String
  | .os e => e.debug
  | .atPath e p =>
    "Custom \x7b kind: " ++ e.kindName ++ ", error: PathError \x7b path: " ++ Text.quoted p ++
      ", err: " ++ e.debug ++ " \x7d \x7d"

/-- Failures the system may raise while a file is written through a temporary file: when its
text is written, when it is synced to disk, when its mode is set.  A plain write raises none. -/
structure WriteFaults where
  write : Option IoError := none
  sync : Option IoError := none
  chmod : Option IoError := none

/-- What a watcher of a directory reports an operation as: an access (a file opened or closed), a
creation, a modification (of a file's content, metadata or name), a removal, or an event of no
more precise kind (`any`, `other`). -/
inductive EventKind where
  | any
  | access
  | create
  | modify
  | remove
  | other
  deriving DecidableEq, Repr

/-- An operation a watcher reports, with the paths it concerns, as components. -/
structure FileEvent where
  kind : EventKind
  paths : List (List String)
  deriving Repr

/-- An entry of the tree. -/
inductive Node where
  | file (content : String) (mode : Nat)
  | dir (mode : Nat)
  deriving Inhabited

/-- The files under a working directory, by path components. -/
structure Tree where
  /-- The absolute name of the working directory, as messages show it. -/
  root : String
  entries : List (List String × Node)
  deriving Inhabited

/-- The steps of a path between its separators, empty ones kept: `a//b/` has the steps `a`, ``,
`b` and ``. -/
def steps (path : String) : List String :=
  (path.toList.splitOn '/').map String.ofList

/-- The components of a path: separators and `.` dropped; an absolute path keeps a leading
`/` component, which names no entry. -/
def components (path : String) : List String :=
  let parts := (steps path).filter (fun c => c != "" && c != ".")
  if path.startsWith "/" then "/" :: parts else parts

/-- Drop the empty and `.` parts ending a split path, keeping its first part. -/
def trimSteps : List String → List String
  | [] => []
  | first :: rest =>
    first :: (rest.reverse.dropWhile (fun p => p == "" || p == ".")).reverse

/-- The directory beside a path, as it is written: its last step removed, trailing separators
and `.` steps ignored on both sides of the removal; `.` when that leaves nothing or the path
has no parent (it is empty or the root). -/
def parentText (path : String) : String :=
  match trimSteps (steps path) with
  | [] | [_] => "."
  | parts =>
    match trimSteps parts.dropLast with
    | [""] => "/"
    | ps => if ps.isEmpty then "." else "/".intercalate ps

/-- The path asks for a directory: it ends in a separator or a `.` step. -/
def namesDirectory (path : String) : Bool :=
  match (steps path).getLast? with
  | some "" | some "." => path.length > 1 || path == "."
  | _ => false

/-- The last step of a path as the system resolves it, after trailing separators: the root,
`.` and `..` are no file name. -/
def lastStep? (path : String) : Option String :=
  match (steps path).reverse.dropWhile (· == "") with
  | last :: _ => if last == "." || last == ".." then none else some last
  | [] => none

/-- The last component of a path as it is written; a path that ends in the root or in `..`
has no file name. -/
def fileName? (path : String) : Option String :=
  match (components path).getLast? with
  | some "/" | some ".." => none
  | some name => some name
  | none => none

namespace Tree

/-- An empty working directory. -/
def empty (root : String) : Tree := ⟨root, []⟩

/-- The entry at some components; the working directory itself is a directory. -/
def find? (t : Tree) (parts : List String) : Option Node :=
  if parts.isEmpty then some (.dir 0o755) else t.entries.lookup parts

/-- Checks one more prefix of a path, after the shorter ones: a failure stays, and otherwise the
prefix must be a directory. -/
def checkParent (t : Tree) (acc : Except IoError Unit) (pre : List String) : Except IoError Unit :=
  match acc with
  | .error e => .error e
  | .ok () =>
    match t.find? pre with
    | some (.dir _) => .ok ()
    | some (.file _ _) => .error .notDirectory
    | none => .error .notFound

/-- Checks that every proper prefix of a path is a directory. -/
def checkParents (t : Tree) (parts : List String) : Except IoError Unit :=
  let prefixes := (List.range parts.length).map (fun n => parts.take n)
  prefixes.foldl t.checkParent (.ok ())

/-- Replaces or adds the entry at some components. -/
def put (t : Tree) (parts : List String) (node : Node) : Tree :=
  if (t.entries.lookup parts).isSome then
    { t with entries := t.entries.map (fun e => if e.1 == parts then (parts, node) else e) }
  else { t with entries := t.entries ++ [(parts, node)] }

/-- Reads a file's text. -/
def read (t : Tree) (path : String) : Except IoError String := do
  if path.isEmpty then throw .notFound
  let parts := components path
  t.checkParents parts
  match t.find? parts with
  | some (.file content _) => if namesDirectory path then throw .notDirectory else pure content
  | some (.dir _) => throw .isDirectory
  | none => throw .notFound

/-- Creates or truncates a file with the given text; a new file gets mode 644. -/
def write (t : Tree) (path : String) (content : String) : Except IoError Tree := do
  let parts := components path
  t.checkParents parts
  match t.find? parts with
  | some (.file _ mode) => pure (t.put parts (.file content mode))
  | some (.dir _) => throw .isDirectory
  | none => if parts.isEmpty then throw .isDirectory else pure (t.put parts (.file content 0o644))

/-- Creates a directory and its missing parents. -/
def makeDirs (t : Tree) (path : String) : Tree :=
  let parts := components path
  (List.range parts.length).foldl (fun acc n =>
    let pre := parts.take (n + 1)
    match acc.find? pre with
    | some _ => acc
    | none => acc.put pre (.dir 0o755)) t

/-- The entry at a path, if there is one. -/
def entry? (t : Tree) (path : String) : Option Node :=
  let parts := components path
  if path.isEmpty then none
  else match t.checkParents parts with
    | .ok () =>
      match t.find? parts with
      | some (.file content mode) => if namesDirectory path then none else some (.file content mode)
      | other => other
    | .error _ => none

/-- Removes the entry at some components. -/
def erase (t : Tree) (parts : List String) : Tree :=
  { t with entries := t.entries.filter (fun e => e.1 != parts) }

/-- Moves the entry at `source` to `target`, replacing what is there. -/
def move (t : Tree) (source target : List String) : Tree :=
  match t.find? source with
  | some node => (t.erase source).put target node
  | none => t

/-- Why the temporary file of a write of `path` cannot be made: its directory, the one beside
the path, is missing or is no directory. -/
def tempFailure? (t : Tree) (path : String) : Option IoError :=
  let dirParts := components (parentText path)
  match t.checkParents dirParts, t.find? dirParts with
  | .error e, _ => some e
  | .ok (), some (.file _ _) => some .notDirectory
  | .ok (), none => some .notFound
  | .ok (), some (.dir _) => none

/-- The path of the temporary file as a failure of the write shows it: in the directory beside
the target, taken from the working directory when relative, its random part as `XXXXXX`. -/
def tempText (t : Tree) (path : String) : String :=
  let dir := parentText path
  let shown := ".lb-reloaderXXXXXX"
  if dir.startsWith "/" then (if dir == "/" then "/" else dir ++ "/") ++ shown
  else t.root ++ "/" ++ dir ++ "/" ++ shown

/-- The name of the temporary file of a write of `path`: `.lb-reloader` and more `X`s than the
steps of the tree and the path are long together, so that no entry and no step of the path
has it. -/
def tempName (t : Tree) (path : String) : String :=
  let used := ((t.entries.flatMap (·.1)).map String.length).foldr (· + ·) 0 + path.length
  ".lb-reloader" ++ String.ofList (List.replicate (used + 1) 'X')

/-- The components of the temporary file of a write of `path`, beside it. -/
def tempParts (t : Tree) (path : String) : List String :=
  components (parentText path) ++ [t.tempName path]

/-- Why renaming a file onto `path` fails, if it does: for an empty target, for one without a
file name (the root, `.`, `..`), for one asking for a directory, and for a directory at the
target; a missing or non-directory parent fails as it would for any path. -/
def renameFailure? (t : Tree) (path : String) : Option IoError :=
  let parts := components path
  if path.isEmpty then some .notFound
  else match t.checkParents parts, lastStep? path with
    | .error e, _ => some e
    | .ok (), none =>
      -- the directory holding the nameless last step must still be found
      let above := ((steps path).reverse.dropWhile (· == "")).drop 1
      match t.find? (components ("/".intercalate above.reverse)) with
      | some (.dir _) => some .busy
      | some (.file _ _) => some .notDirectory
      | none => some .notFound
    | .ok (), some _ =>
      if namesDirectory path then some .notDirectory
      else match t.find? parts with
        | some (.dir _) => some .isDirectory
        | _ => none

/-- Writes a file by way of a temporary file, step by step as the system does it: the temporary
file is made in the directory beside the target under a name nothing there has, written,
synced, given mode 644 and renamed over the target, so the target holds the old text or the
whole new text.  A failure at any step after the temporary file exists drops it, which
removes it.  Answers the files the steps leave and the failure that stopped them, if any. -/
def writeThrough (t : Tree) (path content : String) (faults : WriteFaults := {}) :
    Tree × Option IoFailure :=
  match t.tempFailure? path with
  | some e => (t, some (.atPath e (t.tempText path)))
  | none =>
    let temp := t.tempParts path
    let dropped := fun (u : Tree) (e : IoFailure) => (u.erase temp, some e)
    let created := t.put temp (.file "" 0o600)
    match faults.write with
    | some e => dropped created (.atPath e (t.tempText path))
    | none =>
      let written := created.put temp (.file content 0o600)
      match faults.sync with
      | some e => dropped written (.os e)
      | none =>
        match faults.chmod with
        | some e => dropped written (.os e)
        | none =>
          let ready := written.put temp (.file content 0o644)
          match ready.renameFailure? path with
          | some e => dropped ready (.os e)
          | none => (ready.move temp (components path), none)

/-- What a watcher of the target's directory sees of a write through a temporary file, step by
step as `writeThrough` takes them: the temporary file is created, written (when there is text to
write), given its mode and renamed over the target, which concerns both; a failure once it
exists removes it.  Syncing is nothing a watcher reports. -/
def writeEvents (t : Tree) (path content : String) (faults : WriteFaults := {}) :
    List FileEvent :=
  match t.tempFailure? path with
  | some _ => []
  | none =>
    let temp := t.tempParts path
    let created : FileEvent := ⟨.create, [temp]⟩
    let removed : FileEvent := ⟨.remove, [temp]⟩
    let written : List FileEvent := if content.isEmpty then [] else [⟨.modify, [temp]⟩]
    match faults.write, faults.sync, faults.chmod with
    | some _, _, _ => [created, removed]
    | none, some _, _ | none, none, some _ => created :: written ++ [removed]
    | none, none, none =>
      match (t.put temp (.file content 0o644)).renameFailure? path with
      | some _ => created :: written ++ [⟨.modify, [temp]⟩, removed]
      | none => created :: written ++ [⟨.modify, [temp]⟩, ⟨.modify, [temp, components path]⟩]

/-- Writes a file by way of a temporary file beside it, renamed over the target: the target
holds the old text or the whole new text, with mode 644.  A failed write leaves the files as
they were; the failure names the temporary file when it could not be made or written. -/
def replace (t : Tree) (path content : String) (faults : WriteFaults := {}) :
    Except IoFailure Tree :=
  match t.writeThrough path content faults with
  | (written, none) => .ok written
  | (_, some e) => .error e

/-- The regular files directly in the working directory, by name. -/
def topFiles (t : Tree) : List (String × String) :=
  t.entries.filterMap (fun e =>
    match e with
    | ([name], .file content _) => if name == "/" then none else some (name, content)
    | _ => none)

end Tree

end BalancerSync.Files
