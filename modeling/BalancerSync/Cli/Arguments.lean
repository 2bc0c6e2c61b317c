/-!
# Command-line arguments

The program takes a subcommand, `run` or `render`, and options that may stand before or
after it; an option given after the subcommand wins over the same option given before.  Each
option takes one value, written as the next argument, after `=`, or (for `-c`) joined to the
flag.  `-h` or `--help` prints the help of the command it follows; `help` prints the help of
the commands named after it.

A malformed command line is refused with a message naming the first problem found while
reading it left to right: an unknown flag (with a similar known one suggested when there is
one), an unknown subcommand, an option with no value, a value that is not a number, an option
given twice.  Without a subcommand the help is printed as the error.

An option's value is checked only when the next flag, the subcommand's own arguments, or the
end of the command line is reached; an unknown flag or a stray argument is reported first.
After `--` every argument is a plain one, which no scope takes.  The usage line of an error
about an unknown long flag names the options already taken, and the similar one suggested,
in place of [OPTIONS].
-/

namespace BalancerSync.Cli

/-- A subcommand. -/
inductive Command where
  | run
  | render
deriving DecidableEq, Repr, Inhabited

/-- The name of a subcommand. -/
def Command.name : Command → String
  | .run => "run"
  | .render => "render"

/-- What a subcommand does, as its help says. -/
def Command.about : Command → String
  | .run => "Watch for changes, render and reload continuously"
  | .render => "Render the snapshot once and exit"

/-- An option: its long name, its short letter if any, the name of its value, and what it
does. -/
structure OptionSpec where
  long : String
  short : Option Char
  value : String
  about : String
deriving Repr, Inhabited

/-- The options, in the order the help lists them. -/
def optionSpecs : List OptionSpec :=
  [⟨"config", some 'c', "CONFIG", "TOML configuration file"⟩,
   ⟨"template", none, "TEMPLATE", "Configuration template"⟩,
   ⟨"output", none, "OUTPUT", "Rendered configuration path"⟩,
   ⟨"server-name-templates", none, "SERVER_NAME_TEMPLATES",
     "Comma-separated list of server name templates"⟩,
   ⟨"snapshot", none, "SNAPSHOT", "JSON cluster snapshot"⟩,
   ⟨"pidfile", none, "PIDFILE", "Pidfile of the load balancer to notify after each render"⟩,
   ⟨"quiescence-ms", none, "QUIESCENCE_MS", "Quiet time before a pending update runs, in milliseconds"⟩,
   ⟨"log-level", none, "LOG_LEVEL", "Log level (trace, debug, info, warn, error)"⟩]

/-- An option as messages name it: `--long <VALUE>`. -/
def OptionSpec.display (o : OptionSpec) : String := "--" ++ o.long ++ " <" ++ o.value ++ ">"

/-- The option of a long name. -/
def findLong (name : String) : Option OptionSpec := optionSpecs.find? (·.long == name)

/-- The option of a short letter. -/
def findShort (c : Char) : Option OptionSpec := optionSpecs.find? (·.short == some c)

/-- The program's name. -/
def programName : String := "lb-reloader"

/-- What the program does, as its help says. -/
def programAbout : String := "Render load balancer configuration from cluster topology"

/-- The subcommand names, `help` included. -/
def commandNames : List String := ["run", "render", "help"]

/-- The options part of a help text. -/
def optionsHelp : String :=
  "Options:\n" ++
    String.join (optionSpecs.map fun o =>
      (match o.short with
       | some c => "  -" ++ c.toString ++ ", "
       | none => "      ") ++ o.display ++ "\n          " ++ o.about ++ "\n") ++
    "  -h, --help\n          Print help\n"

/-- Where the arguments are read: the program itself, or a subcommand. -/
inductive Scope where
  | root
  | command (c : Command)
deriving DecidableEq, Repr, Inhabited

/-- The usage line of a scope, in full. -/
def Scope.usage : Scope → String
  | .root => "Usage: " ++ programName ++ " [OPTIONS] <COMMAND>"
  | .command c => "Usage: " ++ programName ++ " " ++ c.name ++ " [OPTIONS]"

/-- The usage line of a scope naming the options already given, as messages name them, in
place of [OPTIONS]; with none given it is the full usage line. -/
def Scope.usageWith (scope : Scope) (used : List String) : String :=
  if used.isEmpty then scope.usage
  else
    let shown := String.join (used.map (" " ++ ·))
    match scope with
    | .root => "Usage: " ++ programName ++ shown ++ " <COMMAND>"
    | .command c => "Usage: " ++ programName ++ " " ++ c.name ++ shown

/-- The help text of a scope. -/
def Scope.help : Scope → String
  | .root =>
    programAbout ++ "\n\n" ++ Scope.root.usage ++ "\n\nCommands:\n" ++
      "  run     " ++ Command.run.about ++ "\n" ++
      "  render  " ++ Command.render.about ++ "\n" ++
      "  help    Print this message or the help of the given subcommand(s)\n\n" ++ optionsHelp
  | .command c => c.about ++ "\n\n" ++ (Scope.command c).usage ++ "\n\n" ++ optionsHelp

/-- The usage line of the `help` subcommand. -/
def helpCommandUsage : String := "Usage: " ++ programName ++ " help [COMMAND]..."

/-- The help text of the `help` subcommand. -/
def helpCommandHelp : String :=
  "Print this message or the help of the given subcommand(s)\n\n" ++ helpCommandUsage ++
    "\n\nArguments:\n  [COMMAND]...  Print help for the subcommand(s)\n"

/-- The last line of every error. -/
def moreInformation : String := "\n\nFor more information, try '--help'.\n"

/-- How alike two names are, by the Jaro measure, as a fraction (numerator, denominator):
characters match when equal and close enough, each used once; the measure averages the
share of matched characters in each name and the share of matches that are in order. -/
def jaro (a b : String) : Nat × Nat :=
  let xs := a.toList
  let ys := b.toList
  let la := xs.length
  let lb := ys.length
  let window := max la lb / 2 - 1
  let (aFlags, bFlags) := (xs.zipIdx).foldl (fun (acc : List Bool × List Bool) (x, i) =>
    let (af, bf) := acc
    let low := i - window
    let high := min lb (i + window + 1)
    match ((List.range high).filter fun j => low ≤ j && ys[j]? == some x && bf[j]? == some false).head? with
    | some j => (af.set i true, bf.set j true)
    | none => (af, bf)) (List.replicate la false, List.replicate lb false)
  let matchedA := (xs.zip aFlags).filterMap fun (x, f) => if f then some x else none
  let matchedB := (ys.zip bFlags).filterMap fun (y, f) => if f then some y else none
  let m := matchedA.length
  let t := ((matchedA.zip matchedB).filter fun (x, y) => x != y).length / 2
  (m * lb * m + m * la * m + (m - t) * la * lb, 3 * la * lb * m)

/-- Two names are alike when their Jaro measure is above 0.7 (two empty names are alike). -/
def similarEnough (a b : String) : Bool :=
  if a.isEmpty || b.isEmpty then a.isEmpty && b.isEmpty
  else
    let (num, den) := jaro a b
    den != 0 && 10 * num > 7 * den

/-- The candidates alike to a name, least alike first; equally alike ones keep their order. -/
def similarNames (name : String) (candidates : List String) : List String :=
  (candidates.filter (similarEnough name)).mergeSort fun a b =>
    let (na, da) := jaro name a
    let (nb, db) := jaro name b
    na * db ≤ nb * da

/-- An unknown flag: `unexpected argument '<flag>' found`, with a similar long option
suggested when there is one, and the usage line naming the options `used`. -/
def unknownArgument (scope : Scope) (flag : String) (suggestion : Option String)
    (used : List String) : String :=
  "error: unexpected argument '" ++ flag ++ "' found\n\n" ++
    (match suggestion with
     | some s => "  tip: a similar argument exists: '" ++ s ++ "'\n\n"
     | none => "") ++
    scope.usageWith used ++ moreInformation

/-- An argument where a subcommand was expected, with the usage line of where it stands. -/
def unrecognizedCommand (usage : String) (name : String) (suggestions : List String) : String :=
  "error: unrecognized subcommand '" ++ name ++ "'\n\n" ++
    (match suggestions with
     | [] => ""
     | [s] => "  tip: a similar subcommand exists: '" ++ s ++ "'\n\n"
     | ss => "  tip: some similar subcommands exist: " ++
        ", ".intercalate (ss.map fun s => "'" ++ s ++ "'") ++ "\n\n") ++
    usage ++ moreInformation

/-- A subcommand's name after `--`, where only plain arguments may stand. -/
def commandAfterDashes (name : String) : String :=
  "error: unexpected argument '" ++ name ++ "' found\n\n  tip: subcommand '" ++ name ++
    "' exists; to use it, remove the '--' before it\n\n" ++ Scope.root.usage ++ moreInformation

/-- A value joined to a flag that takes none. -/
def unexpectedValue (flag value usage : String) : String :=
  "error: unexpected value '" ++ value ++ "' for '" ++ flag ++ "' found; no more were expected\n\n" ++
    usage ++ moreInformation

/-- An option with no value. -/
def emptyValue (o : OptionSpec) : String :=
  "error: a value is required for '" ++ o.display ++ "' but none was supplied" ++ moreInformation

/-- An option given twice. -/
def givenTwice (scope : Scope) (o : OptionSpec) : String :=
  "error: the argument '" ++ o.display ++ "' cannot be used multiple times\n\n" ++ scope.usage ++
    moreInformation

/-- A value the option cannot take. -/
def invalidValue (o : OptionSpec) (value reason : String) : String :=
  "error: invalid value '" ++ value ++ "' for '" ++ o.display ++ "': " ++ reason ++ moreInformation

/-- No subcommand although options were given. -/
def missingCommand : String :=
  "error: '" ++ programName ++ "' requires a subcommand but one was not provided\n" ++
    "  [subcommands: " ++ ", ".intercalate commandNames ++ "]\n\n" ++ Scope.root.usage ++
    moreInformation

/-- Reads an unsigned 64-bit number: an optional `+` and decimal digits; the reason when it is
not one. -/
def readCount (text : String) : Except String Nat :=
  let digits := match text.toList with
    | '+' :: rest => rest
    | cs => cs
  if text.isEmpty then .error "cannot parse integer from empty string"
  else if digits.isEmpty || !digits.all Char.isDigit then .error "invalid digit found in string"
  else
    let n := digits.foldl (fun acc c => acc * 10 + (c.toNat - 48)) 0
    if n < Nat.pow 2 64 then .ok n else .error "number too large to fit in target type"

/-- The options given on a command line, by long name, each checked. -/
structure Given where
  values : List (String × String) := []
deriving Repr, Inhabited

/-- The value given for an option. -/
def Given.get? (g : Given) (long : String) : Option String := g.values.lookup long

/-- The options given, each as messages name it, in the order they were taken. -/
def Given.displays (g : Given) : List String :=
  g.values.filterMap fun (k, _) => (findLong k).map (·.display)

/-- Later options win over earlier ones. -/
def Given.merge (earlier later : Given) : Given :=
  ⟨later.values ++ earlier.values.filter fun (k, _) => (later.values.lookup k).isNone⟩

/-- What a command line asks for. -/
inductive Invocation where
  /-- Run a subcommand with the options given. -/
  | invoke (command : Command) (given : Given)
  /-- Print a help text and succeed. -/
  | help (text : String)
  /-- Print a message and fail: with the help when nothing was given, else an error. -/
  | refuse (text : String)
deriving Repr, Inhabited

/-- An option waiting for its value, or holding one not yet checked. -/
abbrev Waiting := Option (OptionSpec × Option String)

/-- Check the waiting option, if any, and add it to the options given. -/
def settle (scope : Scope) (given : Given) : Waiting → Except String Given
  | none => .ok given
  | some (o, none) => .error (emptyValue o)
  | some (o, some v) =>
    if (given.get? o.long).isSome then .error (givenTwice scope o)
    else if o.long == "config" && v.isEmpty then .error (emptyValue o)
    else if o.long == "quiescence-ms" then
      match readCount v with
      | .ok _ => .ok ⟨given.values ++ [(o.long, v)]⟩
      | .error reason => .error (invalidValue o v reason)
    else .ok ⟨given.values ++ [(o.long, v)]⟩

/-- The options an error met at this point counts as given: the waiting option is taken
whatever its value, except that one with no value is left out and one given before is
dropped together with its first value. -/
def settleAnyway (given : Given) : Waiting → Given
  | none => given
  | some (_, none) => given
  | some (o, some v) =>
    if (given.get? o.long).isSome then ⟨given.values.filter (·.1 != o.long)⟩
    else ⟨given.values ++ [(o.long, v)]⟩

/-- What reading the arguments of one scope gave: the options, the option still waiting,
and at the top the subcommand with the arguments after it. -/
inductive ScopeResult where
  | done (given : Given) (waiting : Waiting) (next : Option (Command × List String))
  | stop (outcome : Invocation)

/-- The help of the commands named after `help`. -/
def helpFor : List String → Invocation
  | [] => .help Scope.root.help
  | "run" :: [] => .help (Scope.command .run).help
  | "render" :: [] => .help (Scope.command .render).help
  | "help" :: [] => .help helpCommandHelp
  | "run" :: extra :: _ => .refuse (unrecognizedCommand (Scope.command .run).usage extra [])
  | "render" :: extra :: _ => .refuse (unrecognizedCommand (Scope.command .render).usage extra [])
  | "help" :: extra :: _ =>
    -- the `help` subcommand has no help flag of its own, so nothing points to one
    .refuse ("error: unrecognized subcommand '" ++ extra ++ "'\n\n" ++ helpCommandUsage ++ "\n")
  | other :: _ => .refuse (unrecognizedCommand Scope.root.usage other [])

/-- Split `--name=value` into the name and the value. -/
def splitLong (body : String) : String × Option String :=
  match body.splitOn "=" with
  | [name] => (name, none)
  | name :: rest => (name, some ("=".intercalate rest))
  | [] => (body, none)

/-- The subcommand an argument names, `help` aside. -/
def commandOf? : String → Option Command
  | "run" => some .run
  | "render" => some .render
  | _ => none

/-- Read the arguments of one scope, left to right, up to the subcommand at the top. -/
def readScope (scope : Scope) : Given → Waiting → List String → ScopeResult
  | given, waiting, [] => .done given waiting none
  | given, waiting, arg :: rest =>
    let known (o : Option OptionSpec) (attached : Option String) : ScopeResult :=
      match settle scope given waiting with
      | .error e => .stop (.refuse e)
      | .ok given =>
        match o, attached with
        | none, _ => .stop (.help scope.help)
        | some o, some v =>
          match settle scope given (some (o, some v)) with
          | .ok given => readScope scope given none rest
          | .error e => .stop (.refuse e)
        | some o, none => readScope scope given (some (o, none)) rest
    if scope = .root && arg == "help" then .stop (helpFor rest)
    else if scope = .root && (commandOf? arg).isSome then
      .done given waiting ((commandOf? arg).map fun c => (c, rest))
    else if arg == "--" then
      match settle scope given waiting with
      | .error e => .stop (.refuse e)
      | .ok given =>
        match rest, scope with
        | [], _ => .done given none none
        | first :: _, .root =>
          if first == "help" || (commandOf? first).isSome then .stop (.refuse (commandAfterDashes first))
          else .stop (.refuse (unrecognizedCommand Scope.root.usage first
            (similarNames first commandNames)))
        | first :: _, .command _ => .stop (.refuse (unknownArgument scope first none []))
    else if arg.startsWith "--" then
      let (name, attached) := splitLong (arg.drop 2).toString
      if name == "help" then
        match attached with
        | none => known none none
        | some v =>
          .stop (.refuse (unexpectedValue "--help" v (scope.usageWith (given.displays ++ ["--help"]))))
      else match findLong name with
        | some o => known (some o) attached
        | none =>
          let names := optionSpecs.map (·.long) ++ ["help"]
          let suggestion := (similarNames name names).getLast?
          let taken := settleAnyway given waiting
          let suggested := match suggestion with
            | some s => if (taken.get? s).isSome then [] else
                [((findLong s).map (·.display)).getD ("--" ++ s)]
            | none => []
          .stop (.refuse (unknownArgument scope ("--" ++ name) (suggestion.map ("--" ++ ·))
            (taken.displays ++ suggested)))
    else if arg.startsWith "-" && arg.length > 1 then
      match (arg.drop 1).toString.toList with
      | 'h' :: _ => known none none
      | c :: more =>
        match findShort c with
        | some o =>
          let attached := match more with
            | '=' :: v => some (String.ofList v)
            | [] => none
            | v => some (String.ofList v)
          known (some o) attached
        | none => .stop (.refuse (unknownArgument scope ("-" ++ c.toString) none []))
      | [] => .stop (.refuse (unknownArgument scope arg none []))
    else
      match waiting with
      | some (o, none) => readScope scope given (some (o, some arg)) rest
      | _ =>
        match scope with
        | .root => .stop (.refuse (unrecognizedCommand Scope.root.usage arg
            (similarNames arg commandNames)))
        | .command _ => .stop (.refuse (unknownArgument scope arg none []))

/-- Read a whole command line.  The subcommand's own arguments are read before an option
waiting at the top is checked. -/
def readArguments (args : List String) : Invocation :=
  if args.isEmpty then .refuse Scope.root.help
  else
    match readScope .root {} none args with
    | .stop outcome => outcome
    | .done given waiting none =>
      match settle .root given waiting with
      | .error e => .refuse e
      | .ok given => if given.values.isEmpty then .refuse Scope.root.help else .refuse missingCommand
    | .done given waiting (some (command, rest)) =>
      match readScope (.command command) {} none rest with
      | .stop outcome => outcome
      | .done later laterWaiting _ =>
        match settle (.command command) later laterWaiting with
        | .error e => .refuse e
        | .ok later =>
          match settle .root given waiting with
          | .error e => .refuse e
          | .ok given => .invoke command (given.merge later)

end BalancerSync.Cli
