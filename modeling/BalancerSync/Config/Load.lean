import BalancerSync.Config.Validate
import BalancerSync.Toml.Report
import BalancerSync.Files.Tree

/-!
# Loading settings

Settings are read from a TOML file, decoded with every field defaulting, and checked.  A
failure says which of the three steps failed: reading the file, reading or decoding the
document (with an excerpt of the line at fault), or the checks (with every problem).
-/

namespace BalancerSync.Config

/-- Why settings could not be loaded. -/
inductive ConfigError where
  /-- The file could not be read. -/
  | io (error : Files.IoError)
  /-- The document `raw` could not be read or decoded. -/
  | parse (error : Toml.TomlError) (raw : String)
  /-- The settings have problems. -/
  | validation (problems : List Problem)
deriving Inhabited

/-- The message of a load failure. -/
def ConfigError.message : ConfigError → String
  | .io e => "IO error: " ++ e.message
  | .parse e raw => "Parse error: " ++ e.render raw
  | .validation ps => "Validation failed: " ++ ", ".intercalate (ps.map Problem.text)

/-- The debug view of a load failure. -/
def ConfigError.debug : ConfigError → String
  | .io e => "Io(" ++ e.debug ++ ")"
  | .parse e raw => "Parse(" ++ e.debug raw ++ ")"
  | .validation ps => "Validation([" ++ ", ".intercalate (ps.map Problem.debug) ++ "])"

/-- Read settings from the text of a TOML document, unchecked. -/
def Settings.ofToml (raw : String) : Except ConfigError Settings :=
  match Toml.decodeText Settings.shape raw with
  | .ok v => .ok (Settings.ofDecoded v)
  | .error e => .error (.parse e raw)

/-- Read settings from a file, unchecked. -/
def readSettings (files : Files.Tree) (path : String) : Except ConfigError Settings :=
  match files.read path with
  | .ok raw => Settings.ofToml raw
  | .error e => .error (.io e)

/-- Read settings from a file and check them. -/
def loadSettings (files : Files.Tree) (path : String) : Except ConfigError Settings := do
  let s ← readSettings files path
  s.validate.mapError ConfigError.validation

end BalancerSync.Config
