import BalancerSync.Config.Settings
import BalancerSync.Reload.Signal
import BalancerSync.Net.IpAddr
import BalancerSync.Text.CaseMap

/-!
# Checking settings

Settings that decode may still make no sense: an empty path, naming templates that do not
compile, a zero quiet window, an unknown signal, log level or address.  Every problem is
collected, in the order of the sections, so that one run reports them all.

The signal is checked only when a pidfile is set, since no signal is sent otherwise.  The
metrics address is checked only when metrics are enabled.
-/

namespace BalancerSync.Config

/-- A problem with one field: the field's dotted name and what is wrong with it. -/
structure Problem where
  field : String
  message : String
deriving Repr, Inhabited, DecidableEq

/-- `<field>: <message>`. -/
def Problem.text (p : Problem) : String := p.field ++ ": " ++ p.message

/-- The debug view of a problem. -/
def Problem.debug (p : Problem) : String :=
  "ValidationError \x7b field: " ++ Text.quoted p.field ++ ", message: " ++ Text.quoted p.message ++
    " \x7d"

/-- The log levels, lowercase. -/
def logLevels : List String := ["trace", "debug", "info", "warn", "error"]

/-- A problem when `bad` holds. -/
def problemIf (bad : Bool) (field message : String) : List Problem :=
  if bad then [⟨field, message⟩] else []

/-- The problem of naming templates that do not compile. -/
def namingProblem (templates : String) : List Problem :=
  match Naming.NameTemplates.parse templates with
  | .error e => [⟨"renderer.server_name_templates", e.message⟩]
  | .ok _ => []

/-- Every problem of the settings, in order. -/
def Settings.problems (s : Settings) : List Problem :=
  problemIf (Text.trim s.renderer.templatePath).isEmpty "renderer.template_path"
      "must not be empty" ++
    problemIf (Text.trim s.renderer.outputPath).isEmpty "renderer.output_path"
      "must not be empty" ++
    namingProblem s.renderer.serverNameTemplates ++
    problemIf (s.coordinator.quiescenceMs == 0) "coordinator.quiescence_ms"
      "must be greater than 0" ++
    problemIf (s.snapshot.path.any fun p => (Text.trim p).isEmpty) "snapshot.path"
      "must not be empty when set" ++
    problemIf (s.reload.pidfile.isSome && (Reload.Signal.parse? s.reload.signal).isNone)
      "reload.signal" ("unknown signal `" ++ s.reload.signal ++ "`") ++
    problemIf (!logLevels.contains (Text.toLower s.observability.logLevel))
      "observability.log_level" ("unknown level `" ++ s.observability.logLevel ++ "`") ++
    problemIf (s.observability.metricsEnabled && !Net.isSocketAddr s.observability.metricsAddress)
      "observability.metrics_address" ("invalid address `" ++ s.observability.metricsAddress ++ "`")

/-- The settings, or every problem they have. -/
def Settings.validate (s : Settings) : Except (List Problem) Settings :=
  match s.problems with
  | [] => .ok s
  | ps => .error ps

end BalancerSync.Config
