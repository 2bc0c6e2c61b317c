import Mathlib
import BalancerSync.Config.Validate
import BalancerSync.Cli.Program
import BalancerSync.Proofs.Schema.NormalForm
import BalancerSync.Proofs.Naming.TemplateList

/-!
# Checking settings

Settings are checked field by field, eight checks in a fixed order (`Check.all`), each with the
condition it asks (`Check.Holds`) and the dotted name of the field it reports. Each check finds
nothing when its condition holds and one problem naming its field otherwise
(`Check.fields_problems`), and the settings' problems are those of the checks in order
(`Settings.problems_eq_flatMap`). So checking accepts exactly the settings every condition holds
for, and otherwise reports the fields of the failing checks, each once and in order.

Settings the program goes on with were checked, so the template file and the notifier can be
built from them and an enabled metrics address reads as a socket address
(`validate_exact_and_enough_to_start`).
-/

namespace BalancerSync.Config

/-! ## The checks -/

/-- The checks made on settings. -/
inductive Check where
  | templatePath | outputPath | serverNameTemplates | quiescence | snapshotPath | signal
  | logLevel | metricsAddress
  deriving DecidableEq, Repr

namespace Check

/-- Every check, in the order they are made. -/
def all : List Check :=
  [.templatePath, .outputPath, .serverNameTemplates, .quiescence, .snapshotPath, .signal,
    .logLevel, .metricsAddress]

/-- The dotted name of the field a check reports. -/
def field : Check → String
  | .templatePath => "renderer.template_path"
  | .outputPath => "renderer.output_path"
  | .serverNameTemplates => "renderer.server_name_templates"
  | .quiescence => "coordinator.quiescence_ms"
  | .snapshotPath => "snapshot.path"
  | .signal => "reload.signal"
  | .logLevel => "observability.log_level"
  | .metricsAddress => "observability.metrics_address"

/-- The condition a check asks of the settings: paths that are not blank, naming templates that
parse, a positive quiet window, a signal name that is known when a pidfile is set, a known log
level in any case, and a socket address when metrics are enabled. -/
def Holds (s : Settings) : Check → Prop
  | .templatePath => Text.trim s.renderer.templatePath ≠ ""
  | .outputPath => Text.trim s.renderer.outputPath ≠ ""
  | .serverNameTemplates =>
    ∃ names, Naming.NameTemplates.parse s.renderer.serverNameTemplates = .ok names
  | .quiescence => 0 < s.coordinator.quiescenceMs
  | .snapshotPath => ∀ path ∈ s.snapshot.path, Text.trim path ≠ ""
  | .signal => s.reload.pidfile = none ∨ ∃ signal, Reload.Signal.parse? s.reload.signal = some signal
  | .logLevel => Text.toLower s.observability.logLevel ∈ ["trace", "debug", "info", "warn", "error"]
  | .metricsAddress =>
    s.observability.metricsEnabled = true → Net.isSocketAddr s.observability.metricsAddress = true

instance decidableHolds (s : Settings) : DecidablePred (Holds s)
  | .templatePath => inferInstanceAs (Decidable (Text.trim s.renderer.templatePath ≠ ""))
  | .outputPath => inferInstanceAs (Decidable (Text.trim s.renderer.outputPath ≠ ""))
  | .serverNameTemplates =>
    decidable_of_iff ((Naming.NameTemplates.parse s.renderer.serverNameTemplates).toOption.isSome)
      (by cases parsed : Naming.NameTemplates.parse s.renderer.serverNameTemplates <;>
        simp [Holds, Except.toOption, parsed])
  | .quiescence => inferInstanceAs (Decidable (0 < s.coordinator.quiescenceMs))
  | .snapshotPath =>
    decidable_of_iff (s.snapshot.path.all fun path => Text.trim path != "")
      (by cases path : s.snapshot.path <;> simp [Holds, path])
  | .signal =>
    decidable_of_iff (s.reload.pidfile.isNone || (Reload.Signal.parse? s.reload.signal).isSome)
      (by simp [Holds, Option.isSome_iff_exists])
  | .logLevel => inferInstanceAs (Decidable (Text.toLower s.observability.logLevel ∈ _))
  | .metricsAddress => inferInstanceAs (Decidable (_ → _))

/-- The problems one check finds. -/
def problems (s : Settings) : Check → List Problem
  | .templatePath => problemIf (Text.trim s.renderer.templatePath).isEmpty "renderer.template_path"
      "must not be empty"
  | .outputPath => problemIf (Text.trim s.renderer.outputPath).isEmpty "renderer.output_path"
      "must not be empty"
  | .serverNameTemplates => namingProblem s.renderer.serverNameTemplates
  | .quiescence => problemIf (s.coordinator.quiescenceMs == 0) "coordinator.quiescence_ms"
      "must be greater than 0"
  | .snapshotPath => problemIf (s.snapshot.path.any fun p => (Text.trim p).isEmpty) "snapshot.path"
      "must not be empty when set"
  | .signal => problemIf (s.reload.pidfile.isSome && (Reload.Signal.parse? s.reload.signal).isNone)
      "reload.signal" ("unknown signal `" ++ s.reload.signal ++ "`")
  | .logLevel => problemIf (!logLevels.contains (Text.toLower s.observability.logLevel))
      "observability.log_level" ("unknown level `" ++ s.observability.logLevel ++ "`")
  | .metricsAddress =>
    problemIf (s.observability.metricsEnabled && !Net.isSocketAddr s.observability.metricsAddress)
      "observability.metrics_address"
      ("invalid address `" ++ s.observability.metricsAddress ++ "`")

theorem mem_all (c : Check) : c ∈ all := by
  cases c <;> simp [all]

end Check

/-! ## Each check on its own -/

section OneCheck

variable {s : Settings}

theorem Check.fields_problemIf {c : Check} {bad : Bool} {message : String}
    (fails : bad = true ↔ ¬ c.Holds s) :
    (problemIf bad c.field message).map Problem.field = if c.Holds s then [] else [c.field] := by
  by_cases holds : c.Holds s
  · have good : bad = false := by simpa [holds] using fails
    simp [problemIf, good, holds]
  · have wrong : bad = true := fails.mpr holds
    simp [problemIf, wrong, holds]

theorem Check.fields_problems (c : Check) :
    (c.problems s).map Problem.field = if c.Holds s then [] else [c.field] := by
  cases c with
  | templatePath => exact Check.fields_problemIf (c := .templatePath) (by simp [Check.Holds])
  | outputPath => exact Check.fields_problemIf (c := .outputPath) (by simp [Check.Holds])
  | serverNameTemplates =>
    show (namingProblem s.renderer.serverNameTemplates).map Problem.field = _
    unfold namingProblem
    cases parsed : Naming.NameTemplates.parse s.renderer.serverNameTemplates with
    | error e =>
      have fails : ¬ Check.serverNameTemplates.Holds s := by simp [Check.Holds, parsed]
      simp only [if_neg fails]
      rfl
    | ok names =>
      have holds : Check.serverNameTemplates.Holds s := ⟨names, parsed⟩
      simp only [if_pos holds]
      rfl
  | quiescence => exact Check.fields_problemIf (c := .quiescence) (by simp [Check.Holds])
  | snapshotPath =>
    exact Check.fields_problemIf (c := .snapshotPath) (by
      cases path : s.snapshot.path <;> simp [Check.Holds, path])
  | signal =>
    exact Check.fields_problemIf (c := .signal) (by
      cases pidfile : s.reload.pidfile <;> cases signal : Reload.Signal.parse? s.reload.signal <;>
        simp [Check.Holds, pidfile, signal])
  | logLevel => exact Check.fields_problemIf (c := .logLevel) (by simp [Check.Holds, logLevels])
  | metricsAddress => exact Check.fields_problemIf (c := .metricsAddress) (by simp [Check.Holds])

theorem Settings.problems_eq_flatMap : s.problems = Check.all.flatMap (Check.problems s) := by
  simp [Settings.problems, Check.all, Check.problems, List.append_assoc]

end OneCheck

/-! ## All checks -/

section AllChecks

variable {s : Settings}

theorem fields_flatMap_problems (checks : List Check) :
    (checks.flatMap (Check.problems s)).map Problem.field =
      (checks.filter fun c => ¬ c.Holds s).map Check.field := by
  induction checks with
  | nil => rfl
  | cons c rest ih =>
    rw [List.flatMap_cons, List.map_append, Check.fields_problems, ih, List.filter_cons]
    by_cases holds : c.Holds s <;> simp [holds]

theorem Settings.fields_problems :
    s.problems.map Problem.field = (Check.all.filter fun c => ¬ c.Holds s).map Check.field := by
  rw [Settings.problems_eq_flatMap, fields_flatMap_problems]

theorem Settings.problems_eq_nil_iff : s.problems = [] ↔ ∀ c : Check, c.Holds s := by
  rw [← List.map_eq_nil_iff (f := Problem.field), Settings.fields_problems, List.map_eq_nil_iff,
    List.filter_eq_nil_iff]
  simp [Check.mem_all]

theorem Settings.validate_eq_ok_iff {checked : Settings} :
    s.validate = .ok checked ↔ checked = s ∧ s.problems = [] := by
  cases found : s.problems with
  | nil => simp [Settings.validate, found, eq_comm]
  | cons first others => simp [Settings.validate, found]

theorem Settings.validate_eq_error_iff {problems : List Problem} :
    s.validate = .error problems ↔ problems = s.problems ∧ s.problems ≠ [] := by
  cases found : s.problems with
  | nil => simp [Settings.validate, found]
  | cons first others => simp [Settings.validate, found, eq_comm]

end AllChecks

/-! ## Starting from checked settings -/

section Startup

variable {s : Settings}

theorem validate_of_settingsFor {given : Cli.Given} {files : Files.Tree}
    (passed : Cli.settingsFor given files = .ok s) : s.validate = .ok s := by
  unfold Cli.settingsFor at passed
  dsimp only at passed
  obtain ⟨base, checkedText⟩ : ∃ base, ((given.apply base).validate.mapError
      fun ps => (ConfigError.validation ps).debug) = .ok s := by
    split at passed
    all_goals
      obtain ⟨base, -, checked⟩ := Schema.except_bind_eq_ok.mp passed
      exact ⟨base, checked⟩
  cases checked : (given.apply base).validate with
  | error problems => simp [checked, Except.mapError] at checkedText
  | ok settings =>
    simp only [checked, Except.mapError, Except.ok.injEq] at checkedText
    subst checkedText
    obtain ⟨rfl, -⟩ := Settings.validate_eq_ok_iff.mp checked
    exact checked

theorem buildTemplate_of_holds (parses : Check.serverNameTemplates.Holds s) :
    ∃ t, Lifecycle.buildTemplate s = .ok t := by
  obtain ⟨names, parsed⟩ := parses
  exact ⟨⟨s.renderer.templatePath, s.renderer.outputPath, names⟩,
    by simp [Lifecycle.buildTemplate, parsed, bind, Except.bind]⟩

theorem buildNotifier_of_holds (known : Check.signal.Holds s) :
    ∃ n, Lifecycle.buildNotifier s.reload = .ok n := by
  unfold Lifecycle.buildNotifier Reload.Notifier.build
  rcases known with noPidfile | ⟨signal, parsed⟩
  · exact ⟨.silent, by rw [noPidfile]⟩
  · cases pidfile : s.reload.pidfile with
    | none => exact ⟨.silent, rfl⟩
    | some path => exact ⟨.pidfile path signal, by rw [parsed]⟩

end Startup

/-- Checking settings is exact, and enough to start. Settings pass exactly when every check's
condition holds; otherwise the problems name the fields of the failing checks, each once, in the
order of the checks. The settings an invocation goes on with, read and overridden and then
checked, build the template file and the notifier, and an enabled metrics address reads as a
socket address. -/
theorem validate_exact_and_enough_to_start (s : Settings) :
    (s.validate = .ok s ↔ ∀ c : Check, c.Holds s) ∧
    (∀ problems, s.validate = .error problems →
      problems.map Problem.field = (Check.all.filter fun c => ¬ c.Holds s).map Check.field) ∧
    ∀ (given : Cli.Given) (files : Files.Tree), Cli.settingsFor given files = .ok s →
      (∃ t, Lifecycle.buildTemplate s = .ok t) ∧ (∃ n, Lifecycle.buildNotifier s.reload = .ok n) ∧
      (s.observability.metricsEnabled = true →
        Net.isSocketAddr s.observability.metricsAddress = true) := by
  have accepted : s.validate = .ok s ↔ ∀ c : Check, c.Holds s := by
    rw [Settings.validate_eq_ok_iff, ← Settings.problems_eq_nil_iff]
    simp
  refine ⟨accepted, fun problems failed => ?_, fun given files passed => ?_⟩
  · rw [(Settings.validate_eq_error_iff.mp failed).1]
    exact Settings.fields_problems
  · have holds := accepted.mp (validate_of_settingsFor passed)
    exact ⟨buildTemplate_of_holds (holds .serverNameTemplates),
      buildNotifier_of_holds (holds .signal), holds .metricsAddress⟩

/-- Settings with four problems: a blank template path, no quiet window, an unknown signal with
a pidfile, and metrics at no address. -/
def fourProblems : Settings :=
  { renderer := { templatePath := "", serverNameTemplates := "" },
    coordinator := { quiescenceMs := 0 },
    reload := { pidfile := some "/run/haproxy.pid", signal := "SIGNOPE" },
    observability := { metricsEnabled := true, metricsAddress := "not an address" } }

/-- The defaults pass every check, and settings given nothing start; the settings with four
problems report exactly their four fields, in order. -/
theorem validate_exact_and_enough_to_start_defaults_and_four_problems :
    ({} : Settings).validate = .ok {} ∧
    ((∃ t, Lifecycle.buildTemplate {} = .ok t) ∧
      (∃ n, Lifecycle.buildNotifier ({} : Settings).reload = .ok n)) ∧
    fourProblems.validate = .error fourProblems.problems ∧
    fourProblems.problems.map Problem.field =
      ["renderer.template_path", "coordinator.quiescence_ms", "reload.signal",
        "observability.metrics_address"] := by
  obtain ⟨-, c, -, readDefault⟩ := Naming.NameTemplates.parse_of_blank (x := "") (by cbv)
  have lower : Text.toLower "info" = "info" := by cbv
  have defaults : ∀ check : Check, check.Holds {} := by
    intro check
    cases check with
    | templatePath => exact fun blank => absurd blank (by cbv)
    | outputPath => exact fun blank => absurd blank (by cbv)
    | serverNameTemplates => exact ⟨_, readDefault⟩
    | logLevel => simp [Check.Holds, lower]
    | _ => simp [Check.Holds]
  obtain ⟨accepted, -, starts⟩ := validate_exact_and_enough_to_start {}
  have checked : ({} : Settings).validate = .ok {} := accepted.mpr defaults
  have passed : Cli.settingsFor ⟨[]⟩ (Files.Tree.empty "/work") = .ok {} := by
    have noConfig : Cli.Given.get? ⟨[]⟩ "config" = none := rfl
    have untouched : Cli.Given.apply ⟨[]⟩ ({} : Settings) = {} := rfl
    simp only [Cli.settingsFor, bind, Except.bind, noConfig, untouched, checked, Except.mapError]
  obtain ⟨template, notifier, -⟩ := starts _ _ passed
  refine ⟨checked, ⟨template, notifier⟩, ?_⟩
  have blank : ¬ Check.templatePath.Holds fourProblems := fun notBlank => notBlank (by cbv)
  have output : Check.outputPath.Holds fourProblems := fun blank => absurd blank (by cbv)
  have naming : Check.serverNameTemplates.Holds fourProblems :=
    ⟨_, (Naming.NameTemplates.parse_of_blank (x := "") (by cbv)).1.trans readDefault⟩
  have noWindow : ¬ Check.quiescence.Holds fourProblems := by simp [Check.Holds, fourProblems]
  have noSnapshot : Check.snapshotPath.Holds fourProblems := by simp [Check.Holds, fourProblems]
  have unknownSignal : ¬ Check.signal.Holds fourProblems := by
    have unknown : Reload.Signal.parse? "SIGNOPE" = none := by cbv
    simp [Check.Holds, fourProblems, unknown]
  have level : Check.logLevel.Holds fourProblems := by simp [Check.Holds, fourProblems, lower]
  have noAddress : ¬ Check.metricsAddress.Holds fourProblems := by
    have unread : Net.isSocketAddr "not an address" = false := by cbv
    simp [Check.Holds, fourProblems, unread]
  have failing : Check.all.filter (fun c => ¬ c.Holds fourProblems) =
      [.templatePath, .quiescence, .signal, .metricsAddress] := by
    simp [Check.all, blank, output, naming, noWindow, noSnapshot, unknownSignal,
      level, noAddress]
  have rejected : fourProblems.validate = .error fourProblems.problems :=
    Settings.validate_eq_error_iff.mpr
      ⟨rfl, fun found => blank (Settings.problems_eq_nil_iff.mp found .templatePath)⟩
  obtain ⟨-, fields, -⟩ := validate_exact_and_enough_to_start fourProblems
  exact ⟨rejected, (fields _ rejected).trans (by rw [failing]; rfl)⟩

end BalancerSync.Config
