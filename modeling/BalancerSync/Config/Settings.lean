import BalancerSync.Schema.Shape
import BalancerSync.Naming.Templates

/-!
# Settings

The settings of the program, in five sections: where the template and the rendered
configuration live and how servers are named, how long the coordinator waits for quiet, where
the snapshot comes from, how the load balancer is told to reload, and how the program
reports on itself.

Every section and every field may be left out of a settings document; what is left out takes
its default.
-/

namespace BalancerSync.Config

open BalancerSync.Schema

/-- Where the template and the rendered configuration live, and how servers are named. -/
structure RendererSettings where
  templatePath : String := "/etc/lb-reloader/haproxy.cfg.hbs"
  outputPath : String := "/etc/haproxy/haproxy.cfg"
  /-- A comma-separated list of naming templates. -/
  serverNameTemplates : String := Naming.defaultTemplate
deriving Repr, Inhabited

/-- How long the coordinator waits for quiet, in milliseconds. -/
structure CoordinatorSettings where
  quiescenceMs : Nat := 1000
deriving Repr, Inhabited

/-- The snapshot file, watched for changes, if any. -/
structure SnapshotSettings where
  path : Option String := none
deriving Repr, Inhabited

/-- How the load balancer is told to reload: the pidfile naming its process (none: it is
not told) and the signal it gets. -/
structure ReloadSettings where
  pidfile : Option String := none
  signal : String := "SIGHUP"
deriving Repr, Inhabited

/-- How the program reports on itself: log level and format, and the metrics endpoint. -/
structure ObservabilitySettings where
  logLevel : String := "info"
  jsonLogs : Bool := false
  metricsEnabled : Bool := false
  metricsAddress : String := "0.0.0.0:9090"
deriving Repr, Inhabited

/-- All settings. -/
structure Settings where
  renderer : RendererSettings := {}
  coordinator : CoordinatorSettings := {}
  snapshot : SnapshotSettings := {}
  reload : ReloadSettings := {}
  observability : ObservabilitySettings := {}
deriving Repr, Inhabited

/-- Text or null. -/
def optionalText : Option String → Json
  | some s => .string s
  | none => .null

namespace RendererSettings

/-- The section as data, keys sorted. -/
def toJson (r : RendererSettings) : Json :=
  Json.mkObject [("template_path", .string r.templatePath), ("output_path", .string r.outputPath),
    ("server_name_templates", .string r.serverNameTemplates)]

/-- What a settings document may hold in this section. -/
def shape : Shape :=
  let d : RendererSettings := {}
  .record "RendererConfig"
    [("template_path", .text, some (.string d.templatePath)),
     ("output_path", .text, some (.string d.outputPath)),
     ("server_name_templates", .text, some (.string d.serverNameTemplates))]

end RendererSettings

namespace CoordinatorSettings

/-- The section as data. -/
def toJson (c : CoordinatorSettings) : Json :=
  Json.mkObject [("quiescence_ms", .number (.natural c.quiescenceMs))]

/-- What a settings document may hold in this section. -/
def shape : Shape :=
  .record "CoordinatorConfig" [("quiescence_ms", .integer .u64, some (.number (.natural 1000)))]

end CoordinatorSettings

namespace SnapshotSettings

/-- The section as data. -/
def toJson (s : SnapshotSettings) : Json := Json.mkObject [("path", optionalText s.path)]

/-- What a settings document may hold in this section. -/
def shape : Shape := .record "SnapshotConfig" [("path", .optional .text, some .null)]

end SnapshotSettings

namespace ReloadSettings

/-- The section as data. -/
def toJson (r : ReloadSettings) : Json :=
  Json.mkObject [("pidfile", optionalText r.pidfile), ("signal", .string r.signal)]

/-- What a settings document may hold in this section. -/
def shape : Shape :=
  .record "ReloadConfig"
    [("pidfile", .optional .text, some .null), ("signal", .text, some (.string "SIGHUP"))]

end ReloadSettings

namespace ObservabilitySettings

/-- The section as data. -/
def toJson (o : ObservabilitySettings) : Json :=
  Json.mkObject [("log_level", .string o.logLevel), ("json_logs", .bool o.jsonLogs),
    ("metrics_enabled", .bool o.metricsEnabled), ("metrics_address", .string o.metricsAddress)]

/-- What a settings document may hold in this section. -/
def shape : Shape :=
  let d : ObservabilitySettings := {}
  .record "ObservabilityConfig"
    [("log_level", .text, some (.string d.logLevel)),
     ("json_logs", .flag, some (.bool d.jsonLogs)),
     ("metrics_enabled", .flag, some (.bool d.metricsEnabled)),
     ("metrics_address", .text, some (.string d.metricsAddress))]

end ObservabilitySettings

namespace Settings

/-- All settings as data. -/
def toJson (s : Settings) : Json :=
  Json.mkObject [("renderer", s.renderer.toJson), ("coordinator", s.coordinator.toJson),
    ("snapshot", s.snapshot.toJson), ("reload", s.reload.toJson),
    ("observability", s.observability.toJson)]

/-- What a settings document may hold: the five sections, each defaulting as a whole. -/
def shape : Shape :=
  let d : Settings := {}
  .record "AppConfig"
    [("renderer", RendererSettings.shape, some d.renderer.toJson),
     ("coordinator", CoordinatorSettings.shape, some d.coordinator.toJson),
     ("snapshot", SnapshotSettings.shape, some d.snapshot.toJson),
     ("reload", ReloadSettings.shape, some d.reload.toJson),
     ("observability", ObservabilitySettings.shape, some d.observability.toJson)]

/-- A text field of decoded data. -/
def textAt (v : Json) (key : String) : String := ((v.get? key).bind Json.str?).getD ""

/-- An optional text field of decoded data. -/
def optionalAt (v : Json) (key : String) : Option String := (v.get? key).bind Json.str?

/-- A flag field of decoded data. -/
def flagAt (v : Json) (key : String) : Bool :=
  match v.get? key with
  | some (.bool b) => b
  | _ => false

/-- A section of decoded data. -/
def sectionAt (v : Json) (key : String) : Json := (v.get? key).getD .null

/-- Settings from data decoded by `shape`, where every field is present. -/
def ofDecoded (v : Json) : Settings :=
  let r := sectionAt v "renderer"
  let c := sectionAt v "coordinator"
  let s := sectionAt v "snapshot"
  let l := sectionAt v "reload"
  let o := sectionAt v "observability"
  { renderer := { templatePath := textAt r "template_path", outputPath := textAt r "output_path",
                  serverNameTemplates := textAt r "server_name_templates" },
    coordinator := { quiescenceMs := match c.get? "quiescence_ms" with
                       | some (.number (.natural n)) => n
                       | _ => 0 },
    snapshot := { path := optionalAt s "path" },
    reload := { pidfile := optionalAt l "pidfile", signal := textAt l "signal" },
    observability := { logLevel := textAt o "log_level", jsonLogs := flagAt o "json_logs",
                       metricsEnabled := flagAt o "metrics_enabled",
                       metricsAddress := textAt o "metrics_address" } }

end Settings

end BalancerSync.Config
