import Mathlib
import BalancerSync.Proofs.Topology.Views
import BalancerSync.Proofs.Schema.DocumentReading

/-!
# The snapshot format

A snapshot file holds a snapshot written as a document whose objects list each type's fields in
declaration order (`Cluster.document`, the text a struct serializer gives), and the program reads
it with `Cluster.decodeDocument`. Templates see a snapshot as its view (`Cluster.toJson`), which
the helpers decode again with `Cluster.decode`. For every snapshot the program's types can hold,
both routes give the snapshot back; whatever decoding yields is such a snapshot, so decoding its
view gives it back too (`snapshot_format_round_trips`).
-/

namespace BalancerSync.Topology

open Schema

/-! ## Documents in declaration order -/

/-- The document a port is written as: its fields in declaration order. -/
def PortSpec.document (p : PortSpec) : Json :=
  .object [("IP", .string p.ip.text), ("Port", Json.int p.port), ("Mode", .string p.mode),
    ("Protocol", .string p.protocol)]

/-- The document an endpoint is written as. -/
def Endpoint.document (e : Endpoint) : Json :=
  .object [("Name", .string e.name), ("IP", .string e.ip.text), ("Port", Json.int e.port)]

/-- The document a service is written as, its port and endpoints written the same way. -/
def Service.document (s : Service) : Json :=
  .object [("Name", .string s.name), ("Namespace", .string s.namespaceName),
    ("Port", s.port.document), ("Endpoints", .array (s.endpoints.map Endpoint.document)),
    ("NodePort", Json.int s.nodePort), ("External", .array (s.external.map .string)),
    ("Timeout", Json.int s.timeout)]

/-- The document a snapshot is written as. -/
def Cluster.document (c : Cluster) : Json :=
  .object [("Services", .array (c.services.map Service.document)),
    ("Ports", .array (c.ports.map PortSpec.document)), ("Nodes", .array (c.nodes.map .string)),
    ("Domain", .string c.domain)]

/-! ## Each document is written for the view -/

theorem PortSpec.written_document {p : PortSpec} (valid : p.Valid) :
    Written PortSpec.shape p.document p.toJson := by
  refine @Written.inOrder "PortSpec" _
    [.string p.ip.text, Json.int p.port, .string p.mode, .string p.protocol]
    [.string p.ip.text, Json.int p.port, .string p.mode, .string p.protocol]
    (by decide) rfl rfl fun pair member => ?_
  simp only [List.zip_cons_cons, List.zip_nil_right, List.mem_cons, List.not_mem_nil,
    or_false] at member
  rcases member with rfl | rfl | rfl | rfl
  · exact .ipAddress valid.ip
  · exact .integer (Width.writes_ofInt valid.port)
  · exact .text _
  · exact .text _

theorem Endpoint.written_document {e : Endpoint} (valid : e.Valid) :
    Written Endpoint.shape e.document e.toJson := by
  refine @Written.inOrder "ServiceEndpoint" _
    [.string e.name, .string e.ip.text, Json.int e.port]
    [.string e.name, .string e.ip.text, Json.int e.port]
    (by decide) rfl rfl fun pair member => ?_
  simp only [List.zip_cons_cons, List.zip_nil_right, List.mem_cons, List.not_mem_nil,
    or_false] at member
  rcases member with rfl | rfl | rfl
  · exact .text _
  · exact .ipAddress valid.ip
  · exact .integer (Width.writes_ofInt valid.port)

theorem Service.written_document {s : Service} (valid : s.Valid) :
    Written Service.shape s.document s.toJson := by
  refine @Written.inOrder "ServiceInformation" _
    [.string s.name, .string s.namespaceName, s.port.document,
      .array (s.endpoints.map Endpoint.document), Json.int s.nodePort,
      .array (s.external.map .string), Json.int s.timeout]
    [.string s.name, .string s.namespaceName, s.port.toJson,
      .array (s.endpoints.map Endpoint.toJson), Json.int s.nodePort,
      .array (s.external.map .string), Json.int s.timeout]
    (by decide) rfl rfl fun pair member => ?_
  simp only [List.zip_cons_cons, List.zip_nil_right, List.mem_cons, List.not_mem_nil,
    or_false] at member
  rcases member with rfl | rfl | rfl | rfl | rfl | rfl | rfl
  · exact .text _
  · exact .text _
  · exact PortSpec.written_document valid.port
  · exact Written.list_map fun e listed => Endpoint.written_document (valid.endpoints e listed)
  · exact .integer (Width.writes_ofInt valid.nodePort)
  · exact Written.list_map fun name _ => .text name
  · exact .integer (Width.writes_ofInt valid.timeout)

theorem Cluster.written_document {c : Cluster} (valid : c.Valid) :
    Written Cluster.shape c.document c.toJson := by
  refine @Written.inOrder "ClusterInformation" _
    [.array (c.services.map Service.document), .array (c.ports.map PortSpec.document),
      .array (c.nodes.map .string), .string c.domain]
    [.array (c.services.map Service.toJson), .array (c.ports.map PortSpec.toJson),
      .array (c.nodes.map .string), .string c.domain]
    (by decide) rfl rfl fun pair member => ?_
  simp only [List.zip_cons_cons, List.zip_nil_right, List.mem_cons, List.not_mem_nil,
    or_false] at member
  rcases member with rfl | rfl | rfl | rfl
  · exact Written.list_map fun s listed => Service.written_document (valid.services s listed)
  · exact Written.list_map fun p listed => PortSpec.written_document (valid.ports p listed)
  · exact Written.list_map fun name _ => .text name
  · exact .text _

/-! ## Reading snapshots back -/

theorem Cluster.decodeDocument_document {c : Cluster} (valid : c.Valid) :
    Cluster.decodeDocument (Json.render c.document) = .ok c := by
  rw [Cluster.decodeDocument, Shape.decodeDocument_render (Cluster.written_document valid)
    Cluster.shape_wellFormed (by decide)]
  simp [Cluster.ofJson?_toJson valid]

/-- The snapshot format round-trips: a snapshot the types can hold decodes back from its view and
from its written text, and whatever decoding yields is a snapshot the types can hold, so that its
view decodes back to it. -/
theorem snapshot_format_round_trips :
    (∀ c : Cluster, c.Valid →
      Cluster.decode c.toJson = .ok c ∧ Cluster.decodeDocument (Json.render c.document) = .ok c) ∧
    (∀ (d : Json) (c : Cluster), Cluster.decode d = .ok c →
      c.Valid ∧ Cluster.decode c.toJson = .ok c) := by
  constructor
  · intro c valid
    exact ⟨Cluster.decode_toJson valid, Cluster.decodeDocument_document valid⟩
  · intro d c decoded
    have valid := Cluster.valid_of_decode decoded
    exact ⟨valid, Cluster.decode_toJson valid⟩

/-- A snapshot with an IPv4-mapped endpoint address, an IPv4-compatible listed port, an external
pattern and a negative timeout. -/
def mixedSnapshot : Cluster :=
  ⟨[⟨"web", "default", ⟨.v4 [10, 0, 0, 1], 80, "http", "tcp"⟩,
      [⟨"web-0", .v6 [0, 0, 0, 0, 0, 0xFFFF, 0x0A00, 5], 8080⟩], 30080, ["~^www\\."], -1⟩],
    [⟨.v6 [0, 0, 0, 0, 0, 0, 0x0A00, 1], 443, "tcp", "tcp"⟩], ["node-a"], "cluster.local"⟩

theorem snapshot_format_round_trips_mixed_addresses :
    mixedSnapshot.Valid ∧ Cluster.decode mixedSnapshot.toJson = .ok mixedSnapshot ∧
      Cluster.decodeDocument (Json.render mixedSnapshot.document) = .ok mixedSnapshot := by
  have valid : mixedSnapshot.Valid := by
    constructor
    · intro s member
      simp only [mixedSnapshot, List.mem_singleton] at member
      subst member
      exact ⟨⟨by decide, by decide⟩, by simp; exact ⟨by decide, by decide⟩, by decide, by decide⟩
    · intro p member
      simp only [mixedSnapshot, List.mem_singleton] at member
      subst member
      exact ⟨by decide, by decide⟩
  exact ⟨valid, snapshot_format_round_trips.1 mixedSnapshot valid⟩

end BalancerSync.Topology
