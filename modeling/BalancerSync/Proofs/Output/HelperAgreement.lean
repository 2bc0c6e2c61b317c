import Mathlib
import BalancerSync.Output.Helpers
import BalancerSync.Proofs.Topology.Views

/-!
# Helpers on the values templates see

A configuration template sees a snapshot through its JSON view, and the `Label` and
`ServerNames` helpers decode the views they are given back into services and ports. On the
views of a snapshot the types can hold, they agree with the functions they stand for:
`Label` gives the label of the service or port whose view it is given, choosing the service
decoder exactly for views with a `Namespace` key, which every service view has and no port view
has; `ServerNames` gives the names that `generate` makes, or stops as it stops.
-/

namespace BalancerSync.Output

open Template BalancerSync.Topology

/-! ## Which decoder `Label` chooses -/

@[simp] theorem Service.get?_namespace_toJson (s : Service) :
    s.toJson.get? "Namespace" = some (.string s.namespaceName) := by
  simp [Service.toJson, Json.get?_mkObject, List.lookup_cons]

@[simp] theorem PortSpec.get?_namespace_toJson (p : PortSpec) :
    p.toJson.get? "Namespace" = none := by
  simp [PortSpec.toJson, Json.get?_mkObject, List.lookup_cons]

/-! ## The helpers on views -/

section Views

variable {a b : Arg} {rest : List Arg}

theorem labelHelper_service_view {s : Service} (valid : s.Valid) (view : a.value = s.toJson) :
    labelHelper (a :: rest) = .ok (.string s.label) := by
  simp [labelHelper, view, Service.decode_toJson valid, Except.map]

theorem labelHelper_port_view {p : PortSpec} (valid : p.Valid) (view : a.value = p.toJson) :
    labelHelper (a :: rest) = .ok (.string p.label) := by
  simp [labelHelper, view, PortSpec.decode_toJson valid, Except.map]

theorem serverNamesHelper_service_view (names : Naming.NameTemplates) {s : Service}
    {domain : String} (valid : s.Valid) (view : a.value = s.toJson)
    (domainView : b.value = .string domain) :
    serverNamesHelper names (a :: b :: rest) =
      (names.generate s domain).map fun generated =>
        .array (generated.map Naming.ServerName.toJson) := by
  simp only [serverNamesHelper, List.getElem?_cons_zero, List.getElem?_cons_succ,
    Option.bind_some, domainView, Json.str?, view, Service.decode_toJson valid]
  cases names.generate s domain <;> rfl

end Views

/-- On the views of a snapshot the types can hold, `Label` and `ServerNames` agree with the
functions they stand for: a service view has a `Namespace` key and `Label` gives the service's
label, `ServerNames` with the snapshot's domain gives the names `generate` makes or stops as it
stops, and a port's view, listed or a service's, has no `Namespace` key and `Label` gives the
port's label. -/
theorem helpers_agree_on_snapshot_views {c : Cluster} (valid : c.Valid)
    (names : Naming.NameTemplates) :
    (∀ s ∈ c.services, (s.toJson.get? "Namespace").isSome = true ∧
      (∀ (a : Arg) (rest : List Arg), a.value = s.toJson →
        labelHelper (a :: rest) = .ok (.string s.label)) ∧
      (∀ (a b : Arg) (rest : List Arg), a.value = s.toJson → b.value = .string c.domain →
        serverNamesHelper names (a :: b :: rest) =
          (names.generate s c.domain).map fun generated =>
            .array (generated.map Naming.ServerName.toJson))) ∧
    (∀ p ∈ c.ports ++ c.services.map (·.port), (p.toJson.get? "Namespace").isSome = false ∧
      ∀ (a : Arg) (rest : List Arg), a.value = p.toJson →
        labelHelper (a :: rest) = .ok (.string p.label)) := by
  have ports : ∀ p ∈ c.ports ++ c.services.map (·.port), p.Valid := by
    intro p member
    rcases List.mem_append.mp member with listed | served
    · exact valid.ports p listed
    · obtain ⟨s, listed, rfl⟩ := List.mem_map.mp served
      exact (valid.services s listed).port
  refine ⟨fun s member => ?_, fun p member => ?_⟩
  · have serviceValid := valid.services s member
    exact ⟨by simp, fun a rest view => labelHelper_service_view serviceValid view,
      fun a b rest view domainView =>
        serverNamesHelper_service_view names serviceValid view domainView⟩
  · exact ⟨by simp, fun a rest view => labelHelper_port_view (ports p member) view⟩

/-- A snapshot with one service on an IPv4 port, with one endpoint and one external name, and one
listed IPv6 port. -/
def webCluster : Cluster :=
  ⟨[⟨"web", "default", ⟨.v4 [10, 0, 0, 1], 80, "http", "tcp"⟩,
      [⟨"web-0", .v4 [10, 1, 0, 5], 8080⟩], 30080, ["www.example.org"], 0⟩],
    [⟨.v6 [0, 0, 0, 0, 0, 0, 0, 1], 443, "tcp", "tcp"⟩], ["node-a"], "cluster.local"⟩

theorem helpers_agree_on_snapshot_views_web :
    webCluster.Valid ∧
    (∀ s ∈ webCluster.services, (s.toJson.get? "Namespace").isSome = true ∧
      (∀ (a : Arg) (rest : List Arg), a.value = s.toJson →
        labelHelper (a :: rest) = .ok (.string s.label)) ∧
      (∀ (a b : Arg) (rest : List Arg), a.value = s.toJson →
        b.value = .string webCluster.domain →
        serverNamesHelper ⟨[]⟩ (a :: b :: rest) =
          (Naming.NameTemplates.generate ⟨[]⟩ s webCluster.domain).map fun generated =>
            .array (generated.map Naming.ServerName.toJson))) ∧
    (∀ p ∈ webCluster.ports ++ webCluster.services.map (·.port),
      (p.toJson.get? "Namespace").isSome = false ∧
      ∀ (a : Arg) (rest : List Arg), a.value = p.toJson →
        labelHelper (a :: rest) = .ok (.string p.label)) := by
  have valid : webCluster.Valid := by
    constructor
    · intro s member
      simp only [webCluster, List.mem_singleton] at member
      subst member
      exact ⟨⟨by decide, by decide⟩, by simp; exact ⟨by decide, by decide⟩, by decide, by decide⟩
    · intro p member
      simp only [webCluster, List.mem_singleton] at member
      subst member
      exact ⟨by decide, by decide⟩
  exact ⟨valid, helpers_agree_on_snapshot_views valid ⟨[]⟩⟩

end BalancerSync.Output
