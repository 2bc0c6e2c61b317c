import BalancerSync.Topology.Model

/-!
# Section labels

Short identifiers for configuration sections, made from field values only. A port's label is
`<address key>_<port>_<protocol>_<mode>`, where the address key is the hexadecimal bytes of the
address (four for IPv4 and IPv4-mapped IPv6, sixteen otherwise); a service's label is
`<name>_<namespace>_<port>_<protocol>_<mode>` of its port. Components are not escaped.
-/

namespace BalancerSync.Topology

/-- The label of a port. -/
def PortSpec.label (p : PortSpec) : String :=
  p.ip.hexKey ++ "_" ++ toString p.port ++ "_" ++ p.protocol ++ "_" ++ p.mode

/-- The label of a service. -/
def Service.label (s : Service) : String :=
  s.name ++ "_" ++ s.namespaceName ++ "_" ++ toString s.port.port ++ "_" ++ s.port.protocol ++
    "_" ++ s.port.mode

/-- Makes a host name or address usable inside an identifier: every `.` and `:` becomes `_`. -/
def escapeNode (node : String) : String :=
  String.ofList (node.toList.map (fun c => if c == '.' || c == ':' then '_' else c))

example : escapeNode "fe80::1" = "fe80__1" := by decide

end BalancerSync.Topology
