import BalancerSync.Schema.FromText

/-!
# Cluster snapshots

The data a snapshot carries: the load balancer's listening ports, the services behind it with
their endpoints, the node names and the cluster domain. Field names are the ones templates
address (`Service.Name`, `Port.IP`), in PascalCase.

Each type has its shape, which fixes the wording of decoding failures and the defaults of the
fields that may be left out, and its JSON view, which is what templates see: every field
present, keys in sorted order, addresses in canonical text.
-/

namespace BalancerSync.Topology

open Schema

/-- A listening port of the load balancer. -/
structure PortSpec where
  ip : Net.IpAddr
  port : Int
  mode : String
  protocol : String
  deriving Inhabited

/-- A backend endpoint of a service. -/
structure Endpoint where
  name : String
  ip : Net.IpAddr
  port : Int
  deriving Inhabited

/-- A service exposed through the load balancer. -/
structure Service where
  name : String
  namespaceName : String
  port : PortSpec
  endpoints : List Endpoint
  nodePort : Int
  external : List String
  timeout : Int
  deriving Inhabited

/-- The whole cluster at one instant. -/
structure Cluster where
  services : List Service
  ports : List PortSpec
  nodes : List String
  domain : String
  deriving Inhabited

/-- The empty cluster: no services, ports or nodes, and an empty domain. -/
def Cluster.empty : Cluster := ⟨[], [], [], ""⟩

/-- A port's decoding shape. -/
def PortSpec.shape : Shape :=
  .record "PortSpec"
    [("IP", .ipAddress, none), ("Port", .integer .i32, none), ("Mode", .text, none),
     ("Protocol", .text, none)]

/-- An endpoint's decoding shape; its name may be left out. -/
def Endpoint.shape : Shape :=
  .record "ServiceEndpoint"
    [("Name", .text, some (.string "")), ("IP", .ipAddress, none), ("Port", .integer .i32, none)]

/-- A service's decoding shape; endpoints, node port, external names and timeout may be left
out. -/
def Service.shape : Shape :=
  .record "ServiceInformation"
    [("Name", .text, none), ("Namespace", .text, none), ("Port", PortSpec.shape, none),
     ("Endpoints", .list Endpoint.shape, some (.array [])),
     ("NodePort", .integer .i32, some (Json.int 0)),
     ("External", .list .text, some (.array [])),
     ("Timeout", .integer .i64, some (Json.int 0))]

/-- A cluster's decoding shape; every field may be left out. -/
def Cluster.shape : Shape :=
  .record "ClusterInformation"
    [("Services", .list Service.shape, some (.array [])),
     ("Ports", .list PortSpec.shape, some (.array [])),
     ("Nodes", .list .text, some (.array [])),
     ("Domain", .text, some (.string ""))]

/-- The JSON view of a port. -/
def PortSpec.toJson (p : PortSpec) : Json :=
  Json.mkObject [("IP", .string p.ip.text), ("Port", Json.int p.port), ("Mode", .string p.mode),
    ("Protocol", .string p.protocol)]

/-- The JSON view of an endpoint. -/
def Endpoint.toJson (e : Endpoint) : Json :=
  Json.mkObject [("Name", .string e.name), ("IP", .string e.ip.text), ("Port", Json.int e.port)]

/-- The JSON view of a service. -/
def Service.toJson (s : Service) : Json :=
  Json.mkObject [("Name", .string s.name), ("Namespace", .string s.namespaceName),
    ("Port", s.port.toJson), ("Endpoints", .array (s.endpoints.map Endpoint.toJson)),
    ("NodePort", Json.int s.nodePort), ("External", .array (s.external.map .string)),
    ("Timeout", Json.int s.timeout)]

/-- The JSON view of a cluster. -/
def Cluster.toJson (c : Cluster) : Json :=
  Json.mkObject [("Services", .array (c.services.map Service.toJson)),
    ("Ports", .array (c.ports.map PortSpec.toJson)), ("Nodes", .array (c.nodes.map .string)),
    ("Domain", .string c.domain)]


/-- Reads an address field of a view. -/
def ipField? (v : Json) (key : String) : Option Net.IpAddr :=
  (v.get? key).bind Json.str? |>.bind Net.IpAddr.parse?

/-- A port from its view. -/
def PortSpec.ofJson? (v : Json) : Option PortSpec := do
  pure ⟨← ipField? v "IP", ← (v.get? "Port").bind Json.int?, ← (v.get? "Mode").bind Json.str?,
    ← (v.get? "Protocol").bind Json.str?⟩

/-- An endpoint from its view. -/
def Endpoint.ofJson? (v : Json) : Option Endpoint := do
  pure ⟨← (v.get? "Name").bind Json.str?, ← ipField? v "IP", ← (v.get? "Port").bind Json.int?⟩

/-- A service from its view. -/
def Service.ofJson? (v : Json) : Option Service := do
  let endpoints ← (v.get? "Endpoints").bind Json.items?
  let external ← (v.get? "External").bind Json.items?
  pure ⟨← (v.get? "Name").bind Json.str?, ← (v.get? "Namespace").bind Json.str?,
    ← (v.get? "Port").bind PortSpec.ofJson?, ← endpoints.mapM Endpoint.ofJson?,
    ← (v.get? "NodePort").bind Json.int?, ← external.mapM Json.str?,
    ← (v.get? "Timeout").bind Json.int?⟩

/-- A cluster from its view. -/
def Cluster.ofJson? (v : Json) : Option Cluster := do
  let services ← (v.get? "Services").bind Json.items?
  let ports ← (v.get? "Ports").bind Json.items?
  let nodes ← (v.get? "Nodes").bind Json.items?
  pure ⟨← services.mapM Service.ofJson?, ← ports.mapM PortSpec.ofJson?, ← nodes.mapM Json.str?,
    ← (v.get? "Domain").bind Json.str?⟩

/-- Decoded data of a shape, read back into its type; a view the type cannot hold is refused. -/
def ofDecoded {α : Type} (ofJson? : Json → Option α) :
    Except String Json → Except String α
  | .ok v => match ofJson? v with
    | some x => .ok x
    | none => .error "decoded data does not fit its type"
  | .error e => .error e

/-- Decodes a port from a value. -/
def PortSpec.decode (v : Json) : Except String PortSpec :=
  ofDecoded PortSpec.ofJson? (PortSpec.shape.decodeValue v)

/-- Decodes a service from a value. -/
def Service.decode (v : Json) : Except String Service :=
  ofDecoded Service.ofJson? (Service.shape.decodeValue v)

/-- Decodes a cluster from a value. -/
def Cluster.decode (v : Json) : Except String Cluster :=
  ofDecoded Cluster.ofJson? (Cluster.shape.decodeValue v)

/-- Decodes a cluster from a document text; failures carry line and column. -/
def Cluster.decodeDocument (text : String) : Except Json.Located Cluster :=
  match Cluster.shape.decodeDocument text with
  | .ok v =>
    match Cluster.ofJson? v with
    | some c => .ok c
    | none => .error ⟨"decoded data does not fit its type", 0, 0⟩
  | .error e => .error e

end BalancerSync.Topology
