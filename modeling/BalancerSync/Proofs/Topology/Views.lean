import Mathlib
import BalancerSync.Topology.Model
import BalancerSync.Proofs.Schema.NormalForm

/-!
# Snapshot views read back

The JSON view of a snapshot (`Cluster.toJson`, and the views of its ports, endpoints and
services) is what templates see and what the snapshot format writes. For every snapshot the
program's types can hold (`Cluster.Valid`: valid addresses, 32-bit ports, 64-bit timeouts) the
view is a normal form of the snapshot's shape, so decoding leaves it as it is, and reading it
back gives the snapshot: `Cluster.decode_toJson`, and likewise for each part.

Whatever decoding yields is a snapshot the types can hold (`Cluster.valid_of_decode`), so by
`Cluster.decode_toJson` decoding the view of a decoded snapshot gives it back.
-/

namespace BalancerSync.Schema

/-! ## Normal forms field by field -/

theorem Width.writes_ofInt {w : Width} {n : Int} (fits : w.fits n = true) :
    w.Writes (Number.ofInt n) := by
  unfold Number.ofInt
  split
  · exact ⟨by assumption, fits⟩
  · rename_i nonNegative
    show w.fits (n.toNat : Int) = true
    rw [Int.toNat_of_nonneg (by omega)]
    exact fits

@[simp] theorem Json.int?_int (n : Int) : (Json.int n).int? = some n := by
  unfold Json.int Number.ofInt
  split
  · rfl
  · rename_i nonNegative
    simp only [Json.int?, Option.some.injEq]
    omega

theorem Normal.int?_of_integer {w : Width} {x : Json} (normal : Normal Width.Keeps (.integer w) x) :
    ∃ n, x.int? = some n ∧ w.fits n = true := by
  cases normal with
  | integer kept =>
    rename_i number
    cases number with
    | natural m => exact ⟨m, rfl, kept⟩
    | negative m => exact ⟨m, rfl, kept⟩
    | float f => exact kept.elim

theorem Normal.eq_text_of_ipAddress {admits : Width → Number → Prop} {x : Json}
    (normal : Normal admits .ipAddress x) : ∃ ip : Net.IpAddr, ip.Valid ∧ x = .string ip.text := by
  cases normal with
  | ipAddress valid => exact ⟨_, valid, rfl⟩

theorem Normal.eq_array_of_list {admits : Width → Number → Prop} {item : Shape} {x : Json}
    (normal : Normal admits (.list item) x) :
    ∃ items, x = .array items ∧ ∀ y ∈ items, Normal admits item y := by
  cases normal with
  | list each => exact ⟨_, rfl, each⟩

theorem Normal.get?_field {admits : Width → Number → Prop} {name : String}
    {fields : List (String × Shape × Option Json)} {v : Json}
    (normal : Normal admits (.record name fields) v) (distinct : (fields.map Prod.fst).Nodup)
    (field : String × Shape × Option Json) (member : field ∈ fields) :
    ∃ x, v.get? field.1 = some x ∧ Normal admits field.2.1 x := by
  cases normal with
  | record length each =>
    rename_i values
    obtain ⟨i, within, rfl⟩ := List.getElem_of_mem member
    have inValues : i < values.length := length ▸ within
    have zipped : (fields[i], values[i]) ∈ fields.zip values :=
      List.mem_iff_getElem.mpr ⟨i, by simpa [length] using within, by simp⟩
    have listed : (fields[i].1, values[i]) ∈ (fields.map Prod.fst).zip values := by
      rw [List.zip_map_left, List.mem_map]
      exact ⟨(fields[i], values[i]), zipped, rfl⟩
    refine ⟨values[i], ?_, each _ zipped⟩
    have keys : (((fields.map Prod.fst).zip values).reverse.map Prod.fst).Nodup := by
      rw [List.map_reverse, List.nodup_reverse, List.map_fst_zip (by simp [length])]
      exact distinct
    rw [Json.get?_mkObject]
    exact Json.lookup_of_mem keys (List.mem_reverse.mpr listed)

/-! ## Well-formed shapes -/

theorem Shape.WellFormed.mono {depth depth' : Nat} {s : Shape} (formed : s.WellFormed depth)
    (deeper : depth ≤ depth') : s.WellFormed depth' := by
  induction formed generalizing depth' with
  | text => exact .text
  | flag => exact .flag
  | integer w => exact .integer w
  | ipAddress => exact .ipAddress
  | list _ ih =>
    obtain ⟨below, rfl⟩ := Nat.exists_eq_add_of_lt deeper
    exact .list (ih (by omega))
  | optional _ ih =>
    obtain ⟨below, rfl⟩ := Nat.exists_eq_add_of_lt deeper
    exact .optional (ih (by omega))
  | record distinct _ defaults ih =>
    obtain ⟨below, rfl⟩ := Nat.exists_eq_add_of_lt deeper
    exact .record distinct (fun field member => ih field member (by omega)) defaults

theorem Shape.decodeValue_of_normal {s : Shape} {v : Json} {depth : Nat}
    (normal : Normal Width.Writes s v) (formed : s.WellFormed depth)
    (shallow : depth < nestingBound) : s.decodeValue v = .ok v :=
  decodeJson_normal (fun _ _ written => Width.keeps_of_writes written) normal
    (formed.mono (Nat.le_pred_of_lt shallow))

end BalancerSync.Schema

namespace BalancerSync.Topology

open Schema

/-! ## Snapshots the types can hold -/

/-- A port as the program's types hold one: a valid address and a 32-bit port number. -/
structure PortSpec.Valid (p : PortSpec) : Prop where
  ip : p.ip.Valid
  port : Width.i32.fits p.port = true

/-- An endpoint as the program's types hold one: a valid address and a 32-bit port number. -/
structure Endpoint.Valid (e : Endpoint) : Prop where
  ip : e.ip.Valid
  port : Width.i32.fits e.port = true

/-- A service as the program's types hold one: its port and endpoints valid, a 32-bit node port
and a 64-bit timeout. -/
structure Service.Valid (s : Service) : Prop where
  port : s.port.Valid
  endpoints : ∀ e ∈ s.endpoints, e.Valid
  nodePort : Width.i32.fits s.nodePort = true
  timeout : Width.i64.fits s.timeout = true

/-- A snapshot as the program's types hold one: its services and ports valid. -/
structure Cluster.Valid (c : Cluster) : Prop where
  services : ∀ s ∈ c.services, s.Valid
  ports : ∀ p ∈ c.ports, p.Valid

/-! ## Shapes -/

theorem PortSpec.shape_wellFormed : PortSpec.shape.WellFormed 1 := by
  refine .record (by decide) (fun field member => ?_) (fun field member d given => ?_)
  all_goals
    simp only [List.mem_cons, List.not_mem_nil, or_false] at member
    rcases member with rfl | rfl | rfl | rfl
  · exact .ipAddress
  · exact .integer _
  · exact .text
  · exact .text
  all_goals cases given

theorem Endpoint.shape_wellFormed : Endpoint.shape.WellFormed 1 := by
  refine .record (by decide) (fun field member => ?_) (fun field member d given => ?_)
  all_goals
    simp only [List.mem_cons, List.not_mem_nil, or_false] at member
    rcases member with rfl | rfl | rfl
  · exact .text
  · exact .ipAddress
  · exact .integer _
  · cases given
    exact .text _
  all_goals cases given

theorem normal_int_zero (w : Width) : Normal Width.Writes (.integer w) (Json.int 0) :=
  .integer (Width.writes_ofInt (by cases w <;> decide))

theorem Service.shape_wellFormed : Service.shape.WellFormed 3 := by
  refine .record (by decide) (fun field member => ?_) (fun field member d given => ?_)
  all_goals
    simp only [List.mem_cons, List.not_mem_nil, or_false] at member
    rcases member with rfl | rfl | rfl | rfl | rfl | rfl | rfl
  · exact .text
  · exact .text
  · exact PortSpec.shape_wellFormed.mono (by omega)
  · exact .list Endpoint.shape_wellFormed
  · exact .integer _
  · exact .list .text
  · exact .integer _
  all_goals cases given
  · exact .list (fun _ member => by cases member)
  · exact normal_int_zero _
  · exact .list (fun _ member => by cases member)
  · exact normal_int_zero _

theorem Cluster.shape_wellFormed : Cluster.shape.WellFormed 5 := by
  refine .record (by decide) (fun field member => ?_) (fun field member d given => ?_)
  all_goals
    simp only [List.mem_cons, List.not_mem_nil, or_false] at member
    rcases member with rfl | rfl | rfl | rfl
  · exact .list Service.shape_wellFormed
  · exact .list (PortSpec.shape_wellFormed.mono (by omega))
  · exact .list .text
  · exact .text
  all_goals cases given
  · exact .list (fun _ member => by cases member)
  · exact .list (fun _ member => by cases member)
  · exact .list (fun _ member => by cases member)
  · exact .text _

/-! ## Views are normal forms -/

theorem PortSpec.normal_toJson {p : PortSpec} (valid : p.Valid) :
    Normal Width.Writes PortSpec.shape p.toJson := by
  refine @Normal.record _ _ _ [.string p.ip.text, Json.int p.port, .string p.mode,
    .string p.protocol] rfl (fun pair member => ?_)
  simp only [List.zip_cons_cons, List.zip_nil_right, List.mem_cons,
    List.not_mem_nil, or_false] at member
  rcases member with rfl | rfl | rfl | rfl
  · exact .ipAddress valid.ip
  · exact .integer (Width.writes_ofInt valid.port)
  · exact .text _
  · exact .text _

theorem Endpoint.normal_toJson {e : Endpoint} (valid : e.Valid) :
    Normal Width.Writes Endpoint.shape e.toJson := by
  refine @Normal.record _ _ _ [.string e.name, .string e.ip.text, Json.int e.port] rfl
    (fun pair member => ?_)
  simp only [List.zip_cons_cons, List.zip_nil_right, List.mem_cons,
    List.not_mem_nil, or_false] at member
  rcases member with rfl | rfl | rfl
  · exact .text _
  · exact .ipAddress valid.ip
  · exact .integer (Width.writes_ofInt valid.port)

theorem Service.normal_toJson {s : Service} (valid : s.Valid) :
    Normal Width.Writes Service.shape s.toJson := by
  refine @Normal.record _ _ _ [.string s.name, .string s.namespaceName, s.port.toJson,
    .array (s.endpoints.map Endpoint.toJson), Json.int s.nodePort,
    .array (s.external.map .string), Json.int s.timeout] rfl (fun pair member => ?_)
  simp only [List.zip_cons_cons, List.zip_nil_right, List.mem_cons,
    List.not_mem_nil, or_false] at member
  rcases member with rfl | rfl | rfl | rfl | rfl | rfl | rfl
  · exact .text _
  · exact .text _
  · exact PortSpec.normal_toJson valid.port
  · refine .list fun x member => ?_
    obtain ⟨e, inEndpoints, rfl⟩ := List.mem_map.mp member
    exact Endpoint.normal_toJson (valid.endpoints e inEndpoints)
  · exact .integer (Width.writes_ofInt valid.nodePort)
  · refine .list fun x member => ?_
    obtain ⟨name, -, rfl⟩ := List.mem_map.mp member
    exact .text name
  · exact .integer (Width.writes_ofInt valid.timeout)

theorem Cluster.normal_toJson {c : Cluster} (valid : c.Valid) :
    Normal Width.Writes Cluster.shape c.toJson := by
  refine @Normal.record _ _ _ [.array (c.services.map Service.toJson),
    .array (c.ports.map PortSpec.toJson), .array (c.nodes.map .string), .string c.domain] rfl
    (fun pair member => ?_)
  simp only [List.zip_cons_cons, List.zip_nil_right, List.mem_cons,
    List.not_mem_nil, or_false] at member
  rcases member with rfl | rfl | rfl | rfl
  · refine .list fun x member => ?_
    obtain ⟨s, inServices, rfl⟩ := List.mem_map.mp member
    exact Service.normal_toJson (valid.services s inServices)
  · refine .list fun x member => ?_
    obtain ⟨p, inPorts, rfl⟩ := List.mem_map.mp member
    exact PortSpec.normal_toJson (valid.ports p inPorts)
  · refine .list fun x member => ?_
    obtain ⟨name, -, rfl⟩ := List.mem_map.mp member
    exact .text name
  · exact .text _

/-! ## Views read back -/

section ReadBack

variable {α β : Type}

theorem mapM_map_of_forall {read : β → Option α} {view : α → β} :
    ∀ {items : List α}, (∀ x ∈ items, read (view x) = some x) →
      (items.map view).mapM read = some items
  | [], _ => rfl
  | x :: items, each => by
    have later := mapM_map_of_forall fun y member => each y (List.mem_cons_of_mem x member)
    simp [List.mapM_cons, each x List.mem_cons_self, later]

theorem PortSpec.ofJson?_toJson {p : PortSpec} (valid : p.ip.Valid) :
    PortSpec.ofJson? p.toJson = some p := by
  simp [PortSpec.ofJson?, PortSpec.toJson, ipField?, Json.get?_mkObject, List.lookup_cons,
    Json.str?, Net.IpAddr.parse?_text valid]

theorem Endpoint.ofJson?_toJson {e : Endpoint} (valid : e.ip.Valid) :
    Endpoint.ofJson? e.toJson = some e := by
  simp [Endpoint.ofJson?, Endpoint.toJson, ipField?, Json.get?_mkObject, List.lookup_cons,
    Json.str?, Net.IpAddr.parse?_text valid]

theorem Service.ofJson?_toJson {s : Service} (valid : s.Valid) :
    Service.ofJson? s.toJson = some s := by
  have endpoints : (s.endpoints.map Endpoint.toJson).mapM Endpoint.ofJson? = some s.endpoints :=
    mapM_map_of_forall fun e member => Endpoint.ofJson?_toJson (valid.endpoints e member).ip
  have external : (s.external.map Json.string).mapM Json.str? = some s.external :=
    mapM_map_of_forall fun _ _ => rfl
  simp [Service.ofJson?, Service.toJson, Json.get?_mkObject, List.lookup_cons, Json.str?,
    Json.items?, endpoints, external, PortSpec.ofJson?_toJson valid.port.ip]

theorem Cluster.ofJson?_toJson {c : Cluster} (valid : c.Valid) :
    Cluster.ofJson? c.toJson = some c := by
  have services : (c.services.map Service.toJson).mapM Service.ofJson? = some c.services :=
    mapM_map_of_forall fun s member => Service.ofJson?_toJson (valid.services s member)
  have ports : (c.ports.map PortSpec.toJson).mapM PortSpec.ofJson? = some c.ports :=
    mapM_map_of_forall fun p member => PortSpec.ofJson?_toJson (valid.ports p member).ip
  have nodes : (c.nodes.map Json.string).mapM Json.str? = some c.nodes :=
    mapM_map_of_forall fun _ _ => rfl
  simp [Cluster.ofJson?, Cluster.toJson, Json.get?_mkObject, List.lookup_cons, Json.str?,
    Json.items?, services, ports, nodes]

end ReadBack

/-! ## Decoding views -/

theorem PortSpec.decode_toJson {p : PortSpec} (valid : p.Valid) :
    PortSpec.decode p.toJson = .ok p := by
  rw [PortSpec.decode, Shape.decodeValue_of_normal (PortSpec.normal_toJson valid)
    PortSpec.shape_wellFormed (by decide)]
  simp [ofDecoded, PortSpec.ofJson?_toJson valid.ip]

theorem Service.decode_toJson {s : Service} (valid : s.Valid) :
    Service.decode s.toJson = .ok s := by
  rw [Service.decode,
    Shape.decodeValue_of_normal (Service.normal_toJson valid) Service.shape_wellFormed (by decide)]
  simp [ofDecoded, Service.ofJson?_toJson valid]

theorem Cluster.decode_toJson {c : Cluster} (valid : c.Valid) :
    Cluster.decode c.toJson = .ok c := by
  rw [Cluster.decode,
    Shape.decodeValue_of_normal (Cluster.normal_toJson valid) Cluster.shape_wellFormed (by decide)]
  simp [ofDecoded, Cluster.ofJson?_toJson valid]

/-! ## What decoding yields -/

section Decoded

variable {α β : Type} {v : Json}

theorem mem_of_mapM_eq_some {read : β → Option α} :
    ∀ {items : List β} {read' : List α}, items.mapM read = some read' →
      ∀ y ∈ read', ∃ x ∈ items, read x = some y
  | [], read', mapped, y, member => by
    simp only [List.mapM_nil, pure, Option.some.injEq] at mapped
    subst mapped
    cases member
  | x :: items, read', mapped, y, member => by
    simp only [List.mapM_cons, Option.bind_eq_bind, Option.bind_eq_some_iff, pure,
      Option.some.injEq] at mapped
    obtain ⟨first, readFirst, rest, readRest, rfl⟩ := mapped
    rcases List.mem_cons.mp member with rfl | later
    · exact ⟨x, List.mem_cons_self, readFirst⟩
    · obtain ⟨z, inItems, readZ⟩ := mem_of_mapM_eq_some readRest y later
      exact ⟨z, List.mem_cons_of_mem x inItems, readZ⟩

theorem PortSpec.valid_of_ofJson? {p : PortSpec} (normal : Normal Width.Keeps PortSpec.shape v)
    (read : PortSpec.ofJson? v = some p) : p.Valid := by
  obtain ⟨ipJson, gotIp, ipNormal⟩ :=
    Normal.get?_field normal (by decide) ("IP", .ipAddress, none) (by simp)
  obtain ⟨ip, ipValid, rfl⟩ := ipNormal.eq_text_of_ipAddress
  obtain ⟨portJson, gotPort, portNormal⟩ :=
    Normal.get?_field normal (by decide) ("Port", .integer .i32, none) (by simp)
  obtain ⟨n, intN, fits⟩ := portNormal.int?_of_integer
  simp only [PortSpec.ofJson?, ipField?, gotIp, gotPort, Option.bind_some, Json.str?,
    Net.IpAddr.parse?_text ipValid, intN, Option.bind_eq_bind, Option.bind_eq_some_iff, pure,
    Option.some.injEq] at read
  obtain ⟨mode, -, protocol, -, rfl⟩ := read
  exact ⟨ipValid, fits⟩

theorem Endpoint.valid_of_ofJson? {e : Endpoint} (normal : Normal Width.Keeps Endpoint.shape v)
    (read : Endpoint.ofJson? v = some e) : e.Valid := by
  obtain ⟨ipJson, gotIp, ipNormal⟩ :=
    Normal.get?_field normal (by decide) ("IP", .ipAddress, none) (by simp)
  obtain ⟨ip, ipValid, rfl⟩ := ipNormal.eq_text_of_ipAddress
  obtain ⟨portJson, gotPort, portNormal⟩ :=
    Normal.get?_field normal (by decide) ("Port", .integer .i32, none) (by simp)
  obtain ⟨n, intN, fits⟩ := portNormal.int?_of_integer
  simp only [Endpoint.ofJson?, ipField?, gotIp, gotPort, Option.bind_some, Json.str?,
    Net.IpAddr.parse?_text ipValid, intN, Option.bind_eq_bind, Option.bind_eq_some_iff, pure,
    Option.some.injEq] at read
  obtain ⟨name, -, rfl⟩ := read
  exact ⟨ipValid, fits⟩

theorem Service.valid_of_ofJson? {s : Service} (normal : Normal Width.Keeps Service.shape v)
    (read : Service.ofJson? v = some s) : s.Valid := by
  obtain ⟨portJson, gotPort, portNormal⟩ :=
    Normal.get?_field normal (by decide) ("Port", PortSpec.shape, none) (by simp)
  obtain ⟨endpointsJson, gotEndpoints, endpointsNormal⟩ :=
    Normal.get?_field normal (by decide)
      ("Endpoints", .list Endpoint.shape, some (.array [])) (by simp)
  obtain ⟨items, rfl, itemsNormal⟩ := endpointsNormal.eq_array_of_list
  obtain ⟨nodePortJson, gotNodePort, nodePortNormal⟩ :=
    Normal.get?_field normal (by decide)
      ("NodePort", .integer .i32, some (Json.int 0)) (by simp)
  obtain ⟨nodePort, intNodePort, nodePortFits⟩ := nodePortNormal.int?_of_integer
  obtain ⟨timeoutJson, gotTimeout, timeoutNormal⟩ :=
    Normal.get?_field normal (by decide)
      ("Timeout", .integer .i64, some (Json.int 0)) (by simp)
  obtain ⟨timeout, intTimeout, timeoutFits⟩ := timeoutNormal.int?_of_integer
  simp only [Service.ofJson?, gotPort, gotEndpoints, gotNodePort, gotTimeout, Json.items?,
    Option.bind_some, intNodePort, intTimeout, Option.bind_eq_bind, Option.bind_eq_some_iff, pure,
    Option.some.injEq] at read
  obtain ⟨external, -, name, -, namespaceName, -, port, readPort, endpoints, readEndpoints,
    externalNames, -, rfl⟩ := read
  refine ⟨PortSpec.valid_of_ofJson? portNormal readPort, fun e member => ?_, nodePortFits,
    timeoutFits⟩
  obtain ⟨item, inItems, readItem⟩ := mem_of_mapM_eq_some readEndpoints e member
  exact Endpoint.valid_of_ofJson? (itemsNormal item inItems) readItem

theorem Cluster.valid_of_ofJson? {c : Cluster} (normal : Normal Width.Keeps Cluster.shape v)
    (read : Cluster.ofJson? v = some c) : c.Valid := by
  obtain ⟨servicesJson, gotServices, servicesNormal⟩ :=
    Normal.get?_field normal (by decide)
      ("Services", .list Service.shape, some (.array [])) (by simp)
  obtain ⟨serviceItems, rfl, serviceItemsNormal⟩ := servicesNormal.eq_array_of_list
  obtain ⟨portsJson, gotPorts, portsNormal⟩ :=
    Normal.get?_field normal (by decide)
      ("Ports", .list PortSpec.shape, some (.array [])) (by simp)
  obtain ⟨portItems, rfl, portItemsNormal⟩ := portsNormal.eq_array_of_list
  simp only [Cluster.ofJson?, gotServices, gotPorts, Json.items?, Option.bind_some,
    Option.bind_eq_bind, Option.bind_eq_some_iff, pure, Option.some.injEq] at read
  obtain ⟨nodes, -, services, readServices, ports, readPorts, nodeNames, -, domain, -, rfl⟩ := read
  constructor
  · intro s member
    obtain ⟨item, inItems, readItem⟩ := mem_of_mapM_eq_some readServices s member
    exact Service.valid_of_ofJson? (serviceItemsNormal item inItems) readItem
  · intro p member
    obtain ⟨item, inItems, readItem⟩ := mem_of_mapM_eq_some readPorts p member
    exact PortSpec.valid_of_ofJson? (portItemsNormal item inItems) readItem

theorem Cluster.valid_of_decode {d : Json} {c : Cluster} (decoded : Cluster.decode d = .ok c) :
    c.Valid := by
  unfold Cluster.decode ofDecoded at decoded
  split at decoded
  next v decodedValue =>
    split at decoded
    next c' read =>
      cases decoded
      exact Cluster.valid_of_ofJson? (normal_of_decodeJson Cluster.shape_wellFormed decodedValue)
        read
    next => cases decoded
  next => cases decoded

end Decoded

end BalancerSync.Topology
