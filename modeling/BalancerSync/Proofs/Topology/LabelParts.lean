import Mathlib
import BalancerSync.Topology.Label

/-!
# Reading a label back into its parts

A label joins its parts with `_` and escapes none of them.  An address key is hexadecimal and a
port number is signed decimal, so neither holds a `_`.  When the free-text parts hold none
either (a port's protocol and mode; a service's name and namespace too), splitting a label at
every `_` gives its parts back: equal labels then come from equal parts, and a port's label,
with three separators, is never a service's, with at least four (`labels_determine_parts`).

The free-text parts are not checked, and a `_` inside one moves the boundaries: protocol `a_b`
with mode `c` and protocol `a` with mode `b_c` give one label
(`label_ambiguous_across_protocol_and_mode`).
-/

namespace BalancerSync

/-- A character is a lowercase hexadecimal digit, `0`-`9` or `a`-`f`, by code point. -/
def IsLowerHexDigit (c : Char) : Prop :=
  (48 ≤ c.toNat ∧ c.toNat ≤ 57) ∨ (97 ≤ c.toNat ∧ c.toNat ≤ 102)

namespace Net

private theorem isLowerHexDigit_digit {d : Nat} (small : d < 16) :
    IsLowerHexDigit (if d < 10 then Char.ofNat (48 + d) else Char.ofNat (87 + d)) := by
  unfold IsLowerHexDigit
  split
  · have valid : (48 + d).isValidChar := Or.inl (by omega)
    simp only [Char.toNat_ofNat, valid, if_true]
    omega
  · have valid : (87 + d).isValidChar := Or.inl (by omega)
    simp only [Char.toNat_ofNat, valid, if_true]
    omega

theorem isLowerHexDigit_of_mem_byteHex {b : Nat} {c : Char} (member : c ∈ (byteHex b).toList) :
    IsLowerHexDigit c := by
  simp only [byteHex, String.toList_ofList, List.mem_cons, List.not_mem_nil, or_false] at member
  rcases member with rfl | rfl
  · exact isLowerHexDigit_digit (Nat.mod_lt _ (by omega))
  · exact isLowerHexDigit_digit (Nat.mod_lt _ (by omega))

theorem isLowerHexDigit_of_mem_hexKey {ip : IpAddr} {c : Char} (member : c ∈ ip.hexKey.toList) :
    IsLowerHexDigit c := by
  simp only [IpAddr.hexKey, String.toList_join, List.mem_flatMap, List.mem_map] at member
  obtain ⟨_, ⟨b, -, rfl⟩, inByte⟩ := member
  exact isLowerHexDigit_of_mem_byteHex inByte

end Net

theorem isDigit_or_minus_of_mem_intText {n : Int} {c : Char} (member : c ∈ (toString n).toList) :
    c.isDigit ∨ c = '-' := by
  have ofDigits : ∀ m : Nat, c ∈ (Nat.repr m).toList → c.isDigit := fun m inRepr =>
    Nat.isDigit_of_mem_toDigits (by decide : 0 < 10) (by decide : 10 ≤ 10)
      (by simpa [Nat.repr] using inRepr)
  change c ∈ n.repr.toList at member
  cases n with
  | ofNat m => exact .inl (ofDigits m member)
  | negSucc m =>
    simp only [Int.repr, String.toList_append, List.mem_append] at member
    rcases member with minus | digits
    · exact .inr (by simpa using minus)
    · exact .inl (ofDigits _ digits)

namespace Topology

/-- A text holds no `_`, so a label never splits inside it. -/
def Unseparated (s : String) : Prop := '_' ∉ s.toList

instance : DecidablePred Unseparated := fun s => inferInstanceAs (Decidable ('_' ∉ s.toList))

theorem unseparated_hexKey (ip : Net.IpAddr) : Unseparated ip.hexKey := fun member => by
  have hex := Net.isLowerHexDigit_of_mem_hexKey member
  simp [IsLowerHexDigit] at hex

theorem unseparated_intText (n : Int) : Unseparated (toString n) := fun member => by
  rcases isDigit_or_minus_of_mem_intText member with digit | minus
  · simp at digit
  · simp at minus

theorem count_separator_eq_zero {s : String} (plain : Unseparated s) : s.toList.count '_' = 0 :=
  List.count_eq_zero.mpr plain

/-- Joining parts without `_` by `_` loses nothing: splitting at every `_` reads the parts
back, so equal joins come from equal parts. -/
theorem eq_of_join_eq {parts parts' : List String} (plain : ∀ s ∈ parts, Unseparated s)
    (plain' : ∀ s ∈ parts', Unseparated s) (nonempty : parts ≠ []) (nonempty' : parts' ≠ [])
    (same : ['_'].intercalate (parts.map String.toList) =
      ['_'].intercalate (parts'.map String.toList)) :
    parts = parts' := by
  have split := congrArg (List.splitOn '_') same
  rw [List.splitOn_intercalate _ (by simpa [Unseparated] using plain) (by simpa using nonempty),
    List.splitOn_intercalate _ (by simpa [Unseparated] using plain')
      (by simpa using nonempty')] at split
  exact List.map_injective_iff.mpr (fun _ _ => String.toList_inj.mp) split

/-! ## Ports -/

/-- The free-text parts of a port hold no `_`. -/
structure PortSpec.Unseparated (p : PortSpec) : Prop where
  protocol : Topology.Unseparated p.protocol
  mode : Topology.Unseparated p.mode

/-- The parts a port's label joins, in order: address key, port, protocol, mode. -/
def PortSpec.labelParts (p : PortSpec) : List String :=
  [p.ip.hexKey, toString p.port, p.protocol, p.mode]

theorem PortSpec.label_toList (p : PortSpec) :
    p.label.toList = ['_'].intercalate (p.labelParts.map String.toList) := by
  simp [PortSpec.label, PortSpec.labelParts, List.intercalate_cons_cons]

theorem PortSpec.unseparated_of_mem_labelParts {p : PortSpec} (plain : p.Unseparated) :
    ∀ part ∈ p.labelParts, Topology.Unseparated part := by
  intro part member
  simp only [PortSpec.labelParts, List.mem_cons, List.not_mem_nil, or_false] at member
  rcases member with rfl | rfl | rfl | rfl
  · exact unseparated_hexKey p.ip
  · exact unseparated_intText p.port
  · exact plain.protocol
  · exact plain.mode

theorem PortSpec.labelParts_eq_of_label_eq {p q : PortSpec} (plainP : p.Unseparated)
    (plainQ : q.Unseparated) (same : p.label = q.label) : p.labelParts = q.labelParts := by
  apply eq_of_join_eq (PortSpec.unseparated_of_mem_labelParts plainP)
    (PortSpec.unseparated_of_mem_labelParts plainQ) (by simp [PortSpec.labelParts])
    (by simp [PortSpec.labelParts])
  rw [← PortSpec.label_toList, ← PortSpec.label_toList, same]

theorem PortSpec.count_label {p : PortSpec} (plain : p.Unseparated) :
    p.label.toList.count '_' = 3 := by
  have hex := count_separator_eq_zero (unseparated_hexKey p.ip)
  have port := count_separator_eq_zero (unseparated_intText p.port)
  have protocol := count_separator_eq_zero plain.protocol
  have mode := count_separator_eq_zero plain.mode
  simp only [PortSpec.label, String.toList_append, List.count_append, hex, port, protocol, mode]
  decide

/-! ## Services -/

/-- The free-text parts of a service hold no `_`: its name and namespace, and its port's
protocol and mode. -/
structure Service.Unseparated (s : Service) : Prop where
  name : Topology.Unseparated s.name
  namespaceName : Topology.Unseparated s.namespaceName
  port : s.port.Unseparated

/-- The parts a service's label joins, in order: name, namespace, port, protocol, mode. -/
def Service.labelParts (s : Service) : List String :=
  [s.name, s.namespaceName, toString s.port.port, s.port.protocol, s.port.mode]

theorem Service.label_toList (s : Service) :
    s.label.toList = ['_'].intercalate (s.labelParts.map String.toList) := by
  simp [Service.label, Service.labelParts, List.intercalate_cons_cons]

theorem Service.unseparated_of_mem_labelParts {s : Service} (plain : s.Unseparated) :
    ∀ part ∈ s.labelParts, Topology.Unseparated part := by
  intro part member
  simp only [Service.labelParts, List.mem_cons, List.not_mem_nil, or_false] at member
  rcases member with rfl | rfl | rfl | rfl | rfl
  · exact plain.name
  · exact plain.namespaceName
  · exact unseparated_intText s.port.port
  · exact plain.port.protocol
  · exact plain.port.mode

theorem Service.labelParts_eq_of_label_eq {s t : Service} (plainS : s.Unseparated)
    (plainT : t.Unseparated) (same : s.label = t.label) : s.labelParts = t.labelParts := by
  apply eq_of_join_eq (Service.unseparated_of_mem_labelParts plainS)
    (Service.unseparated_of_mem_labelParts plainT) (by simp [Service.labelParts])
    (by simp [Service.labelParts])
  rw [← Service.label_toList, ← Service.label_toList, same]

theorem Service.four_le_count_label (s : Service) : 4 ≤ s.label.toList.count '_' := by
  simp only [Service.label, String.toList_append, List.count_append]
  simp
  omega

theorem PortSpec.label_ne_service_label {p : PortSpec} (plain : p.Unseparated) (s : Service) :
    p.label ≠ s.label := by
  intro same
  have counts := congrArg (fun x : String => x.toList.count '_') same
  simp only [PortSpec.count_label plain] at counts
  have := s.four_le_count_label
  omega

/-! ## Labels determine their parts -/

/-- Labels are collision-free as long as no free-text part holds the separator: equal port
labels come from equal ports, protocols, modes and address keys; equal service labels from
equal names, namespaces, ports, protocols and modes; and no port's label is a service's. -/
theorem labels_determine_parts :
    (∀ p q : PortSpec, p.Unseparated → q.Unseparated → p.label = q.label →
      p.port = q.port ∧ p.protocol = q.protocol ∧ p.mode = q.mode ∧
        p.ip.hexKey = q.ip.hexKey) ∧
    (∀ s t : Service, s.Unseparated → t.Unseparated → s.label = t.label →
      s.name = t.name ∧ s.namespaceName = t.namespaceName ∧ s.port.port = t.port.port ∧
        s.port.protocol = t.port.protocol ∧ s.port.mode = t.port.mode) ∧
    (∀ (p : PortSpec) (s : Service), p.Unseparated → p.label ≠ s.label) := by
  refine ⟨?ports, ?services, ?apart⟩
  case ports =>
    intro p q plainP plainQ same
    have parts := PortSpec.labelParts_eq_of_label_eq plainP plainQ same
    simp only [PortSpec.labelParts, List.cons.injEq, and_true] at parts
    obtain ⟨hex, port, protocol, mode⟩ := parts
    exact ⟨Int.repr_injective port, protocol, mode, hex⟩
  case services =>
    intro s t plainS plainT same
    have parts := Service.labelParts_eq_of_label_eq plainS plainT same
    simp only [Service.labelParts, List.cons.injEq, and_true] at parts
    obtain ⟨name, namespaceName, port, protocol, mode⟩ := parts
    exact ⟨name, namespaceName, Int.repr_injective port, protocol, mode⟩
  case apart =>
    intro p s plain
    exact PortSpec.label_ne_service_label plain s

/-- An IPv4 port and the same port on its IPv4-mapped address share a label, and are read
back with equal ports, protocols, modes and address keys; two services that differ only in
their endpoints share a label too; and neither port's label is the service's. -/
theorem labels_determine_parts_mapped_address :
    PortSpec.Unseparated ⟨.v4 [10, 0, 0, 1], 80, "http", "tcp"⟩ ∧
    PortSpec.Unseparated ⟨.v6 [0, 0, 0, 0, 0, 0xFFFF, 0x0A00, 1], 80, "http", "tcp"⟩ ∧
    Service.Unseparated ⟨"web", "prod", ⟨.v4 [10, 0, 0, 1], 80, "http", "tcp"⟩, [], 0, [], 0⟩ ∧
    Service.Unseparated
      ⟨"web", "prod", ⟨.v4 [10, 0, 0, 2], 80, "http", "tcp"⟩, [⟨"web-0", .v4 [10, 1, 0, 5], 8080⟩],
        30080, ["www.example.org"], 30⟩ ∧
    (PortSpec.label ⟨.v4 [10, 0, 0, 1], 80, "http", "tcp"⟩ =
        PortSpec.label ⟨.v6 [0, 0, 0, 0, 0, 0xFFFF, 0x0A00, 1], 80, "http", "tcp"⟩ →
      (80 : Int) = 80 ∧ "tcp" = "tcp" ∧ "http" = "http" ∧
        (Net.IpAddr.v4 [10, 0, 0, 1]).hexKey = (Net.IpAddr.v6 [0, 0, 0, 0, 0, 0xFFFF, 0x0A00, 1]).hexKey) ∧
    (Service.label ⟨"web", "prod", ⟨.v4 [10, 0, 0, 1], 80, "http", "tcp"⟩, [], 0, [], 0⟩ =
        Service.label
          ⟨"web", "prod", ⟨.v4 [10, 0, 0, 2], 80, "http", "tcp"⟩,
            [⟨"web-0", .v4 [10, 1, 0, 5], 8080⟩], 30080, ["www.example.org"], 30⟩ →
      "web" = "web" ∧ "prod" = "prod" ∧ (80 : Int) = 80 ∧ "tcp" = "tcp" ∧ "http" = "http") ∧
    PortSpec.label ⟨.v4 [10, 0, 0, 1], 80, "http", "tcp"⟩ ≠
      Service.label ⟨"web", "prod", ⟨.v4 [10, 0, 0, 1], 80, "http", "tcp"⟩, [], 0, [], 0⟩ := by
  have plainP : PortSpec.Unseparated ⟨.v4 [10, 0, 0, 1], 80, "http", "tcp"⟩ :=
    ⟨by decide, by decide⟩
  have plainQ : PortSpec.Unseparated ⟨.v6 [0, 0, 0, 0, 0, 0xFFFF, 0x0A00, 1], 80, "http", "tcp"⟩ :=
    ⟨by decide, by decide⟩
  have plainS : Service.Unseparated
      ⟨"web", "prod", ⟨.v4 [10, 0, 0, 1], 80, "http", "tcp"⟩, [], 0, [], 0⟩ :=
    ⟨by decide, by decide, plainP⟩
  have plainT : Service.Unseparated
      ⟨"web", "prod", ⟨.v4 [10, 0, 0, 2], 80, "http", "tcp"⟩, [⟨"web-0", .v4 [10, 1, 0, 5], 8080⟩],
        30080, ["www.example.org"], 30⟩ :=
    ⟨by decide, by decide, ⟨by decide, by decide⟩⟩
  exact ⟨plainP, plainQ, plainS, plainT, labels_determine_parts.1 _ _ plainP plainQ,
    labels_determine_parts.2.1 _ _ plainS plainT, labels_determine_parts.2.2 _ _ plainP⟩

/-- Protocol `a_b` with mode `c`, and protocol `a` with mode `b_c`, give the same label. -/
theorem label_ambiguous_across_protocol_and_mode :
    PortSpec.label ⟨.v4 [10, 0, 0, 1], 80, "c", "a_b"⟩ =
        PortSpec.label ⟨.v4 [10, 0, 0, 1], 80, "b_c", "a"⟩ ∧
      "a_b" ≠ "a" := by
  decide

end Topology

end BalancerSync
