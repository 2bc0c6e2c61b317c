import Mathlib
import BalancerSync.Proofs.Json.TextReading
import BalancerSync.Proofs.Topology.LabelParts

/-!
# Address keys

An address key (`IpAddr.hexKey`) writes the bytes of an address in lowercase hexadecimal, two
digits a byte, the high digit first. The bytes are those of the address's canonical form
(`IpAddr.canonical`), in which an IPv6 address of `::ffff:0:0/96` stands for the IPv4 address it
maps: four bytes for IPv4 and mapped addresses, sixteen for every other IPv6 address, the
IPv4-compatible ones (`::a.b.c.d`) among them (`length_hexKey`).

Two digits a byte read back as the byte (`byteHexText_injective`), and the bytes of a valid
address read back as the address (`IpAddr.bytes_injective`). So two keys agree exactly when the
canonical forms do, and canonical forms agree exactly when the addresses are equal or one is an
IPv4 address and the other its mapped IPv6 address (`hexKey_lowerHex_length_eq_iff`).
-/

namespace BalancerSync.Net

open Json.Source (hexDigitChar)

/-! ## Canonical forms -/

/-- Whether an address is IPv4. -/
def IpAddr.isV4 : IpAddr → Bool
  | .v4 _ => true
  | .v6 _ => false

@[simp] theorem IpAddr.isV4_v4 (octets : List Nat) : (IpAddr.v4 octets).isV4 = true := rfl

@[simp] theorem IpAddr.isV4_v6 (groups : List Nat) : (IpAddr.v6 groups).isV4 = false := rfl

/-- Whether an address is IPv6 in `::ffff:0:0/96`: five zero groups, then `ffff`. -/
def IpAddr.inMappedRange : IpAddr → Bool
  | .v4 _ => false
  | .v6 groups => groups.take 6 == [0, 0, 0, 0, 0, 0xFFFF]

/-- The canonical form of an address: an IPv4-mapped IPv6 address becomes the IPv4 address it
maps, every other address stays. -/
def IpAddr.canonical : IpAddr → IpAddr
  | .v4 octets => .v4 octets
  | .v6 groups => ((ipv4Mapped? groups).map .v4).getD (.v6 groups)

/-- `mapped` is the IPv6 address `::ffff:a.b.c.d` of the IPv4 address `v4 = a.b.c.d`. -/
def Ipv4MappedPair (v4 mapped : IpAddr) : Prop :=
  ∃ a b c d, v4 = .v4 [a, b, c, d] ∧
    mapped = .v6 [0, 0, 0, 0, 0, 0xFFFF, a * 256 + b, c * 256 + d]

section Canonical

variable {groups : List Nat}

theorem ipv4Mapped?_isSome_iff (eight : groups.length = 8) :
    (ipv4Mapped? groups).isSome = (IpAddr.v6 groups).inMappedRange := by
  cases mapped : ipv4Mapped? groups with
  | some octets =>
    obtain ⟨hi, lo, rfl, -⟩ := ipv4Mapped?_eq_some mapped
    rfl
  | none =>
    match groups, eight with
    | [g0, g1, g2, g3, g4, g5, hi, lo], _ =>
      cases prefixed : ([g0, g1, g2, g3, g4, g5] == [0, 0, 0, 0, 0, 0xFFFF]) with
      | false => simp [IpAddr.inMappedRange, prefixed]
      | true =>
        simp only [beq_iff_eq, List.cons.injEq, and_true] at prefixed
        obtain ⟨rfl, rfl, rfl, rfl, rfl, rfl⟩ := prefixed
        cases mapped

theorem canonical_v6_of_ipv4Mapped? {octets : List Nat} (mapped : ipv4Mapped? groups = some octets) :
    (IpAddr.v6 groups).canonical = .v4 octets := by
  simp [IpAddr.canonical, mapped]

theorem canonical_v6_of_ipv4Mapped?_none (unmapped : ipv4Mapped? groups = none) :
    (IpAddr.v6 groups).canonical = .v6 groups := by
  simp [IpAddr.canonical, unmapped]

theorem canonical_mapped {a b c d : Nat} (lowB : b < 256) (lowD : d < 256) :
    (IpAddr.v6 [0, 0, 0, 0, 0, 0xFFFF, a * 256 + b, c * 256 + d]).canonical = .v4 [a, b, c, d] := by
  rw [canonical_v6_of_ipv4Mapped? rfl, IpAddr.v4.injEq]
  simp only [List.cons.injEq, and_true]
  omega

theorem eq_mapped_of_canonical_eq_v4 {octets : List Nat}
    (canon : (IpAddr.v6 groups).canonical = .v4 octets) :
    ∃ hi lo, groups = [0, 0, 0, 0, 0, 0xFFFF, hi, lo] ∧
      octets = [hi / 256, hi % 256, lo / 256, lo % 256] := by
  cases mapped : ipv4Mapped? groups with
  | some found =>
    rw [canonical_v6_of_ipv4Mapped? mapped, IpAddr.v4.injEq] at canon
    exact canon ▸ ipv4Mapped?_eq_some mapped
  | none =>
    rw [canonical_v6_of_ipv4Mapped?_none mapped] at canon
    cases canon

theorem eq_of_canonical_eq_v6 {groups' : List Nat}
    (canon : (IpAddr.v6 groups).canonical = .v6 groups') : groups = groups' := by
  cases mapped : ipv4Mapped? groups with
  | some octets =>
    rw [canonical_v6_of_ipv4Mapped? mapped] at canon
    cases canon
  | none =>
    rw [canonical_v6_of_ipv4Mapped?_none mapped, IpAddr.v6.injEq] at canon
    exact canon

theorem IpAddr.Valid.canonical {ip : IpAddr} (valid : ip.Valid) : ip.canonical.Valid := by
  cases ip with
  | v4 octets => exact valid
  | v6 groups =>
    cases mapped : ipv4Mapped? groups with
    | none => rwa [canonical_v6_of_ipv4Mapped?_none mapped]
    | some octets =>
      rw [canonical_v6_of_ipv4Mapped? mapped]
      obtain ⟨hi, lo, rfl, rfl⟩ := ipv4Mapped?_eq_some mapped
      refine ⟨rfl, ?_⟩
      have small : hi < 65536 ∧ lo < 65536 := ⟨valid.2 hi (by simp), valid.2 lo (by simp)⟩
      simp only [List.mem_cons, List.not_mem_nil, or_false]
      omega

theorem isV4_canonical {ip : IpAddr} (valid : ip.Valid) :
    ip.canonical.isV4 = (ip.isV4 || ip.inMappedRange) := by
  cases ip with
  | v4 octets => rfl
  | v6 groups =>
    rw [← ipv4Mapped?_isSome_iff valid.1]
    cases mapped : ipv4Mapped? groups with
    | some octets => simp [canonical_v6_of_ipv4Mapped? mapped]
    | none => simp [canonical_v6_of_ipv4Mapped?_none mapped]

theorem canonical_eq_canonical_iff {a b : IpAddr} (validA : a.Valid) (validB : b.Valid) :
    a.canonical = b.canonical ↔ a = b ∨ Ipv4MappedPair a b ∨ Ipv4MappedPair b a := by
  constructor
  · intro same
    cases a with
    | v4 x =>
      cases b with
      | v4 y => exact .inl same
      | v6 hs =>
        obtain ⟨hi, lo, rfl, rfl⟩ := eq_mapped_of_canonical_eq_v4 same.symm
        refine .inr (.inl ⟨_, _, _, _, rfl, ?_⟩)
        simp only [Nat.div_add_mod']
    | v6 gs =>
      cases b with
      | v4 y =>
        obtain ⟨hi, lo, rfl, rfl⟩ := eq_mapped_of_canonical_eq_v4 same
        refine .inr (.inr ⟨_, _, _, _, rfl, ?_⟩)
        simp only [Nat.div_add_mod']
      | v6 hs =>
        refine .inl ?_
        cases mapped : ipv4Mapped? hs with
        | none =>
          rw [canonical_v6_of_ipv4Mapped?_none mapped] at same
          rw [eq_of_canonical_eq_v6 same]
        | some octets =>
          rw [canonical_v6_of_ipv4Mapped? mapped] at same
          obtain ⟨hi, lo, rfl, rfl⟩ := eq_mapped_of_canonical_eq_v4 same
          obtain ⟨hi', lo', rfl, octets⟩ := ipv4Mapped?_eq_some mapped
          simp only [List.cons.injEq, and_true] at octets
          have groupHi : hi = hi' := by omega
          have groupLo : lo = lo' := by omega
          rw [groupHi, groupLo]
  · rintro (rfl | ⟨a, b, c, d, rfl, rfl⟩ | ⟨a, b, c, d, rfl, rfl⟩)
    · rfl
    · have small : ∀ o ∈ [a, b, c, d], o < 256 := validA.2
      simp only [List.mem_cons, List.not_mem_nil, or_false, forall_eq_or_imp, forall_eq] at small
      rw [canonical_mapped small.2.1 small.2.2.2]
      rfl
    · have small : ∀ o ∈ [a, b, c, d], o < 256 := validB.2
      simp only [List.mem_cons, List.not_mem_nil, or_false, forall_eq_or_imp, forall_eq] at small
      rw [canonical_mapped small.2.1 small.2.2.2]
      rfl

end Canonical

/-! ## Bytes -/

section Bytes

theorem IpAddr.bytes_lt {ip : IpAddr} (valid : ip.Valid) : ∀ b ∈ ip.bytes, b < 256 := by
  cases ip with
  | v4 octets => exact valid.2
  | v6 groups =>
    intro b member
    simp only [IpAddr.bytes, List.mem_flatMap, List.mem_cons, List.not_mem_nil, or_false] at member
    obtain ⟨g, inGroups, rfl | rfl⟩ := member
    · have small := valid.2 g inGroups
      omega
    · omega

theorem IpAddr.length_bytes {ip : IpAddr} (valid : ip.Valid) :
    ip.bytes.length = if ip.isV4 then 4 else 16 := by
  cases ip with
  | v4 octets => exact valid.1
  | v6 groups =>
    simp only [IpAddr.bytes, List.length_flatMap, List.length_cons, List.length_nil]
    simp [valid.1]

theorem groupBytes_injective :
    ∀ {gs hs : List Nat}, (∀ g ∈ gs, g < 65536) → (∀ h ∈ hs, h < 65536) →
      gs.flatMap (fun g => [g / 256, g % 256]) = hs.flatMap (fun h => [h / 256, h % 256]) →
        gs = hs
  | [], [], _, _, _ => rfl
  | [], _ :: _, _, _, same => by simp at same
  | _ :: _, [], _, _, same => by simp at same
  | g :: gs, h :: hs, smallG, smallH, same => by
    simp only [List.flatMap_cons, List.cons_append, List.nil_append, List.cons.injEq] at same
    obtain ⟨high, low, rest⟩ := same
    have first : g = h := by omega
    rw [first, groupBytes_injective (fun g' member => smallG g' (List.mem_cons_of_mem _ member))
      (fun h' member => smallH h' (List.mem_cons_of_mem _ member)) rest]

theorem IpAddr.bytes_injective {a b : IpAddr} (validA : a.Valid) (validB : b.Valid)
    (same : a.bytes = b.bytes) : a = b := by
  have lengths := congrArg List.length same
  rw [IpAddr.length_bytes validA, IpAddr.length_bytes validB] at lengths
  cases a with
  | v4 x =>
    cases b with
    | v4 y => exact congrArg IpAddr.v4 same
    | v6 hs => simp at lengths
  | v6 gs =>
    cases b with
    | v4 y => simp at lengths
    | v6 hs => exact congrArg IpAddr.v6 (groupBytes_injective validA.2 validB.2 same)

end Bytes

/-! ## Hexadecimal text -/

section Hex

theorem hexDigitChar_toNat {d : Nat} (digit : d < 16) :
    (hexDigitChar d).toNat = if d < 10 then 48 + d else 87 + d := by
  unfold hexDigitChar
  split
  · have valid : (48 + d).isValidChar := Or.inl (by omega)
    simp [Char.toNat_ofNat, valid]
  · have valid : (87 + d).isValidChar := Or.inl (by omega)
    simp [Char.toNat_ofNat, valid]

theorem hexDigitChar_injective {d e : Nat} (digitD : d < 16) (digitE : e < 16)
    (same : hexDigitChar d = hexDigitChar e) : d = e := by
  have codes := congrArg Char.toNat same
  rw [hexDigitChar_toNat digitD, hexDigitChar_toNat digitE] at codes
  split at codes <;> split at codes <;> omega

theorem byteHex_toList (b : Nat) :
    (byteHex b).toList = [hexDigitChar (b / 16 % 16), hexDigitChar (b % 16)] := by
  simp [byteHex, hexDigitChar]

theorem toList_byteHexText (bytes : List Nat) :
    (String.join (bytes.map byteHex)).toList =
      bytes.flatMap fun b => [hexDigitChar (b / 16 % 16), hexDigitChar (b % 16)] := by
  simp [String.toList_join, List.flatMap_map, byteHex_toList]

theorem length_byteHexText (bytes : List Nat) :
    (String.join (bytes.map byteHex)).length = 2 * bytes.length := by
  rw [← String.length_toList, toList_byteHexText]
  induction bytes with
  | nil => rfl
  | cons b bytes ih =>
    simp only [List.flatMap_cons, List.length_append, List.length_cons, List.length_nil] at ih ⊢
    omega

theorem digitPairs_injective :
    ∀ {xs ys : List Nat}, (∀ b ∈ xs, b < 256) → (∀ b ∈ ys, b < 256) →
      (xs.flatMap fun b => [hexDigitChar (b / 16 % 16), hexDigitChar (b % 16)]) =
        (ys.flatMap fun b => [hexDigitChar (b / 16 % 16), hexDigitChar (b % 16)]) → xs = ys
  | [], [], _, _, _ => rfl
  | [], _ :: _, _, _, same => by simp at same
  | _ :: _, [], _, _, same => by simp at same
  | x :: xs, y :: ys, smallX, smallY, same => by
    simp only [List.flatMap_cons, List.cons_append, List.nil_append, List.cons.injEq] at same
    obtain ⟨high, low, rest⟩ := same
    have byteX := smallX x (by simp)
    have byteY := smallY y (by simp)
    have highDigit := hexDigitChar_injective (by omega) (by omega) high
    have lowDigit := hexDigitChar_injective (by omega) (by omega) low
    have first : x = y := by omega
    rw [first, digitPairs_injective (fun b member => smallX b (List.mem_cons_of_mem _ member))
      (fun b member => smallY b (List.mem_cons_of_mem _ member)) rest]

theorem byteHexText_injective {xs ys : List Nat} (smallX : ∀ b ∈ xs, b < 256)
    (smallY : ∀ b ∈ ys, b < 256)
    (same : String.join (xs.map byteHex) = String.join (ys.map byteHex)) : xs = ys := by
  have chars := congrArg String.toList same
  rw [toList_byteHexText, toList_byteHexText] at chars
  exact digitPairs_injective smallX smallY chars

end Hex

/-! ## Keys -/

section Keys

theorem hexKey_eq_canonical_bytes (ip : IpAddr) :
    ip.hexKey = String.join (ip.canonical.bytes.map byteHex) := by
  cases ip with
  | v4 octets => rfl
  | v6 groups =>
    cases mapped : ipv4Mapped? groups with
    | some octets => simp [IpAddr.hexKey, canonical_v6_of_ipv4Mapped? mapped, mapped, IpAddr.bytes]
    | none => simp [IpAddr.hexKey, canonical_v6_of_ipv4Mapped?_none mapped, mapped]

theorem length_hexKey {ip : IpAddr} (valid : ip.Valid) :
    ip.hexKey.length = if ip.isV4 || ip.inMappedRange then 8 else 32 := by
  rw [hexKey_eq_canonical_bytes, length_byteHexText, IpAddr.length_bytes valid.canonical,
    ← isV4_canonical valid]
  cases ip.canonical.isV4 <;> rfl

theorem hexKey_eq_hexKey_iff_canonical {a b : IpAddr} (validA : a.Valid) (validB : b.Valid) :
    a.hexKey = b.hexKey ↔ a.canonical = b.canonical := by
  rw [hexKey_eq_canonical_bytes, hexKey_eq_canonical_bytes]
  constructor
  · intro same
    exact IpAddr.bytes_injective validA.canonical validB.canonical
      (byteHexText_injective (IpAddr.bytes_lt validA.canonical)
        (IpAddr.bytes_lt validB.canonical) same)
  · intro same
    rw [same]

/-- A key is lowercase hexadecimal, eight digits long for IPv4 and IPv4-mapped addresses and
thirty-two for other IPv6 addresses; two addresses share a key exactly when they are equal or
one is an IPv4 address and the other its IPv4-mapped IPv6 address. -/
theorem hexKey_lowerHex_length_eq_iff {a b : IpAddr} (validA : a.Valid) (validB : b.Valid) :
    (∀ c ∈ a.hexKey.toList, IsLowerHexDigit c) ∧
    a.hexKey.length = (if a.isV4 || a.inMappedRange then 8 else 32) ∧
    (a.hexKey = b.hexKey ↔ a = b ∨ Ipv4MappedPair a b ∨ Ipv4MappedPair b a) := by
  refine ⟨fun c member => isLowerHexDigit_of_mem_hexKey member, length_hexKey validA, ?_⟩
  rw [hexKey_eq_hexKey_iff_canonical validA validB, canonical_eq_canonical_iff validA validB]

/-- `10.0.0.1` and `::ffff:10.0.0.1` share the eight-digit key `0a000001`. -/
theorem hexKey_lowerHex_length_eq_iff_mapped :
    (IpAddr.v4 [10, 0, 0, 1]).Valid ∧ (IpAddr.v6 [0, 0, 0, 0, 0, 0xFFFF, 0x0A00, 1]).Valid ∧
    (∀ c ∈ (IpAddr.v4 [10, 0, 0, 1]).hexKey.toList, IsLowerHexDigit c) ∧
    (IpAddr.v4 [10, 0, 0, 1]).hexKey.length = 8 ∧
    ((IpAddr.v4 [10, 0, 0, 1]).hexKey = (IpAddr.v6 [0, 0, 0, 0, 0, 0xFFFF, 0x0A00, 1]).hexKey ↔
      IpAddr.v4 [10, 0, 0, 1] = .v6 [0, 0, 0, 0, 0, 0xFFFF, 0x0A00, 1] ∨
        Ipv4MappedPair (.v4 [10, 0, 0, 1]) (.v6 [0, 0, 0, 0, 0, 0xFFFF, 0x0A00, 1]) ∨
        Ipv4MappedPair (.v6 [0, 0, 0, 0, 0, 0xFFFF, 0x0A00, 1]) (.v4 [10, 0, 0, 1])) := by
  have validA : (IpAddr.v4 [10, 0, 0, 1]).Valid := by decide
  have validB : (IpAddr.v6 [0, 0, 0, 0, 0, 0xFFFF, 0x0A00, 1]).Valid := by decide
  obtain ⟨lower, length, same⟩ := hexKey_lowerHex_length_eq_iff validA validB
  exact ⟨validA, validB, lower, length, same⟩

end Keys

end BalancerSync.Net
