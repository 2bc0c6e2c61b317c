/-!
# IP addresses

IPv4 and IPv6 addresses, their strict text form and their canonical text.

The text form is read with no blanks, no brackets and no zone: IPv4 as four decimal octets
without leading zeros (`010.0.0.1` is refused), IPv6 as up to eight groups of one to four
hexadecimal digits, one `::` standing for at least one zero group, and an IPv4 address allowed
in the last two groups. IPv4 is tried first, and the whole text must be used.

The canonical text of an IPv6 address writes groups in lowercase hexadecimal without leading
zeros and replaces the longest run of two or more zero groups (the first such run on a tie)
by `::`; an IPv4-mapped address (`::ffff:a.b.c.d`) keeps its dotted tail.
-/

namespace BalancerSync.Net

/-- An IP address: four octets, or eight 16-bit groups. -/
inductive IpAddr where
  | v4 (octets : List Nat)
  | v6 (groups : List Nat)
  deriving Repr, DecidableEq, Inhabited

/-- The value of a digit in a radix. -/
def digitValue (radix : Nat) (c : Char) : Option Nat :=
  let v :=
    if '0' ≤ c && c ≤ '9' then some (c.toNat - 48)
    else if 'a' ≤ c && c ≤ 'z' then some (c.toNat - 87)
    else if 'A' ≤ c && c ≤ 'Z' then some (c.toNat - 55)
    else none
  v.bind (fun d => if d < radix then some d else none)

/-- Reads a number: at least one digit, at most `maxDigits` of them when given, a value at most
`bound`, and a leading zero only when `zeroPrefix` allows or the number is `0` itself. -/
def readNumber (radix : Nat) (maxDigits : Option Nat) (zeroPrefix : Bool) (bound : Nat)
    (cs : List Char) : Option (Nat × List Char) :=
  let digits := cs.takeWhile (fun c => (digitValue radix c).isSome)
  let value := digits.foldl (fun acc c => acc * radix + (digitValue radix c).getD 0) 0
  if digits.isEmpty then none
  else if maxDigits.any (fun m => digits.length > m) then none
  else if value > bound then none
  else if !zeroPrefix && digits.head? == some '0' && digits.length > 1 then none
  else some (value, cs.drop digits.length)

/-- Reads a separator (unless it is the first item) and then an item. -/
def readSeparated {α : Type} (sep : Char) (first : Bool) (item : List Char → Option (α × List Char))
    (cs : List Char) : Option (α × List Char) :=
  if first then item cs
  else match cs with
    | c :: rest => if c == sep then item rest else none
    | [] => none

/-- Reads four dotted decimal octets. -/
def readIpv4 (cs : List Char) : Option (List Nat × List Char) := do
  let octet := readNumber 10 (some 3) false 255
  let (a, r1) ← octet cs
  let (b, r2) ← readSeparated '.' false octet r1
  let (c, r3) ← readSeparated '.' false octet r2
  let (d, r4) ← readSeparated '.' false octet r3
  pure ([a, b, c, d], r4)

/-- Reads up to `limit` colon-separated groups; an IPv4 address may take the place of two
groups while at least two remain. Answers the groups, whether an IPv4 address ended them, and
the text after them. -/
def readGroups (limit : Nat) : Nat → List Nat → List Char → List Nat × Bool × List Char
  | 0, acc, cs => (acc, false, cs)
  | fuel + 1, acc, cs =>
    let index := acc.length
    if index ≥ limit then (acc, false, cs) else
    let viaIpv4 :=
      if index + 1 < limit then readSeparated ':' (index == 0) readIpv4 cs else none
    match viaIpv4 with
    | some ([a, b, c, d], rest) => (acc ++ [a * 256 + b, c * 256 + d], true, rest)
    | _ =>
      match readSeparated ':' (index == 0) (readNumber 16 (some 4) true 0xFFFF) cs with
      | some (g, rest) => readGroups limit fuel (acc ++ [g]) rest
      | none => (acc, false, cs)

/-- Reads an IPv6 address. -/
def readIpv6 (cs : List Char) : Option (List Nat × List Char) :=
  let (head, headIpv4, rest) := readGroups 8 8 [] cs
  if head.length == 8 then some (head, rest)
  else if headIpv4 then none
  else match rest with
    | ':' :: ':' :: after =>
      let (tail, _, rest2) := readGroups (8 - (head.length + 1)) 8 [] after
      some (head ++ List.replicate (8 - head.length - tail.length) 0 ++ tail, rest2)
    | _ => none

/-- Reads an address at the front of a text, IPv4 first. -/
def IpAddr.read (cs : List Char) : Option (IpAddr × List Char) :=
  match readIpv4 cs with
  | some (octets, rest) => some (.v4 octets, rest)
  | none => (readIpv6 cs).map (fun (groups, rest) => (.v6 groups, rest))

/-- Parses an address that fills the whole text. -/
def IpAddr.parse? (s : String) : Option IpAddr :=
  match IpAddr.read s.toList with
  | some (ip, []) => some ip
  | _ => none

/-- The message of a text that is no address. -/
def IpAddr.syntaxMessage : String := "invalid IP address syntax"

/-- The IPv4 address that an IPv6 address maps (`::ffff:a.b.c.d`), if it is one. -/
def ipv4Mapped? (groups : List Nat) : Option (List Nat) :=
  match groups with
  | [0, 0, 0, 0, 0, 0xFFFF, hi, lo] => some [hi / 256, hi % 256, lo / 256, lo % 256]
  | _ => none

/-- Dotted text of four octets. -/
def dotted (octets : List Nat) : String :=
  ".".intercalate (octets.map toString)

/-- Lowercase hexadecimal text of a group, without leading zeros. -/
def groupText (g : Nat) : String := String.ofList (Nat.toDigits 16 g)

/-- The longest run of zero groups, as start and length; the first on a tie. -/
def longestZeroRun (groups : List Nat) : Nat × Nat :=
  let step := fun (state : (Nat × Nat) × (Nat × Nat) × Nat) (g : Nat) =>
    let ((bestStart, bestLen), (curStart, curLen), i) := state
    if g == 0 then
      let cur := if curLen == 0 then (i, 1) else (curStart, curLen + 1)
      let best := if cur.2 > bestLen then cur else (bestStart, bestLen)
      (best, cur, i + 1)
    else ((bestStart, bestLen), (0, 0), i + 1)
  (groups.foldl step ((0, 0), (0, 0), 0)).1

/-- Canonical text of an address. -/
def IpAddr.text : IpAddr → String
  | .v4 octets => dotted octets
  | .v6 groups =>
    match ipv4Mapped? groups with
    | some octets => "::ffff:" ++ dotted octets
    | none =>
      let (start, len) := longestZeroRun groups
      let join := fun (gs : List Nat) => ":".intercalate (gs.map groupText)
      if len > 1 then join (groups.take start) ++ "::" ++ join (groups.drop (start + len))
      else join groups

/-- The bytes of an address in network order. -/
def IpAddr.bytes : IpAddr → List Nat
  | .v4 octets => octets
  | .v6 groups => groups.flatMap (fun g => [g / 256, g % 256])

/-- Two lowercase hexadecimal digits of a byte. -/
def byteHex (b : Nat) : String :=
  let digit (d : Nat) : Char := if d < 10 then Char.ofNat (48 + d) else Char.ofNat (87 + d)
  String.ofList [digit (b / 16 % 16), digit (b % 16)]

/-- The hexadecimal key of an address: its four bytes for IPv4 and for an IPv4-mapped IPv6
address, its sixteen bytes for any other IPv6 address. -/
def IpAddr.hexKey (ip : IpAddr) : String :=
  let bytes :=
    match ip with
    | .v4 octets => octets
    | .v6 groups => (ipv4Mapped? groups).getD (IpAddr.bytes (.v6 groups))
  String.join (bytes.map byteHex)

example : (IpAddr.parse? "1:0:0:2:0:0:0:3").map IpAddr.text = some "1:0:0:2::3" := by decide
example : (IpAddr.parse? "010.0.0.1") = none := by decide

end BalancerSync.Net

namespace BalancerSync.Net

/-- Reads a port after its colon: decimal digits, leading zeros allowed, at most 65535. -/
def readPort (cs : List Char) : Option (Nat × List Char) :=
  match cs with
  | ':' :: rest => readNumber 10 none true 65535 rest
  | _ => none

/-- Reads `a.b.c.d:port`. -/
def readSocketV4 (cs : List Char) : Option (List Char) := do
  let (_, rest) ← readIpv4 cs
  let (_, rest2) ← readPort rest
  pure rest2

/-- Reads `[ipv6%zone]:port`, the zone optional and decimal. -/
def readSocketV6 (cs : List Char) : Option (List Char) := do
  let rest ← match cs with
    | '[' :: r => some r
    | _ => none
  let (_, rest2) ← readIpv6 rest
  let rest3 ←
    match rest2 with
    | '%' :: r => (readNumber 10 none true (Nat.pow 2 32 - 1) r).map (·.2)
    | r => some r
  let rest4 ← match rest3 with
    | ']' :: r => some r
    | _ => none
  let (_, rest5) ← readPort rest4
  pure rest5

/-- A text is a socket address: an IPv4 address and a port, or a bracketed IPv6 address with an
optional numeric zone and a port, filling the whole text. -/
def isSocketAddr (s : String) : Bool :=
  match readSocketV4 s.toList with
  | some [] => true
  | some _ => false
  | none => readSocketV6 s.toList == some []

end BalancerSync.Net
