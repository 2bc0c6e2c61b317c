/-!
# Shortest decimal digits of a double

A finite double `m · 2^q` stands for every real that rounds to it: the interval between the
midpoints to its two neighbours, ends included exactly when `m` is even. The shortest decimal
of the double is the decimal with the fewest significant digits inside that interval; of two
such decimals on the same grid the nearer one is taken, and an exact tie goes to the even digit
string. All arithmetic is exact, on natural numbers.
-/

namespace BalancerSync.Decimal

/-- A double split into sign, kind and magnitude. -/
inductive Decoded where
  /-- A finite value `mantissa · 2^exponent`, negative when `negative` holds. -/
  | finite (negative : Bool) (mantissa : Nat) (exponent : Int)
  /-- An infinity of the given sign. -/
  | infinite (negative : Bool)
  /-- Not a number. -/
  | nan
  deriving Repr, Inhabited

/-- Splits a double by its bit pattern. -/
def decode (x : Float) : Decoded :=
  let bits := x.toBits.toNat
  let negative := bits / Nat.pow 2 63 % 2 == 1
  let biased := bits / Nat.pow 2 52 % Nat.pow 2 11
  let fraction := bits % Nat.pow 2 52
  if biased == 2047 then
    if fraction == 0 then .infinite negative else .nan
  else if biased == 0 then
    .finite negative fraction (-1074)
  else
    .finite negative (fraction + Nat.pow 2 52) (Int.ofNat biased - 1075)

/-- An exact non-negative rational `num / den`. -/
structure Ratio where
  num : Nat
  den : Nat
  deriving Repr

/-- `a ≤ b` on exact ratios with positive denominators. -/
def Ratio.le (a b : Ratio) : Bool := a.num * b.den ≤ b.num * a.den

/-- `a < b` on exact ratios with positive denominators. -/
def Ratio.lt (a b : Ratio) : Bool := a.num * b.den < b.num * a.den

/-- The ratio `n · 2^e`. -/
def Ratio.ofBinary (n : Nat) (e : Int) : Ratio :=
  if e ≥ 0 then ⟨n * Nat.pow 2 e.toNat, 1⟩ else ⟨n, Nat.pow 2 (-e).toNat⟩

/-- The ratio `n · 10^e`. -/
def Ratio.ofDecimal (n : Nat) (e : Int) : Ratio :=
  if e ≥ 0 then ⟨n * Nat.pow 10 e.toNat, 1⟩ else ⟨n, Nat.pow 10 (-e).toNat⟩

/-- The rounding interval of a positive finite double `m · 2^q`: its lower end, its upper end,
and whether the ends belong to it. -/
def roundingInterval (m : Nat) (q : Int) : Ratio × Ratio × Bool :=
  let upper := Ratio.ofBinary (2 * m + 1) (q - 1)
  let lower :=
    if m == Nat.pow 2 52 && q > -1074 then Ratio.ofBinary (4 * m - 1) (q - 2)
    else Ratio.ofBinary (2 * m - 1) (q - 1)
  (lower, upper, m % 2 == 0)

/-- The least `t` with `v < 10^t`, searched upward from `t` for at most `fuel` steps. -/
def decimalBound (v : Ratio) (t : Int) : Nat → Int
  | 0 => t
  | fuel + 1 => if v.lt (Ratio.ofDecimal 1 t) then t else decimalBound v (t + 1) fuel

/-- Removes trailing zero digits, raising the exponent to match. -/
def stripZeros (digits : Nat) (exponent : Int) : Nat → Nat × Int
  | 0 => (digits, exponent)
  | fuel + 1 =>
    if digits ≠ 0 && digits % 10 == 0 then stripZeros (digits / 10) (exponent + 1) fuel
    else (digits, exponent)

/-- The decimal `digits · 10^exponent` on the grid of `count` significant digits below `10^top`
that lies in the interval, if one does; the nearer of two, a tie to the even one. -/
def gridChoice (v lower upper : Ratio) (closed : Bool) (top : Int) (count : Nat) :
    Option (Nat × Int) :=
  let e := top - count
  -- floor (v / 10^e)
  let scaled := Ratio.ofDecimal 1 e
  let below := (v.num * scaled.den) / (v.den * scaled.num)
  let above := below + 1
  let inside (d : Nat) : Bool :=
    let r := Ratio.ofDecimal d e
    if closed then lower.le r && r.le upper else lower.lt r && r.lt upper
  match inside below, inside above with
  | true, true =>
    -- distances scaled by 10^e: v/10^e - below against above - v/10^e
    let twice := 2 * v.num * scaled.den
    let mid := (2 * below + 1) * v.den * scaled.num
    if twice < mid then some (below, e)
    else if twice > mid then some (above, e)
    else if below % 2 == 0 then some (below, e) else some (above, e)
  | true, false => some (below, e)
  | false, true => some (above, e)
  | false, false => none

/-- The first grid, from one significant digit up, that has a decimal in the interval. -/
def firstGrid (v lower upper : Ratio) (closed : Bool) (top : Int) : Nat → Nat → Option (Nat × Int)
  | _, 0 => none
  | count, fuel + 1 =>
    match gridChoice v lower upper closed top count with
    | some found => some found
    | none => firstGrid v lower upper closed top (count + 1) fuel

/-- The shortest decimal `digits · 10^exponent` of a positive finite double `m · 2^q`;
`(0, 0)` for zero. -/
def shortest (m : Nat) (q : Int) : Nat × Int :=
  if m == 0 then (0, 0) else
  let v := Ratio.ofBinary m q
  let (lower, upper, closed) := roundingInterval m q
  let top := decimalBound v (-330) 700
  match firstGrid v lower upper closed top 1 17 with
  | some (digits, exponent) => stripZeros digits exponent 40
  | none => stripZeros m 0 40

/-- The decimal digits of a natural number. -/
def digitText (n : Nat) : String := String.ofList (Nat.toDigits 10 n)

/-- `n` zeros. -/
def zeros (n : Nat) : String := String.ofList (List.replicate n '0')

/-- Positional text of `digits · 10^exponent`, with no exponent mark: `1e3` is `1000`,
`15e-1` is `1.5`, `1e-7` is `0.0000001`. -/
def positional (digits : Nat) (exponent : Int) : String :=
  let text := digitText digits
  let length := text.length
  if exponent ≥ 0 then text ++ zeros exponent.toNat
  else
    let fractional := (-exponent).toNat
    if fractional < length then
      String.ofList (text.toList.take (length - fractional)) ++ "." ++
        String.ofList (text.toList.drop (length - fractional))
    else "0." ++ zeros (fractional - length) ++ text

/-- Text of a double in plain positional notation, shortest digits that read back: the
notation of the program's error messages (`100`, `0.1`, `-0`, `NaN`, `inf`). -/
def plainText (x : Float) : String :=
  match decode x with
  | .nan => "NaN"
  | .infinite negative => if negative then "-inf" else "inf"
  | .finite negative m q =>
    let (digits, exponent) := shortest m q
    (if negative then "-" else "") ++ positional digits exponent

/-- Text of a double as a JSON document writes it: shortest digits, positional while the
decimal point falls within sixteen places of the first digit and at most five zeros follow
it, scientific beyond, the exponent always signed (`1e+300`, `1.5e-7`); a whole number
keeps `.0`. -/
def documentText (x : Float) : String :=
  match decode x with
  | .nan => "NaN"
  | .infinite negative => if negative then "-inf" else "inf"
  | .finite negative m q =>
    let sign := if negative then "-" else ""
    if m == 0 then sign ++ "0.0" else
    let (digits, exponent) := shortest m q
    let text := digitText digits
    let length : Int := text.length
    let point := exponent + length
    sign ++
      if 0 ≤ exponent && point ≤ 16 then text ++ zeros exponent.toNat ++ ".0"
      else if 0 < point && point ≤ 16 then
        String.ofList (text.toList.take point.toNat) ++ "." ++
          String.ofList (text.toList.drop point.toNat)
      else if -5 < point && point ≤ 0 then "0." ++ zeros (-point).toNat ++ text
      else
        let mark := "e" ++ (if point - 1 < 0 then "-" else "+") ++ digitText (point - 1).natAbs
        match text.toList with
        | [d] => String.ofList [d] ++ mark
        | d :: rest => String.ofList [d] ++ "." ++ String.ofList rest ++ mark
        | [] => "0" ++ mark

end BalancerSync.Decimal
