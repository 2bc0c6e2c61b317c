/-!
# Signed 64-bit arithmetic

Sums of signed 64-bit integers in two disciplines: checked, where a partial sum outside the
64-bit range stops the whole computation, and wrapping, where it wraps around modulo `2^64`.
Arithmetic sequences of 64-bit integers step by wrapping addition.
-/

namespace BalancerSync.Arith

/-- The least signed 64-bit integer. -/
def int64Min : Int := -9223372036854775808

/-- The greatest signed 64-bit integer. -/
def int64Max : Int := 9223372036854775807

/-- An integer is a signed 64-bit integer. -/
def isInt64 (n : Int) : Bool := int64Min ≤ n && n ≤ int64Max

/-- Wraps an integer into the signed 64-bit range. -/
def wrap64 (n : Int) : Int :=
  let m := n % 18446744073709551616
  if m > int64Max then m - 18446744073709551616 else m

/-- The sum of 64-bit integers from left to right, or `none` at the first partial sum that
leaves the 64-bit range. -/
def checkedSum (values : List Int) : Option Int :=
  values.foldl (fun acc v => acc.bind (fun s => if isInt64 (s + v) then some (s + v) else none))
    (some 0)

/-- A finite arithmetic sequence of 64-bit integers, stepped with wrapping addition. -/
structure Stride where
  /-- How many values are still to come. -/
  remaining : Nat
  /-- The next value. -/
  next : Int
  /-- The difference between consecutive values. -/
  step : Int
  deriving Repr

/-- A sequence of `count` values (none for a negative count) from `initial` by `step`. -/
def Stride.start (count initial step : Int) : Stride :=
  ⟨count.toNat, initial, step⟩

/-- The next value of a sequence and the rest of it. -/
def Stride.pop? (s : Stride) : Option (Int × Stride) :=
  match s.remaining with
  | 0 => none
  | n + 1 => some (s.next, ⟨n, wrap64 (s.next + s.step), s.step⟩)

/-- The first `k` values of a sequence and the rest of it. -/
def Stride.take (s : Stride) : Nat → List Int × Stride
  | 0 => ([], s)
  | k + 1 =>
    match s.pop? with
    | none => ([], s)
    | some (v, rest) =>
      let (more, final) := rest.take k
      (v :: more, final)

/-- Every value of a sequence. -/
def Stride.values (s : Stride) : List Int :=
  (s.take s.remaining).1

/-- The bounds a sequence reports on how many values are still to come, lower and upper: its
remaining count for both.  That count is never negative, so it always converts to a
machine-sized count. -/
def Stride.sizeHint (s : Stride) : Nat × Option Nat :=
  (s.remaining, some s.remaining)

example : (Stride.start 3 10 (-5)).values = [10, 5, 0] := by decide

end BalancerSync.Arith
