import Mathlib
import BalancerSync.Arith.Int64

/-!
# Overflow in sequences and sums

Two disciplines for leaving the signed 64-bit range.

A sequence wraps: `wrap64 n` is the one 64-bit integer congruent to `n` modulo `2^64`
(`wrap64_eq_iff`), and wrapping after every step is wrapping once at the end
(`wrap64_wrap64_add`). So the values of a sequence are its start plus `k` steps, wrapped
(`Stride.values_eq_wrappedProgression`). Taking values from a sequence is taking from the list of its
values: one pop gives the head and leaves a sequence of the tail (`Stride.pop?_eq_some_iff`),
and `k` pops give the first `k` values and leave a sequence of the others
(`Stride.take_eq_values`), whose size bounds are exactly how many values it still has.

A sum is checked: it is the exact sum when every left-to-right partial sum is a 64-bit integer
and nothing otherwise (`checkedSum_eq`), even when later summands bring the total back in range.
-/

namespace BalancerSync.Arith

/-! ## Wrapping -/

section Wrapping

theorem isInt64_iff {n : Int} :
    isInt64 n = true ↔ -9223372036854775808 ≤ n ∧ n ≤ 9223372036854775807 := by
  unfold isInt64 int64Min int64Max
  simp only [Bool.and_eq_true, decide_eq_true_iff]

private theorem wrap64_eq_ite (n : Int) :
    wrap64 n =
      if 9223372036854775807 < n % 18446744073709551616 then
        n % 18446744073709551616 - 18446744073709551616
      else n % 18446744073709551616 := rfl

theorem isInt64_wrap64 (n : Int) : isInt64 (wrap64 n) = true := by
  rw [isInt64_iff, wrap64_eq_ite]
  split <;> omega

theorem wrap64_of_isInt64 {n : Int} (fits : isInt64 n = true) : wrap64 n = n := by
  rw [isInt64_iff] at fits
  rw [wrap64_eq_ite]
  split <;> omega

theorem wrap64_eq_iff {n m : Int} :
    wrap64 n = m ↔ isInt64 m = true ∧ m ≡ n [ZMOD 18446744073709551616] := by
  rw [isInt64_iff, Int.ModEq, wrap64_eq_ite]
  split <;> omega

theorem wrap64_wrap64_add (m n : Int) : wrap64 (wrap64 m + n) = wrap64 (m + n) := by
  rw [wrap64_eq_iff]
  refine ⟨isInt64_wrap64 _, ?_⟩
  have whole : wrap64 (m + n) ≡ m + n [ZMOD 18446744073709551616] := (wrap64_eq_iff.mp rfl).2
  have part : wrap64 m + n ≡ m + n [ZMOD 18446744073709551616] :=
    (wrap64_eq_iff.mp rfl).2.add_right n
  exact whole.trans part.symm

end Wrapping

/-! ## Sequences as lists of values -/

/-- The first `count` terms of the progression from `initial` by `step` (none when `count` is not
positive), each wrapped into 64 bits. -/
def wrappedProgression (count initial step : Int) : List Int :=
  (List.range count.toNat).map fun k : Nat => wrap64 (initial + k * step)

namespace Stride

variable {s rest : Stride} {v : Int}

@[simp] theorem pop?_zero (next step : Int) : (⟨0, next, step⟩ : Stride).pop? = none := rfl

@[simp] theorem pop?_succ (n : Nat) (next step : Int) :
    (⟨n + 1, next, step⟩ : Stride).pop? = some (next, ⟨n, wrap64 (next + step), step⟩) := rfl

@[simp] theorem values_zero (next step : Int) : (⟨0, next, step⟩ : Stride).values = [] := rfl

theorem values_succ (n : Nat) (next step : Int) :
    (⟨n + 1, next, step⟩ : Stride).values =
      next :: (⟨n, wrap64 (next + step), step⟩ : Stride).values := rfl

@[simp] theorem length_values (s : Stride) : s.values.length = s.remaining := by
  obtain ⟨n, next, step⟩ := s
  induction n generalizing next with
  | zero => rfl
  | succ n ih => simp [values_succ, ih]

theorem pop?_eq_none_iff : s.pop? = none ↔ s.values = [] := by
  obtain ⟨_ | n, next, step⟩ := s <;> simp [values_succ]

theorem pop?_eq_some_iff :
    s.pop? = some (v, rest) ↔
      s.values = v :: rest.values ∧ rest = ⟨s.remaining - 1, wrap64 (s.next + s.step), s.step⟩ := by
  obtain ⟨_ | n, next, step⟩ := s
  · simp
  · simp only [pop?_succ, Option.some.injEq, Prod.mk.injEq, values_succ, List.cons.injEq]
    constructor
    · rintro ⟨rfl, rfl⟩
      exact ⟨⟨rfl, rfl⟩, rfl⟩
    · rintro ⟨⟨rfl, -⟩, rfl⟩
      exact ⟨rfl, rfl⟩

/-- `k` pops give the first `k` values and leave the sequence of the others; once the values
run out, later pops change nothing. -/
theorem take_eq_values (s : Stride) (k : Nat) :
    (s.take k).1 = s.values.take k ∧ (s.take k).2.values = s.values.drop k := by
  induction k generalizing s with
  | zero => simp [take]
  | succ k ih =>
    cases popped : s.pop? with
    | none =>
      have empty := pop?_eq_none_iff.mp popped
      simp [take, popped, empty]
    | some step =>
      obtain ⟨value, after⟩ := step
      obtain ⟨unfolded, -⟩ := pop?_eq_some_iff.mp popped
      obtain ⟨taken, left⟩ := ih after
      simp [take, popped, unfolded, taken, left]

theorem sizeHint_eq_length (s : Stride) : s.sizeHint = (s.values.length, some s.values.length) := by
  simp [sizeHint]

theorem values_eq_wrapped {n : Nat} {next step : Int} (fits : isInt64 next = true) :
    (⟨n, next, step⟩ : Stride).values =
      (List.range n).map fun k : Nat => wrap64 (next + k * step) := by
  induction n generalizing next with
  | zero => rfl
  | succ n ih =>
    rw [values_succ, ih (isInt64_wrap64 _), List.range_succ_eq_map, List.map_cons, List.map_map]
    congr 1
    · simp [wrap64_of_isInt64 fits]
    · refine List.map_congr_left fun k _ => ?_
      simp only [Function.comp_apply, wrap64_wrap64_add]
      congr 1
      push_cast
      ring

theorem values_eq_wrappedProgression {count initial step : Int} (fits : isInt64 initial = true) :
    (start count initial step).values = wrappedProgression count initial step :=
  values_eq_wrapped fits

end Stride

/-! ## Checked sums -/

section Checked

private theorem partialSums_cons {a v : Int} {rest : List Int} (fits : isInt64 a = true) :
    (∀ k ≤ rest.length + 1, isInt64 (a + ((v :: rest).take k).sum) = true) ↔
      ∀ k ≤ rest.length, isInt64 (a + v + (rest.take k).sum) = true := by
  constructor
  · intro all k within
    simpa [add_assoc] using all (k + 1) (by omega)
  · intro all k within
    cases k with
    | zero => simpa using fits
    | succ k => simpa [add_assoc] using all k (by omega)

private theorem foldl_checked_none (vs : List Int) :
    vs.foldl (fun acc v => acc.bind fun s => if isInt64 (s + v) then some (s + v) else none)
      none = none := by
  induction vs with
  | nil => rfl
  | cons v rest ih => exact ih

private theorem foldl_checked_some (vs : List Int) (a : Int) (fits : isInt64 a = true) :
    vs.foldl (fun acc v => acc.bind fun s => if isInt64 (s + v) then some (s + v) else none)
        (some a) =
      if ∀ k ≤ vs.length, isInt64 (a + (vs.take k).sum) = true then some (a + vs.sum)
      else none := by
  induction vs generalizing a with
  | nil => simp [fits]
  | cons v rest ih =>
    rw [List.foldl_cons, Option.bind_some]
    by_cases next : isInt64 (a + v) = true
    · rw [if_pos next, ih (a + v) next]
      exact if_congr (partialSums_cons fits).symm (by rw [List.sum_cons, add_assoc]) rfl
    · rw [if_neg next, foldl_checked_none, if_neg]
      intro all
      exact next (by simpa using all 1 (by simp))

/-- A checked sum is the exact sum when every left-to-right partial sum is a 64-bit integer,
and nothing otherwise. -/
theorem checkedSum_eq (vs : List Int) :
    checkedSum vs =
      if ∀ k ≤ vs.length, isInt64 (vs.take k).sum = true then some vs.sum else none := by
  have fromZero := foldl_checked_some vs 0 (by decide)
  simp only [zero_add] at fromZero
  exact fromZero

example : checkedSum [int64Max, 1, -1] = none := by decide

end Checked

end BalancerSync.Arith
