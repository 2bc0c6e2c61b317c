import Mathlib
import BalancerSync.Output.Helpers
import BalancerSync.Proofs.Arith.Overflow

/-!
# The number helpers

`IntRange` reads its three arguments in order as 64-bit integers and stops at the first that is
not one, a missing argument counting as not one. It then refuses a count over the limit, and
otherwise gives the array of the values of the sequence. `Add` reads every argument and stops at
the first that is not an integer before adding anything; it then sums with checks, and a partial
sum outside the 64-bit range stops rendering with the overflow panic.

With the laws of `Proofs/Arith/Overflow`, these give the two main statements:
`intRange_yields_wrapped_progression` (the sequence is the wrapped progression, pop by pop, with
exact size bounds, and the helper gives it or the right failure) and `add_sums_exactly_or_panics`.
-/

namespace BalancerSync.Output

open Template Arith

/-! ## IntRange -/

section IntRange

variable {args : List Arg}

theorem intRangeHelper_of_integers {count initial step : Int}
    (first : args[0]?.bind int64Arg? = some count)
    (second : args[1]?.bind int64Arg? = some initial)
    (third : args[2]?.bind int64Arg? = some step) :
    intRangeHelper args =
      if 65536 < count then
        .error (helperFailure "IntRange" ("count " ++ toString count ++ " exceeds the limit of 65536"))
      else .ok (.array ((Stride.start count initial step).values.map Json.int)) := by
  have limitText :
      " exceeds the limit of " ++ toString intRangeLimit = " exceeds the limit of 65536" := by
    decide
  simp only [intRangeHelper, rangeParam, first, second, third, bind, Except.bind,
    String.append_assoc, limitText]
  simp only [intRangeLimit, gt_iff_lt]

theorem intRangeHelper_of_not_integer {i : Nat} (small : i < 3)
    (notInteger : args[i]?.bind int64Arg? = none)
    (before : ∀ m < i, (args[m]?.bind int64Arg?).isSome = true) :
    intRangeHelper args =
      .error (helperFailure "IntRange" ("argument " ++ toString i ++ " must be an integer")) := by
  obtain rfl | rfl | rfl : i = 0 ∨ i = 1 ∨ i = 2 := by omega
  · simp [intRangeHelper, rangeParam, notInteger, bind, Except.bind]
  · obtain ⟨count, first⟩ := Option.isSome_iff_exists.mp (before 0 (by omega))
    simp [intRangeHelper, rangeParam, first, notInteger, bind, Except.bind]
  · obtain ⟨count, first⟩ := Option.isSome_iff_exists.mp (before 0 (by omega))
    obtain ⟨initial, second⟩ := Option.isSome_iff_exists.mp (before 1 (by omega))
    simp [intRangeHelper, rangeParam, first, second, notInteger, bind, Except.bind]

end IntRange

/-! ## Add -/

section Add

variable {args : List Arg}

theorem addends_eq_ok {vs : List Int}
    (reads : List.Forall₂ (fun a v => int64Arg? a = some v) args vs) (index : Nat) :
    addends index args = .ok vs := by
  induction reads generalizing index with
  | nil => rfl
  | cons here _ ih => simp [addends, here, ih, bind, Except.bind]

theorem addends_eq_error {j : Nat} (within : j < args.length)
    (notInteger : args[j]?.bind int64Arg? = none)
    (before : ∀ m < j, (args[m]?.bind int64Arg?).isSome = true) (index : Nat) :
    addends index args =
      .error (helperFailure "Add" ("argument " ++ toString (index + j) ++ " is not an integer")) := by
  induction args generalizing index j with
  | nil => simp at within
  | cons a rest ih =>
    cases j with
    | zero =>
      have here : int64Arg? a = none := by simpa using notInteger
      simp [addends, here]
    | succ j =>
      obtain ⟨n, here⟩ := Option.isSome_iff_exists.mp (by simpa using before 0 (by omega))
      have later := ih (by simpa using within) (by simpa using notInteger)
        (fun m earlier => by simpa using before (m + 1) (by omega)) (index + 1)
      rw [show index + 1 + j = index + (j + 1) by omega] at later
      simp [addends, here, later, bind, Except.bind]

theorem addHelper_of_integers {vs : List Int}
    (reads : List.Forall₂ (fun a v => int64Arg? a = some v) args vs) :
    addHelper args =
      if ∀ k ≤ vs.length, isInt64 (vs.take k).sum = true then .ok (Json.int vs.sum)
      else .error (.panic "attempt to add with overflow") := by
  simp only [addHelper, addends_eq_ok reads, bind, Except.bind, checkedSum_eq]
  by_cases fits : ∀ k ≤ vs.length, isInt64 (vs.take k).sum = true
  · simp only [if_pos fits]
  · simp only [if_neg fits]

theorem addHelper_of_not_integer {j : Nat} (within : j < args.length)
    (notInteger : args[j]?.bind int64Arg? = none)
    (before : ∀ m < j, (args[m]?.bind int64Arg?).isSome = true) :
    addHelper args =
      .error (helperFailure "Add" ("argument " ++ toString j ++ " is not an integer")) := by
  have stopped := addends_eq_error within notInteger before 0
  rw [Nat.zero_add] at stopped
  simp [addHelper, stopped, bind, Except.bind]

end Add

/-! ## The main statements -/

/-- `IntRange` is exact for every 64-bit start. The sequence of `count`, `initial` and `step`
has the values of the wrapped progression, `max count 0` of them. After `j` pops the next pop
gives the `j`-th value, or nothing once they are used up, and the size bounds are both the number
of values still to come. The helper, given the three as integer arguments, gives the array of
those values or refuses a count over the limit; otherwise it fails naming the first of its
three arguments that is not an integer. -/
theorem intRange_yields_wrapped_progression (count initial step : Int)
    (initialFits : isInt64 initial = true) :
    ((Stride.start count initial step).values = wrappedProgression count initial step ∧
      ∀ j : Nat,
        ((Stride.start count initial step).take j).2.pop?.map Prod.fst =
            (wrappedProgression count initial step)[j]? ∧
          ((Stride.start count initial step).take j).2.sizeHint =
            (((wrappedProgression count initial step).drop j).length,
              some ((wrappedProgression count initial step).drop j).length)) ∧
    (∀ args : List Arg, args[0]?.bind int64Arg? = some count →
      args[1]?.bind int64Arg? = some initial → args[2]?.bind int64Arg? = some step →
      intRangeHelper args =
        if 65536 < count then
          .error (helperFailure "IntRange"
            ("count " ++ toString count ++ " exceeds the limit of 65536"))
        else .ok (.array ((wrappedProgression count initial step).map Json.int))) ∧
    ∀ (args : List Arg) (i : Nat), i < 3 → args[i]?.bind int64Arg? = none →
      (∀ m < i, (args[m]?.bind int64Arg?).isSome = true) →
      intRangeHelper args =
        .error (helperFailure "IntRange" ("argument " ++ toString i ++ " must be an integer")) := by
  have values : (Stride.start count initial step).values = wrappedProgression count initial step :=
    Stride.values_eq_wrappedProgression initialFits
  refine ⟨⟨values, fun j => ?_⟩, fun args first second third => ?_,
    fun args i small notInteger before => intRangeHelper_of_not_integer small notInteger before⟩
  · obtain ⟨-, left⟩ := Stride.take_eq_values (Stride.start count initial step) j
    rw [values] at left
    refine ⟨?_, by rw [Stride.sizeHint_eq_length, left]⟩
    cases popped : ((Stride.start count initial step).take j).2.pop? with
    | none =>
      have empty := Stride.pop?_eq_none_iff.mp popped
      rw [left, List.drop_eq_nil_iff] at empty
      simp [List.getElem?_eq_none empty]
    | some step =>
      obtain ⟨unfolded, -⟩ := Stride.pop?_eq_some_iff.mp popped
      rw [left] at unfolded
      simp [← List.head?_drop, unfolded]
  · rw [intRangeHelper_of_integers first second third, values]

/-- A run across the top of the range: `9223372036854775806`, `9223372036854775807`, then
`-9223372036854775808`. -/
theorem intRange_yields_wrapped_progression_across_max :
    isInt64 9223372036854775806 = true ∧
    ((Stride.start 3 9223372036854775806 1).values = wrappedProgression 3 9223372036854775806 1 ∧
      ∀ j : Nat,
        ((Stride.start 3 9223372036854775806 1).take j).2.pop?.map Prod.fst =
            (wrappedProgression 3 9223372036854775806 1)[j]? ∧
          ((Stride.start 3 9223372036854775806 1).take j).2.sizeHint =
            (((wrappedProgression 3 9223372036854775806 1).drop j).length,
              some ((wrappedProgression 3 9223372036854775806 1).drop j).length)) ∧
    (∀ args : List Arg, args[0]?.bind int64Arg? = some 3 →
      args[1]?.bind int64Arg? = some 9223372036854775806 → args[2]?.bind int64Arg? = some 1 →
      intRangeHelper args =
        if 65536 < (3 : Int) then
          .error (helperFailure "IntRange"
            ("count " ++ toString (3 : Int) ++ " exceeds the limit of 65536"))
        else .ok (.array ((wrappedProgression 3 9223372036854775806 1).map Json.int))) ∧
    ∀ (args : List Arg) (i : Nat), i < 3 → args[i]?.bind int64Arg? = none →
      (∀ m < i, (args[m]?.bind int64Arg?).isSome = true) →
      intRangeHelper args =
        .error (helperFailure "IntRange" ("argument " ++ toString i ++ " must be an integer")) :=
  ⟨by decide, intRange_yields_wrapped_progression 3 9223372036854775806 1 (by decide)⟩

example : wrappedProgression 3 9223372036854775806 1 =
    [9223372036854775806, 9223372036854775807, -9223372036854775808] := by decide

/-- `Add` sums exactly or stops. The checked sum of any integers is their sum when every
left-to-right partial sum is a 64-bit integer and nothing otherwise, so `Add` on integer
arguments gives the sum, `0` for none, or stops with the overflow panic, even when the total
would fit again. An argument that is not an integer stops it first, named by its place,
whatever the integers before it would sum to. -/
theorem add_sums_exactly_or_panics :
    (∀ vs : List Int, checkedSum vs =
      if ∀ k ≤ vs.length, isInt64 (vs.take k).sum = true then some vs.sum else none) ∧
    ∀ args : List Arg,
      (∀ vs : List Int, List.Forall₂ (fun a v => int64Arg? a = some v) args vs →
        addHelper args =
          if ∀ k ≤ vs.length, isInt64 (vs.take k).sum = true then .ok (Json.int vs.sum)
          else .error (.panic "attempt to add with overflow")) ∧
      ∀ j < args.length, args[j]?.bind int64Arg? = none →
        (∀ m < j, (args[m]?.bind int64Arg?).isSome = true) →
        addHelper args =
          .error (helperFailure "Add" ("argument " ++ toString j ++ " is not an integer")) :=
  ⟨checkedSum_eq, fun _ => ⟨fun _ reads => addHelper_of_integers reads,
    fun _ within notInteger before => addHelper_of_not_integer within notInteger before⟩⟩

/-- The largest 64-bit integer, then `1` and `-1`: the total fits, the second partial sum does
not. A text after an integer stops `Add` at argument `1`. -/
theorem add_sums_exactly_or_panics_overflow_then_text :
    checkedSum [9223372036854775807, 1, -1] = none ∧
    addHelper [⟨none, .constant (Json.int 9223372036854775807)⟩, ⟨none, .constant (Json.int 1)⟩,
        ⟨none, .constant (Json.int (-1))⟩] =
      .error (.panic "attempt to add with overflow") ∧
    addHelper [⟨none, .constant (Json.int 5)⟩, ⟨none, .constant (.string "x")⟩] =
      .error (helperFailure "Add" "argument 1 is not an integer") := by
  obtain ⟨sums, helper⟩ := add_sums_exactly_or_panics
  have overflows : ¬ ∀ k ≤ [(9223372036854775807 : Int), 1, -1].length,
      isInt64 ([(9223372036854775807 : Int), 1, -1].take k).sum = true := by
    intro all
    exact absurd (all 2 (by decide)) (by decide)
  refine ⟨by rw [sums, if_neg overflows], ?_, ?_⟩
  · rw [(helper _).1 [9223372036854775807, 1, -1] (.cons rfl (.cons rfl (.cons rfl .nil))),
      if_neg overflows]
  · exact (helper _).2 1 (by decide) rfl (fun m earlier => by
      obtain rfl : m = 0 := by omega
      rfl)

end BalancerSync.Output
