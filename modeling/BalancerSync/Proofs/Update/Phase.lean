import Mathlib.Data.List.Induction
import BalancerSync.Update.Interleaved

/-!
# What the phase records about a run

Only three steps move the phase: a swap sets `Pending`, a fire turns `Pending` into `Firing`,
and a clear turns `Firing` into `Idle` as its update starts.  So after any run the phase is out
of `Idle` exactly when some caller swapped since the run's last clear (`phase_ne_idle_iff`).

Read one way, this says no signal is lost: a swap that no clear followed leaves the phase
`Pending` or `Firing`, and a `Firing` phase always has its fire event on the way to the
consumer (`signal_never_lost`).  Read the other way, no update runs without a fresh signal:
every update starts after a swap made since the update before it, and updates never outnumber
fires, nor fires swaps, nor swaps the callers (`update_needs_fresh_signal`).
-/

namespace BalancerSync

theorem append_cons_eq_concat_cases {α : Type} {pre post trace : List α} {x last : α}
    (split : pre ++ x :: post = trace ++ [last]) :
    (pre = trace ∧ x = last ∧ post = []) ∨
      ∃ rest, trace = pre ++ x :: rest ∧ post = rest ++ [last] := by
  rcases List.eq_nil_or_concat post with rfl | ⟨rest, y, rfl⟩
  · have parts := List.append_inj' split rfl
    simp only [List.cons.injEq, and_true] at parts
    exact .inl ⟨parts.1, parts.2, rfl⟩
  · rw [List.concat_eq_append, ← List.cons_append, ← List.append_assoc] at split
    have parts := List.append_inj' split rfl
    simp only [List.cons.injEq, and_true] at parts
    exact .inr ⟨rest, parts.1.symm, by rw [parts.2, List.concat_eq_append]⟩

/-- Steps replayed one after another from a start, each of which may be refused: what holds at
the start, and is carried over by every step taken, holds wherever a replay ends. -/
theorem foldl_bind_induction {σ α : Type} {step : σ → α → Option σ} {init : σ}
    (motive : List α → σ → Prop) (start : motive [] init)
    (carry : ∀ {trace s a s'}, motive trace s → step s a = some s' → motive (trace ++ [a]) s')
    {trace : List α} {s : σ}
    (replayed : trace.foldl (fun o a => o.bind (step · a)) (some init) = some s) :
    motive trace s := by
  induction trace using List.reverseRecOn generalizing s with
  | nil =>
    cases replayed
    exact start
  | append_singleton trace a ih =>
    rw [List.foldl_append, List.foldl_cons, List.foldl_nil] at replayed
    cases before : trace.foldl (fun o a => o.bind (step · a)) (some init) with
    | none => simp [before] at replayed
    | some t =>
      rw [before] at replayed
      exact carry (ih before) replayed

namespace Update.Interleaved

variable {trace : List Action} {s s' : State} {action : Action}

/-! ## Runs -/

theorem replay_concat (trace : List Action) (action : Action) :
    replay (trace ++ [action]) = (replay trace).bind (·.step action) := by
  simp [replay, List.foldl_append]

theorem run_iff_replay : Run trace s ↔ replay trace = some s := by
  constructor
  · intro run
    induction run with
    | init => rfl
    | step _ stepped ih =>
      rw [replay_concat, ih]
      exact stepped
  · exact foldl_bind_induction Run .init Run.step

theorem Run.before {pre post : List Action} {x : Action} (run : Run trace s)
    (split : trace = pre ++ x :: post) :
    ∃ t t', Run pre t ∧ t.step x = some t' := by
  induction run generalizing post with
  | init => simp at split
  | @step trace s s' action run stepped ih =>
    rcases append_cons_eq_concat_cases split.symm with ⟨rfl, rfl, -⟩ | ⟨rest, earlier, -⟩
    · exact ⟨s, s', run, stepped⟩
    · exact ih earlier

/-! ## How the phase moves -/

theorem Action.not_moves (keeps : action.movesPhase = false) :
    (∀ i, action ≠ .swap i) ∧ action.isSwap = false ∧ action ≠ .fire ∧ action ≠ .clear := by
  cases action <;> simp_all [Action.movesPhase, Action.isSwap]

/-- Only a swap, a fire and a clear move the phase: a swap to `Pending`, a fire from `Pending`
to `Firing`, a clear from `Firing` to `Idle`. -/
theorem step_phase (stepped : s.step action = some s') :
    (∃ i, action = .swap i ∧ s'.phase = .pending) ∨
      (action = .fire ∧ s.phase = .pending ∧ s'.phase = .firing) ∨
      (action = .clear ∧ s.phase = .firing ∧ s'.phase = .idle) ∨
      (action.movesPhase = false ∧ s'.phase = s.phase) := by
  cases action
  case swap i =>
    obtain ⟨-, rfl⟩ := State.step_swap stepped
    exact .inl ⟨i, rfl, rfl⟩
  case fire =>
    obtain ⟨-, pending, rfl⟩ := State.step_fire stepped
    exact .inr (.inl ⟨rfl, pending, rfl⟩)
  case clear =>
    obtain ⟨-, firing, rfl⟩ := State.step_clear stepped
    exact .inr (.inr (.inl ⟨rfl, firing, rfl⟩))
  all_goals refine .inr (.inr (.inr ⟨rfl, ?_⟩))
  case arrive => obtain ⟨-, -, rfl⟩ := State.step_arrive stepped; rfl
  case offer => obtain ⟨-, ⟨-, rfl⟩ | ⟨-, -, rfl⟩⟩ := State.step_offer stepped <;> rfl
  case release => obtain ⟨-, -, rfl⟩ := State.step_release stepped; rfl
  case start => obtain ⟨-, rfl⟩ := State.step_start stepped; rfl
  case wake => obtain ⟨_, -, -, -, rfl⟩ := State.step_wake stepped; rfl
  case disconnect => obtain ⟨-, -, -, -, rfl⟩ := State.step_disconnect stepped; rfl
  case expire => obtain ⟨-, -, ⟨-, -, rfl⟩ | ⟨-, rfl⟩⟩ := State.step_expire stepped <;> rfl
  case send => obtain ⟨-, -, rfl⟩ := State.step_send stepped; rfl
  case take => obtain ⟨-, -, rfl⟩ := State.step_take stepped; rfl
  case discard => obtain ⟨-, -, rfl⟩ := State.step_discard stepped; rfl
  case finish => obtain ⟨-, rfl⟩ := State.step_finish stepped; rfl
  case stop => obtain ⟨-, -, -, rfl⟩ := State.step_stop stepped; rfl

/-! ## The phase and the swaps since the last clear -/

/-- Some caller swapped the phase after the last clear of the run, or at all when the run has
no clear. -/
def SwappedSinceClear (trace : List Action) : Prop :=
  ∃ pre i post, trace = pre ++ .swap i :: post ∧ .clear ∉ post

theorem not_swappedSinceClear_nil : ¬SwappedSinceClear [] := by
  rintro ⟨pre, i, post, split, -⟩
  simp at split

theorem swappedSinceClear_concat :
    SwappedSinceClear (trace ++ [action]) ↔
      (∃ i, action = .swap i) ∨ (action ≠ .clear ∧ SwappedSinceClear trace) := by
  constructor
  · rintro ⟨pre, i, post, split, noClear⟩
    rcases append_cons_eq_concat_cases split.symm with ⟨-, rfl, -⟩ | ⟨rest, rfl, rfl⟩
    · exact .inl ⟨i, rfl⟩
    · simp only [List.mem_append, List.mem_singleton, not_or] at noClear
      exact .inr ⟨Ne.symm noClear.2, pre, i, rest, rfl, noClear.1⟩
  · rintro (⟨i, rfl⟩ | ⟨notClear, pre, i, post, rfl, noClear⟩)
    · exact ⟨trace, i, [], rfl, List.not_mem_nil⟩
    · refine ⟨pre, i, post ++ [action], by simp, ?_⟩
      simp [noClear, Ne.symm notClear]

theorem phase_ne_idle_iff (run : Run trace s) : s.phase ≠ .idle ↔ SwappedSinceClear trace := by
  induction run with
  | init =>
    simp only [ne_eq, not_true_eq_false, false_iff]
    exact not_swappedSinceClear_nil
  | @step trace s s' action run stepped ih =>
    rw [swappedSinceClear_concat]
    rcases step_phase stepped with
      ⟨i, rfl, pending⟩ | ⟨rfl, pending, firing⟩ | ⟨rfl, -, idle⟩ | ⟨keeps, same⟩
    · simp [pending]
    · have swapped := ih.mp (by simp [pending])
      simp [firing, swapped]
    · simp [idle]
    · obtain ⟨notSwap, -, -, notClear⟩ := Action.not_moves keeps
      rw [same, ih]
      simp [notSwap, notClear]

theorem firing_since_fire (run : Run trace s) (firing : s.phase = .firing) :
    ∃ pre post, trace = pre ++ .fire :: post ∧ ∀ x ∈ post, x.movesPhase = false := by
  induction run with
  | init => cases firing
  | @step trace s s' action run stepped ih =>
    rcases step_phase stepped with
      ⟨i, rfl, pending⟩ | ⟨rfl, -, -⟩ | ⟨rfl, -, idle⟩ | ⟨keeps, same⟩
    · rw [pending] at firing
      cases firing
    · exact ⟨trace, [], rfl, by simp⟩
    · rw [idle] at firing
      cases firing
    · obtain ⟨pre, post, rfl, quiet⟩ := ih (same ▸ firing)
      refine ⟨pre, post ++ [action], by simp, fun x member => ?_⟩
      rcases List.mem_append.mp member with earlier | last
      · exact quiet x earlier
      · rw [List.mem_singleton.mp last]
        exact keeps

/-! ## The fire event behind `Firing` -/

/-- Before the consumer starts nothing of the loop has happened, and afterwards a `Firing`
phase always has its fire event in flight: held by the loop, in the fire channel, or held by
the consumer before its `Firing → Idle` attempt. -/
structure FireInFlight (s : State) : Prop where
  unstarted : s.consumer = .unstarted → s.loop = .unstarted ∧ s.phase ≠ .firing
  inFlight : s.phase = .firing → s.loop = .sending ∨ s.fireQueued = true ∨ s.consumer = .holding

theorem fireInFlight_init : FireInFlight {} where
  unstarted _ := ⟨rfl, by decide⟩
  inFlight firing := by cases firing

theorem FireInFlight.step (inv : FireInFlight s) (stepped : s.step action = some s') :
    FireInFlight s' := by
  cases action with
  | arrive i =>
    obtain ⟨-, -, rfl⟩ := State.step_arrive stepped
    exact ⟨inv.unstarted, inv.inFlight⟩
  | swap i =>
    obtain ⟨-, rfl⟩ := State.step_swap stepped
    exact ⟨fun unstarted => ⟨(inv.unstarted unstarted).1, nofun⟩, nofun⟩
  | offer i =>
    obtain ⟨-, ⟨-, rfl⟩ | ⟨-, -, rfl⟩⟩ := State.step_offer stepped <;>
      exact ⟨inv.unstarted, inv.inFlight⟩
  | release =>
    obtain ⟨-, -, rfl⟩ := State.step_release stepped
    exact ⟨inv.unstarted, inv.inFlight⟩
  | start =>
    obtain ⟨unstarted, rfl⟩ := State.step_start stepped
    exact ⟨nofun, fun firing => absurd firing (inv.unstarted unstarted).2⟩
  | wake =>
    obtain ⟨_, -, -, -, rfl⟩ := State.step_wake stepped
    exact ⟨inv.unstarted, inv.inFlight⟩
  | disconnect =>
    obtain ⟨-, -, -, -, rfl⟩ := State.step_disconnect stepped
    exact ⟨inv.unstarted, inv.inFlight⟩
  | fire =>
    obtain ⟨selecting, -, rfl⟩ := State.step_fire stepped
    refine ⟨fun unstarted => ?_, fun _ => .inl rfl⟩
    have stillUnstarted := (inv.unstarted unstarted).1
    simp [selecting] at stillUnstarted
  | expire =>
    obtain ⟨selecting, -, ⟨-, idle, rfl⟩ | ⟨-, rfl⟩⟩ := State.step_expire stepped
    · refine ⟨fun unstarted => ?_, fun firing => by simp [idle] at firing⟩
      have stillUnstarted := (inv.unstarted unstarted).1
      simp [selecting] at stillUnstarted
    · exact inv
  | send =>
    obtain ⟨sending, -, rfl⟩ := State.step_send stepped
    refine ⟨fun unstarted => ?_, fun _ => .inr (.inl rfl)⟩
    have stillUnstarted := (inv.unstarted unstarted).1
    simp [sending] at stillUnstarted
  | take =>
    obtain ⟨-, -, rfl⟩ := State.step_take stepped
    exact ⟨nofun, fun _ => .inr (.inr rfl)⟩
  | clear =>
    obtain ⟨-, -, rfl⟩ := State.step_clear stepped
    exact ⟨nofun, nofun⟩
  | discard =>
    obtain ⟨-, notFiring, rfl⟩ := State.step_discard stepped
    exact ⟨nofun, fun firing => absurd firing notFiring⟩
  | finish =>
    obtain ⟨updating, rfl⟩ := State.step_finish stepped
    refine ⟨nofun, fun firing => ?_⟩
    rcases inv.inFlight firing with sending | queued | holding
    · exact .inl sending
    · exact .inr (.inl queued)
    · rw [updating] at holding
      cases holding
  | stop =>
    obtain ⟨receiving, returned, empty, rfl⟩ := State.step_stop stepped
    refine ⟨nofun, fun firing => ?_⟩
    rcases inv.inFlight firing with sending | queued | holding <;> simp_all

theorem Run.fireInFlight (run : Run trace s) : FireInFlight s := by
  induction run with
  | init => exact fireInFlight_init
  | step _ stepped inv => exact inv.step stepped

/-! ## Counting updates, fires and swaps -/

/-- A clear uses up the `Firing` phase that a fire set, so the clears, and a `Firing` phase not
yet cleared, never outnumber the fires. -/
theorem clears_add_firing_le_fires (run : Run trace s) :
    trace.count .clear + (if s.phase = .firing then 1 else 0) ≤ trace.count .fire := by
  induction run with
  | init => simp
  | @step trace s s' action run stepped ih =>
    rcases step_phase stepped with
      ⟨i, rfl, pending⟩ | ⟨rfl, pending, firing⟩ | ⟨rfl, firing, idle⟩ | ⟨keeps, same⟩
    · simp only [pending, List.count_append, List.count_singleton]
      split at ih <;> simp <;> omega
    · simp only [pending, reduceCtorEq, if_false] at ih
      simp [firing]
      omega
    · simp only [firing, if_true] at ih
      simp [idle]
      omega
    · obtain ⟨-, -, notFire, notClear⟩ := Action.not_moves keeps
      simpa [same, notFire, notClear] using ih

/-- A fire uses up the `Pending` phase that a swap set, so the fires, and a `Pending` phase not
yet fired, never outnumber the swaps. -/
theorem fires_add_pending_le_swaps (run : Run trace s) :
    trace.count .fire + (if s.phase = .pending then 1 else 0) ≤ trace.countP Action.isSwap := by
  induction run with
  | init => simp
  | @step trace s s' action run stepped ih =>
    rcases step_phase stepped with
      ⟨i, rfl, pending⟩ | ⟨rfl, pending, firing⟩ | ⟨rfl, firing, idle⟩ | ⟨keeps, same⟩
    · simp only [pending, List.count_append, List.countP_append]
      split at ih <;> simp [Action.isSwap] <;> omega
    · simp only [pending, if_true] at ih
      simp [firing, Action.isSwap]
      omega
    · simp only [firing, reduceCtorEq, if_false] at ih
      simpa [idle, Action.isSwap] using ih
    · obtain ⟨-, notSwap, notFire, -⟩ := Action.not_moves keeps
      simpa [same, notSwap, notFire] using ih

private theorem count_entered_set_le (callers : List CallerStage) (i : Nat) (stage : CallerStage)
    (later : stage ≠ .entered) :
    (callers.set i stage).count .entered ≤ callers.count .entered := by
  by_cases inRange : i < callers.length
  · rw [List.count_set inRange]
    simp [later]
  · simp only [List.set_eq_of_length_le (Nat.le_of_not_lt inRange), Nat.le_refl]

/-- Only an arrival and a caller's swap move the callers in or out of the first stage: an
arrival adds a caller there, a swap moves one from there to the next stage, and an offer or a
wake-up moves a caller to a later stage.  Every other step leaves the callers alone. -/
theorem step_callers (stepped : s.step action = some s') :
    (∃ i, action = .arrive i ∧ s'.callers = s.callers ++ [.entered]) ∨
      (∃ i, action = .swap i ∧ s.callers[i]? = some .entered ∧
        s'.callers = s.callers.set i .offering) ∨
      (action.isSwap = false ∧ action.isArrival = false ∧
        (s'.callers = s.callers ∨
          ∃ i stage, stage ≠ .entered ∧ s'.callers = s.callers.set i stage)) := by
  cases action
  case arrive i =>
    obtain ⟨-, -, rfl⟩ := State.step_arrive stepped
    exact .inl ⟨i, rfl, rfl⟩
  case swap i =>
    obtain ⟨entered, rfl⟩ := State.step_swap stepped
    exact .inr (.inl ⟨i, rfl, entered, rfl⟩)
  all_goals refine .inr (.inr ⟨rfl, rfl, ?_⟩)
  case offer i =>
    obtain ⟨-, ⟨-, rfl⟩ | ⟨-, -, rfl⟩⟩ := State.step_offer stepped
    · exact .inr ⟨i, .returned, nofun, rfl⟩
    · exact .inr ⟨i, .awaiting, nofun, rfl⟩
  case wake =>
    obtain ⟨i, -, -, -, rfl⟩ := State.step_wake stepped
    exact .inr ⟨i, .returned, nofun, rfl⟩
  all_goals refine .inl ?_
  case release => obtain ⟨-, -, rfl⟩ := State.step_release stepped; rfl
  case start => obtain ⟨-, rfl⟩ := State.step_start stepped; rfl
  case disconnect => obtain ⟨-, -, -, -, rfl⟩ := State.step_disconnect stepped; rfl
  case fire => obtain ⟨-, -, rfl⟩ := State.step_fire stepped; rfl
  case expire => obtain ⟨-, -, ⟨-, -, rfl⟩ | ⟨-, rfl⟩⟩ := State.step_expire stepped <;> rfl
  case send => obtain ⟨-, -, rfl⟩ := State.step_send stepped; rfl
  case take => obtain ⟨-, -, rfl⟩ := State.step_take stepped; rfl
  case clear => obtain ⟨-, -, rfl⟩ := State.step_clear stepped; rfl
  case discard => obtain ⟨-, -, rfl⟩ := State.step_discard stepped; rfl
  case finish => obtain ⟨-, rfl⟩ := State.step_finish stepped; rfl
  case stop => obtain ⟨-, -, -, rfl⟩ := State.step_stop stepped; rfl

/-- Only a swap moves a caller out of its first stage, and only an arrival adds one there, so
the swaps and the callers still to swap never outnumber the callers that began. -/
theorem swaps_add_entered_le_arrivals (run : Run trace s) :
    trace.countP Action.isSwap + s.callers.count .entered ≤ trace.countP Action.isArrival := by
  induction run with
  | init => simp
  | @step trace s s' action run stepped ih =>
    rcases step_callers stepped with
      ⟨i, rfl, added⟩ | ⟨i, rfl, entered, moved⟩ |
        ⟨notSwap, notArrival, same | ⟨i, stage, later, moved⟩⟩
    · rw [added]
      simp [Action.isSwap, Action.isArrival]
      omega
    · have inRange : i < s.callers.length := (List.getElem?_eq_some_iff.mp entered).1
      have atI : s.callers[i] = .entered := (List.getElem?_eq_some_iff.mp entered).2
      have wasThere : 0 < s.callers.count .entered :=
        List.count_pos_iff.mpr (List.mem_of_getElem? entered)
      simp only [moved, List.countP_append, List.count_set inRange, atI]
      simp [Action.isSwap, Action.isArrival]
      omega
    · simpa [same, List.countP_append, notSwap, notArrival] using ih
    · have fewer := count_entered_set_le s.callers i stage later
      simp only [moved, List.countP_append, List.countP_singleton, notSwap, notArrival]
      simp only [Bool.false_eq_true, if_false]
      omega

/-- Every caller so far began with an arrival. -/
theorem Run.length_callers (run : Run trace s) :
    trace.countP Action.isArrival = s.callers.length := by
  induction run with
  | init => rfl
  | @step trace s s' action run stepped ih =>
    rcases step_callers stepped with
      ⟨i, rfl, added⟩ | ⟨i, rfl, -, moved⟩ | ⟨-, notArrival, same | ⟨i, stage, -, moved⟩⟩
    · simp [added, Action.isArrival, ih]
    · simp [moved, Action.isArrival, ih]
    · simp [same, notArrival, ih]
    · simp [moved, notArrival, ih]

/-! ## Updates -/

/-- The consumer moves only by its own steps: a start from `unstarted`, a take or a stop from
`receiving`, a clear or a discard from `holding`, and a finish from `updating`; a clear also
turns `Firing` into `Idle`. -/
theorem step_consumer (stepped : s.step action = some s') :
    (action = .start ∧ s.consumer = .unstarted ∧ s'.consumer = .receiving) ∨
      (action = .take ∧ s.consumer = .receiving ∧ s'.consumer = .holding) ∨
      (action = .clear ∧ s.consumer = .holding ∧ s.phase = .firing ∧
        s'.consumer = .updating ∧ s'.phase = .idle) ∨
      (action = .discard ∧ s.consumer = .holding ∧ s'.consumer = .receiving) ∨
      (action = .finish ∧ s.consumer = .updating ∧ s'.consumer = .receiving) ∨
      (action = .stop ∧ s.consumer = .receiving ∧ s'.consumer = .finished) ∨
      s'.consumer = s.consumer := by
  cases action
  case start =>
    obtain ⟨unstarted, rfl⟩ := State.step_start stepped
    exact .inl ⟨rfl, unstarted, rfl⟩
  case take =>
    obtain ⟨receiving, -, rfl⟩ := State.step_take stepped
    exact .inr (.inl ⟨rfl, receiving, rfl⟩)
  case clear =>
    obtain ⟨holding, firing, rfl⟩ := State.step_clear stepped
    exact .inr (.inr (.inl ⟨rfl, holding, firing, rfl, rfl⟩))
  case discard =>
    obtain ⟨holding, -, rfl⟩ := State.step_discard stepped
    exact .inr (.inr (.inr (.inl ⟨rfl, holding, rfl⟩)))
  case finish =>
    obtain ⟨updating, rfl⟩ := State.step_finish stepped
    exact .inr (.inr (.inr (.inr (.inl ⟨rfl, updating, rfl⟩))))
  case stop =>
    obtain ⟨receiving, -, -, rfl⟩ := State.step_stop stepped
    exact .inr (.inr (.inr (.inr (.inr (.inl ⟨rfl, receiving, rfl⟩)))))
  all_goals refine .inr (.inr (.inr (.inr (.inr (.inr ?_)))))
  case arrive => obtain ⟨-, -, rfl⟩ := State.step_arrive stepped; rfl
  case swap => obtain ⟨-, rfl⟩ := State.step_swap stepped; rfl
  case offer => obtain ⟨-, ⟨-, rfl⟩ | ⟨-, -, rfl⟩⟩ := State.step_offer stepped <;> rfl
  case release => obtain ⟨-, -, rfl⟩ := State.step_release stepped; rfl
  case wake => obtain ⟨_, -, -, -, rfl⟩ := State.step_wake stepped; rfl
  case disconnect => obtain ⟨-, -, -, -, rfl⟩ := State.step_disconnect stepped; rfl
  case fire => obtain ⟨-, -, rfl⟩ := State.step_fire stepped; rfl
  case expire => obtain ⟨-, -, ⟨-, -, rfl⟩ | ⟨-, rfl⟩⟩ := State.step_expire stepped <;> rfl
  case send => obtain ⟨-, -, rfl⟩ := State.step_send stepped; rfl

/-- The consumer starts the update only in its own clear, which finds `Firing` and leaves
`Idle`: an event taken in any other phase is dropped. -/
theorem update_starts_only_at_clear (stepped : s.step action = some s')
    (before : s.consumer ≠ .updating) (after : s'.consumer = .updating) :
    action = .clear ∧ s.phase = .firing ∧ s'.phase = .idle := by
  rcases step_consumer stepped with
    ⟨-, -, moved⟩ | ⟨-, -, moved⟩ | ⟨rfl, -, firing, -, idle⟩ | ⟨-, -, moved⟩ |
      ⟨-, running, -⟩ | ⟨-, -, moved⟩ | same
  · rw [moved] at after; cases after
  · rw [moved] at after; cases after
  · exact ⟨rfl, firing, idle⟩
  · rw [moved] at after; cases after
  · exact absurd running before
  · rw [moved] at after; cases after
  · exact absurd (same ▸ after) before

theorem update_ends_only_at_finish (stepped : s.step action = some s')
    (before : s.consumer = .updating) (after : s'.consumer ≠ .updating) : action = .finish := by
  rcases step_consumer stepped with
    ⟨-, waiting, -⟩ | ⟨-, waiting, -⟩ | ⟨-, waiting, -⟩ | ⟨-, waiting, -⟩ |
      ⟨rfl, -, -⟩ | ⟨-, waiting, -⟩ | same
  · rw [before] at waiting; cases waiting
  · rw [before] at waiting; cases waiting
  · rw [before] at waiting; cases waiting
  · rw [before] at waiting; cases waiting
  · rfl
  · rw [before] at waiting; cases waiting
  · exact absurd (same ▸ before) after

/-- Every clear of a run comes after a swap made since the clear before it, or since the
start for the first clear. -/
theorem swapped_before_clear (run : Run trace s) {pre post : List Action}
    (split : trace = pre ++ .clear :: post) :
    ∃ before i after, pre = before ++ .swap i :: after ∧ .clear ∉ after := by
  obtain ⟨t, t', reached, cleared⟩ := run.before split
  obtain ⟨-, firing, -⟩ := State.step_clear cleared
  exact (phase_ne_idle_iff reached).mp (by simp [firing])

/-! ## No signal is lost, no update is unjustified -/

/-- No signal is lost.  After a swap that no clear followed, the phase is `Pending` or
`Firing`, so a fire and an update are still to come; and a `Firing` phase always has its fire
event in flight: held by the loop, in the fire channel, or held by the consumer before its
`Firing → Idle` attempt. -/
theorem signal_never_lost (run : Run trace s) :
    (∀ pre i post, trace = pre ++ .swap i :: post → .clear ∉ post →
      s.phase = .pending ∨ s.phase = .firing) ∧
    (s.phase = .firing → s.loop = .sending ∨ s.fireQueued = true ∨ s.consumer = .holding) := by
  refine ⟨fun pre i post split noClear => ?_, run.fireInFlight.inFlight⟩
  have notIdle := (phase_ne_idle_iff run).mpr ⟨pre, i, post, split, noClear⟩
  cases phase : s.phase with
  | idle => exact absurd phase notIdle
  | pending => exact .inl rfl
  | firing => exact .inr rfl

/-- The race the tests pin down: a fire queued behind a running update, a signal between that
fire and its pickup, and the pickup dropped in `Pending`, which a later fire will cover. -/
theorem signal_never_lost_between_fire_and_pickup :
    Run [.arrive 0, .swap 0, .start, .offer 0, .wake, .fire, .send, .take, .clear,
        .arrive 1, .swap 1, .offer 1, .wake, .fire, .send,
        .arrive 2, .swap 2, .finish, .take, .discard]
      { phase := .pending, callers := [.returned, .returned, .offering], loop := .selecting,
        consumer := .receiving } ∧
    ((∀ (pre : List Action) i post,
        [.arrive 0, .swap 0, .start, .offer 0, .wake, .fire, .send, .take, .clear,
          .arrive 1, .swap 1, .offer 1, .wake, .fire, .send,
          .arrive 2, .swap 2, .finish, .take, .discard] = pre ++ .swap i :: post →
        .clear ∉ post → Phase.pending = .pending ∨ Phase.pending = .firing) ∧
      (Phase.pending = .firing →
        LoopStage.selecting = .sending ∨ false = true ∨ ConsumerStage.receiving = .holding)) :=
  have run := run_iff_replay.mpr (by decide)
  ⟨run, signal_never_lost run⟩

/-- No update runs without a fresh signal.  The consumer starts the update only in its own
successful `Firing → Idle`; every clear comes after a swap made since the clear before it (or
since the start); and clears never outnumber fires, fires never outnumber swaps, and swaps never
outnumber the callers that began to signal. -/
theorem update_needs_fresh_signal (run : Run trace s) :
    (∀ {t t' : State} {a : Action}, t.step a = some t' → t.consumer ≠ .updating →
      t'.consumer = .updating → a = .clear ∧ t.phase = .firing ∧ t'.phase = .idle) ∧
    (∀ pre post, trace = pre ++ .clear :: post →
      ∃ before i after, pre = before ++ .swap i :: after ∧ .clear ∉ after) ∧
    trace.count .clear ≤ trace.count .fire ∧
    trace.count .fire ≤ trace.countP Action.isSwap ∧
    trace.countP Action.isSwap ≤ trace.countP Action.isArrival := by
  have clears := clears_add_firing_le_fires run
  have fires := fires_add_pending_le_swaps run
  have swaps := swaps_add_entered_le_arrivals run
  refine ⟨update_starts_only_at_clear, fun _ _ split => swapped_before_clear run split,
    by omega, by omega, by omega⟩

/-- The tests' long update: a second fire queued behind the first update is picked up in
`Idle` and dropped, so two signals give one update. -/
theorem update_needs_fresh_signal_behind_long_update :
    Run [.arrive 0, .swap 0, .start, .offer 0, .wake, .fire, .send, .take, .clear,
        .arrive 1, .swap 1, .offer 1, .wake, .fire, .send]
      { phase := .firing, callers := [.returned, .returned], loop := .selecting,
        fireQueued := true, consumer := .updating } ∧
    ((∀ {t t' : State} {a : Action}, t.step a = some t' → t.consumer ≠ .updating →
        t'.consumer = .updating → a = .clear ∧ t.phase = .firing ∧ t'.phase = .idle) ∧
      (∀ (pre post : List Action),
        [.arrive 0, .swap 0, .start, .offer 0, .wake, .fire, .send, .take, .clear,
          .arrive 1, .swap 1, .offer 1, .wake, .fire, .send] = pre ++ .clear :: post →
        ∃ before i after, pre = before ++ .swap i :: after ∧ .clear ∉ after) ∧
      1 ≤ 2 ∧ 2 ≤ 2 ∧ 2 ≤ 2) :=
  have run := run_iff_replay.mpr (by decide)
  ⟨run, update_needs_fresh_signal run⟩

end Update.Interleaved

end BalancerSync
