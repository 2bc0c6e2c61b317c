import BalancerSync.Update.Timeline
import BalancerSync.Proofs.Update.Debounce

/-!
# The paused-clock coordinator refines the clocked one

`Coordinator` runs the parties of the coordinator on a paused clock and folds several of their
atomic steps into one operation: an expiry in `Pending` fires and, when the channel has room,
sends; a take puts the fire event the loop held into the channel; a loop in its select sees a
dropped handle at once.  Each operation at a moment is matched by steps of the clocked model
taken at that moment (`Follows`), from every state of the model that the coordinator stands for
(`Refines`) to one that the result stands for, with the update starts the operation records as
the clears among those steps.  A signal's swap and its wake-up, and the drop of the last
handle, are matched the same way together with the callers they concern
(`markPending_refines`, `wake_refines`, `closeHandles_refines`).
-/

namespace BalancerSync.Update

open Interleaved

/-- The stage of the interleaved loop that a loop status stands for. -/
@[simp] def LoopStatus.stage : LoopStatus → LoopStage
  | .unstarted => .unstarted
  | .waiting _ => .selecting
  | .sending => .sending
  | .finished => .returned

/-- The stage of the interleaved consumer that a consumer status stands for. -/
@[simp] def ConsumerStatus.stage : ConsumerStatus → ConsumerStage
  | .unstarted => .unstarted
  | .receiving => .receiving
  | .updating _ => .updating
  | .finished | .cancelled => .finished

namespace Coordinator

/-- The interleaved state a coordinator stands for, given the callers so far and whether its
loop still listens to the wake channel. -/
def abstract (c : Coordinator) (callers : List CallerStage) (listens : Bool) : State where
  phase := c.phase
  callers := callers
  handlesHeld := c.handlesOpen
  loop := c.loop.stage
  handlesOpen := listens
  fireQueued := c.fireQueued
  consumer := c.consumer.stage

@[simp] theorem abstract_callers (c : Coordinator) (callers : List CallerStage) (listens : Bool) :
    (c.abstract callers listens).callers = callers := rfl

/-- What a coordinator whose consumer is never stopped keeps: a loop holding a fire event has
one queued ahead of it, the consumer returns only after the loop, the loop returns only after
the handles are dropped, and the loop and the consumer start together. -/
structure Coherent (c : Coordinator) : Prop where
  running : c.consumer ≠ .cancelled
  sendingQueued : c.loop = .sending → c.fireQueued = true
  finishedReturned : c.consumer = .finished → c.loop = .finished
  finishedClosed : c.loop = .finished → c.handlesOpen = false
  unstartedLoop : c.loop = .unstarted → c.consumer = .unstarted
  unstartedConsumer : c.consumer = .unstarted → c.loop = .unstarted

end Coordinator

/-- A window that started at `start` ends at the loop's deadline. -/
def WindowFrom (c : Coordinator) (start : Nat) : Prop :=
  ∀ deadline, c.loop = .waiting deadline → start + c.quiescence = deadline

/-- The loop listens exactly while the handles are open, unless it has not been back in its
select since they were dropped. -/
def ListensAs (c : Coordinator) (listens : Bool) : Prop :=
  listens = c.handlesOpen ∨ listens = true ∧ (c.loop = .unstarted ∨ c.loop = .sending)

/-- The clocked state `k` is one that `c` stands for. -/
structure Refines (c : Coordinator) (k : Clocked) : Prop where
  state : k.state = c.abstract k.state.callers k.state.handlesOpen
  window : WindowFrom c k.windowStart
  listens : ListensAs c k.state.handlesOpen

theorem Refines.of_abstract {c : Coordinator} {callers : List CallerStage} {listens : Bool}
    {now start : Nat} (window : WindowFrom c start) (listening : ListensAs c listens) :
    Refines c ⟨c.abstract callers listens, now, start⟩ :=
  ⟨rfl, window, listening⟩

/-- A statement about every clocked state that `c` stands for is one about its abstractions. -/
@[elab_as_elim]
theorem Refines.induct {c : Coordinator} {P : Clocked → Prop} {k : Clocked}
    (refines : Refines c k)
    (abstracted : ∀ (callers : List CallerStage) (listens : Bool) (now start : Nat),
      WindowFrom c start → ListensAs c listens → P ⟨c.abstract callers listens, now, start⟩) :
    P k := by
  obtain ⟨s, now, start⟩ := k
  have holds := abstracted s.callers s.handlesOpen now start refines.window refines.listens
  rw [← refines.state] at holds
  exact holds

/-- The times of the clears among timed steps, the starts of the updates they begin. -/
def clearTimes (log : List Stamped) : List Nat :=
  (log.filter fun x => decide (x.action = .clear)).map Stamped.time

@[simp] theorem clearTimes_nil : clearTimes [] = [] := rfl

@[simp] theorem clearTimes_cons (x : Stamped) (log : List Stamped) :
    clearTimes (x :: log) =
      (if x.action = .clear then [x.time] else []) ++ clearTimes log := by
  by_cases cleared : x.action = .clear <;> simp [clearTimes, cleared]

@[simp] theorem clearTimes_append (log log' : List Stamped) :
    clearTimes (log ++ log') = clearTimes log ++ clearTimes log' := by
  simp [clearTimes, List.filter_append]

namespace Interleaved.Clocked

/-- Timed steps taken one after another from `k` lead to `k'`. -/
def Steps (quiescence : Nat) (k : Clocked) (xs : List Stamped) (k' : Clocked) : Prop :=
  xs.foldl (fun o x => o.bind (·.step quiescence x)) (some k) = some k'

variable {quiescence : Nat} {k k' k'' : Clocked} {xs ys log : List Stamped}

theorem foldl_step_none (xs : List Stamped) :
    xs.foldl (fun (o : Option Clocked) x => o.bind (·.step quiescence x)) none = none := by
  induction xs with
  | nil => rfl
  | cons x xs ih => exact ih

theorem Steps.append (first : Steps quiescence k xs k') (second : Steps quiescence k' ys k'') :
    Steps quiescence k (xs ++ ys) k'' := by
  unfold Steps at *
  rw [List.foldl_append, first]
  exact second

theorem Run.steps (run : Run quiescence log k) (steps : Steps quiescence k xs k') :
    Run quiescence (log ++ xs) k' := by
  induction xs generalizing log k with
  | nil =>
    cases steps
    simpa using run
  | cons x xs ih =>
    unfold Steps at steps
    rw [List.foldl_cons, Option.bind_some] at steps
    cases stepped : k.step quiescence x with
    | none =>
      rw [stepped] at steps
      simp [foldl_step_none] at steps
    | some next =>
      rw [stepped] at steps
      have later := ih (run.step stepped) steps
      simpa using later

theorem Steps.now_le {now : Nat} (steps : Steps quiescence k xs k')
    (times : ∀ x ∈ xs, x.time = now) (onTime : k.now ≤ now) : k'.now ≤ now := by
  induction xs generalizing k with
  | nil =>
    cases steps
    exact onTime
  | cons x xs ih =>
    unfold Steps at steps
    rw [List.foldl_cons, Option.bind_some] at steps
    cases stepped : k.step quiescence x with
    | none =>
      rw [stepped] at steps
      simp [foldl_step_none] at steps
    | some next =>
      rw [stepped] at steps
      obtain ⟨-, -, s, -, rfl⟩ := step_eq_some stepped
      exact ih steps (fun y member => times y (List.mem_cons_of_mem x member))
        (Nat.le_of_eq (times x List.mem_cons_self))

end Interleaved.Clocked

/-! ## Operations matched by steps -/

/-- One operation of the coordinator at `now`, from `c` to `c'`, is matched in the clocked model:
from every state that `c` stands for, at a time no later than `now`, steps taken at `now` lead
to a state that `c'` stands for, leave the callers as they were, and clear exactly at the update
starts that `c'` adds. -/
def Follows (now : Nat) (c c' : Coordinator) : Prop :=
  c'.quiescence = c.quiescence ∧
  ∀ k : Clocked, Refines c k → k.now ≤ now → ∃ xs k', Clocked.Steps c.quiescence k xs k' ∧
    (∀ x ∈ xs, x.time = now) ∧ Refines c' k' ∧ k'.now ≤ now ∧
    k'.state.callers = k.state.callers ∧ c'.starts = c.starts ++ clearTimes xs

namespace Follows

variable {now : Nat} {c c' c'' : Coordinator}

theorem of_eq (same : c' = c) : Follows now c c' := by
  subst same
  refine ⟨rfl, fun k refines onTime => ⟨[], k, rfl, by simp, refines, onTime, rfl, by simp⟩⟩

theorem trans (first : Follows now c c') (second : Follows now c' c'') : Follows now c c'' := by
  refine ⟨second.1.trans first.1, fun k refines onTime => ?_⟩
  obtain ⟨xs, k', steps, times, refines', onTime', callers, starts⟩ := first.2 k refines onTime
  obtain ⟨ys, k'', steps', times', refines'', onTime'', callers', starts'⟩ :=
    second.2 k' refines' onTime'
  rw [first.1] at steps'
  refine ⟨xs ++ ys, k'', steps.append steps', fun x member => ?_, refines'', onTime'',
    callers'.trans callers, by rw [starts', starts, clearTimes_append, List.append_assoc]⟩
  rcases List.mem_append.mp member with early | late
  · exact times x early
  · exact times' x late

theorem intro (same : c'.quiescence = c.quiescence)
    (steps : ∀ (callers : List CallerStage) (listens : Bool) (kn start : Nat), ¬ now < kn →
      WindowFrom c start → ListensAs c listens →
      ∃ xs k', Clocked.Steps c.quiescence ⟨c.abstract callers listens, kn, start⟩ xs k' ∧
        (∀ x ∈ xs, x.time = now) ∧ Refines c' k' ∧ k'.now ≤ now ∧
        k'.state.callers = callers ∧ c'.starts = c.starts ++ clearTimes xs) :
    Follows now c c' := by
  refine ⟨same, fun k refines => ?_⟩
  refine refines.induct fun callers listens kn start window listening onTime => ?_
  exact steps callers listens kn start (Nat.not_lt.mpr onTime) window listening

end Follows

namespace Coordinator

variable {c : Coordinator} {now : Nat}

theorem begin_frame :
    (c.begin now).quiescence = c.quiescence ∧ (c.begin now).handlesOpen = c.handlesOpen := by
  unfold begin
  split <;> exact ⟨rfl, rfl⟩

theorem take_frame :
    (c.take now).quiescence = c.quiescence ∧ (c.take now).handlesOpen = c.handlesOpen := by
  unfold take
  split <;> dsimp only <;> split <;> exact ⟨rfl, rfl⟩

theorem expire_frame :
    (c.expire now).quiescence = c.quiescence ∧ (c.expire now).handlesOpen = c.handlesOpen ∧
      (c.expire now).consumer = c.consumer := by
  unfold expire
  split
  · dsimp only
    split
    · exact ⟨rfl, rfl, rfl⟩
    · split <;> exact ⟨rfl, rfl, rfl⟩
  · split <;> exact ⟨rfl, rfl, rfl⟩

theorem wake_frame :
    (c.wake now).quiescence = c.quiescence ∧ (c.wake now).handlesOpen = c.handlesOpen ∧
      (c.wake now).starts = c.starts := by
  unfold wake
  split <;> exact ⟨rfl, rfl, rfl⟩

@[simp] theorem quiescence_begin : (c.begin now).quiescence = c.quiescence := begin_frame.1

@[simp] theorem handlesOpen_begin : (c.begin now).handlesOpen = c.handlesOpen := begin_frame.2

@[simp] theorem quiescence_take : (c.take now).quiescence = c.quiescence := take_frame.1

@[simp] theorem handlesOpen_take : (c.take now).handlesOpen = c.handlesOpen := take_frame.2

@[simp] theorem quiescence_expire : (c.expire now).quiescence = c.quiescence := expire_frame.1

@[simp] theorem handlesOpen_expire : (c.expire now).handlesOpen = c.handlesOpen :=
  expire_frame.2.1

@[simp] theorem consumer_expire : (c.expire now).consumer = c.consumer := expire_frame.2.2

@[simp] theorem quiescence_wake : (c.wake now).quiescence = c.quiescence := wake_frame.1

@[simp] theorem handlesOpen_wake : (c.wake now).handlesOpen = c.handlesOpen := wake_frame.2.1

@[simp] theorem starts_wake : (c.wake now).starts = c.starts := wake_frame.2.2

theorem due_iff : c.due now = true ↔ ∃ deadline, c.loop = .waiting deadline ∧ deadline ≤ now := by
  unfold due
  cases c.loop <;> simp

theorem take_of_not_sending (notSending : c.loop ≠ .sending) :
    c.take now =
      if c.phase = .firing then
        { c with fireQueued := false, phase := .idle,
                 consumer := .updating (now + c.workOf c.started), starts := c.starts ++ [now] }
      else { c with fireQueued := false } := by
  unfold take
  cases loop : c.loop
  case sending => exact absurd loop notSending
  all_goals by_cases firing : c.phase = .firing <;> simp [Phase.swapIf, firing, workOf, started]

/-- An expiry in `Pending` with the consumer still there fires: the event goes into the channel
when it has room and a new window starts, or the loop holds it. -/
theorem expire_of_pending (pending : c.phase = .pending) (running : c.consumerDone = false) :
    c.expire now =
      if c.fireQueued then { c with phase := .firing, loop := .sending }
      else
        { c with phase := .firing, fireQueued := true, loop := .waiting (now + c.quiescence) } := by
  have stillRunning : ({ c with phase := .firing } : Coordinator).consumerDone = false := running
  unfold expire
  simp only [pending, Phase.swapIf, if_pos, stillRunning]
  rfl

theorem expire_of_not_pending (notPending : c.phase ≠ .pending) :
    c.expire now =
      if c.handlesOpen = false ∧ c.phase = .idle then { c with loop := .finished }
      else { c with loop := .waiting (now + c.quiescence) } := by
  unfold expire
  simp [Phase.swapIf, notPending]

end Coordinator

section Operations

variable {c : Coordinator} {now : Nat} {callers : List CallerStage} {listens : Bool}

theorem WindowFrom.of_waiting {start : Nat} (waiting : c.loop = .waiting (start + c.quiescence)) :
    WindowFrom c start := by
  intro deadline loop
  rw [waiting] at loop
  cases loop
  rfl

theorem ListensAs.closed (listening : ListensAs c listens) (off : listens = false) :
    c.handlesOpen = false := by
  rcases listening with same | ⟨on, -⟩
  · rw [← same]
    exact off
  · rw [on] at off
    cases off

theorem ListensAs.eq_of_waiting {deadline : Nat} (listening : ListensAs c listens)
    (waiting : c.loop = .waiting deadline) : listens = c.handlesOpen := by
  rcases listening with same | ⟨-, unstarted | sending⟩
  · exact same
  · rw [waiting] at unstarted
    cases unstarted
  · rw [waiting] at sending
    cases sending

/-- A loop back in its select whose handles were dropped meanwhile finds the wake channel
closed at once, which starts its window again at the same moment. -/
theorem steps_listen (now : Nat) (callers : List CallerStage) {deadline : Nat}
    (waiting : c.loop = .waiting deadline) (closed : listens = false → c.handlesOpen = false) :
    ∃ xs, (∀ x ∈ xs, x.time = now) ∧ clearTimes xs = [] ∧
      Clocked.Steps c.quiescence ⟨c.abstract callers listens, now, now⟩ xs
        ⟨c.abstract callers c.handlesOpen, now, now⟩ := by
  cases listening : listens <;> cases held : c.handlesOpen
  · exact ⟨[], by simp, rfl, rfl⟩
  · exact absurd (closed listening) (by simp [held])
  · refine ⟨[⟨now, .disconnect⟩], by simp, by simp, ?_⟩
    simp [Clocked.Steps, Clocked.step, State.step, Coordinator.abstract, Action.endsWindow,
      Action.restartsWindow, waiting, held]
  · exact ⟨[], by simp, rfl, rfl⟩

theorem begin_follows : Follows now c (c.begin now) := by
  cases consumer : c.consumer with
  | unstarted =>
    refine Follows.intro Coordinator.quiescence_begin
      fun callers listens kn start late _ listening => ?_
    have waiting : (c.begin now).loop = .waiting (now + c.quiescence) := by
      simp [Coordinator.begin, consumer]
    have started : Clocked.Steps c.quiescence ⟨c.abstract callers listens, kn, start⟩
        [⟨now, .start⟩] ⟨(c.begin now).abstract callers listens, now, now⟩ := by
      simp [Clocked.Steps, Clocked.step, State.step, Coordinator.abstract, Coordinator.begin,
        Action.endsWindow, Action.restartsWindow, consumer, late]
    have closed : listens = false → (c.begin now).handlesOpen = false := by
      intro off
      simpa [Coordinator.begin, consumer] using listening.closed off
    obtain ⟨xs, times, cleared, listened⟩ := steps_listen now callers waiting closed
    rw [Coordinator.quiescence_begin] at listened
    refine ⟨[⟨now, .start⟩] ++ xs, _, started.append listened, ?_,
      Refines.of_abstract (.of_waiting (by simpa using waiting)) (.inl rfl), Nat.le_refl now, rfl,
      by simp [Coordinator.begin, consumer, cleared]⟩
    intro x member
    rcases List.mem_cons.mp member with first | later
    · rw [first]
    · exact times x later
  | _ => exact Follows.of_eq (by simp [Coordinator.begin, consumer])

/-- A take that finds the loop holding a fire event is the take, the loop's send, and the
consumer's attempt on its phase. -/
theorem take_follows_held (receiving : c.consumer = .receiving) (queued : c.fireQueued = true)
    (sending : c.loop = .sending) : Follows now c (c.take now) := by
  refine Follows.intro Coordinator.quiescence_take
    fun callers listens kn start late _ listening => ?_
  have waiting : (c.take now).loop = .waiting (now + c.quiescence) := by
    unfold Coordinator.take
    simp only [sending]
    split <;> rfl
  have closed : listens = false → (c.take now).handlesOpen = false := by
    intro off
    rw [Coordinator.handlesOpen_take]
    exact listening.closed off
  obtain ⟨xs, times, cleared, listened⟩ := steps_listen now callers waiting closed
  rw [Coordinator.quiescence_take] at listened
  have attempt : ∃ x : Stamped, x.time = now ∧
      (c.take now).starts = c.starts ++ clearTimes [x] ∧
      Clocked.Steps c.quiescence ⟨c.abstract callers listens, kn, start⟩
        [⟨now, .take⟩, ⟨now, .send⟩, x] ⟨(c.take now).abstract callers listens, now, now⟩ := by
    by_cases firing : c.phase = .firing
    · refine ⟨⟨now, .clear⟩, rfl, ?_, ?_⟩
      · simp [Coordinator.take, sending, firing, Phase.swapIf]
      · simp [Clocked.Steps, Clocked.step, State.step, Coordinator.abstract, Coordinator.take,
          Phase.swapIf, Action.endsWindow, Action.restartsWindow, receiving, queued, sending,
          firing, late]
    · refine ⟨⟨now, .discard⟩, rfl, ?_, ?_⟩
      · simp [Coordinator.take, sending, firing, Phase.swapIf]
      · simp [Clocked.Steps, Clocked.step, State.step, Coordinator.abstract, Coordinator.take,
          Phase.swapIf, Action.endsWindow, Action.restartsWindow, receiving, queued, sending,
          firing, late]
  obtain ⟨x, stamped, starts, taken⟩ := attempt
  refine ⟨_ ++ xs, _, taken.append listened, ?_,
    Refines.of_abstract (.of_waiting (by simpa using waiting)) (.inl rfl), Nat.le_refl now, rfl,
    by simp [starts, cleared]⟩
  intro y member
  simp only [List.cons_append, List.mem_cons] at member
  rcases member with first | second | third | later
  · rw [first]
  · rw [second]
  · rw [third, stamped]
  · exact times y later

theorem take_follows_queued (receiving : c.consumer = .receiving) (queued : c.fireQueued = true)
    (notSending : c.loop ≠ .sending) : Follows now c (c.take now) := by
  refine Follows.intro Coordinator.quiescence_take
    fun callers listens kn start late window listening => ?_
  rw [Coordinator.take_of_not_sending notSending]
  by_cases firing : c.phase = .firing
  · rw [if_pos firing]
    refine ⟨[⟨now, .take⟩, ⟨now, .clear⟩], ⟨Coordinator.abstract { c with
      fireQueued := false, phase := .idle, consumer := .updating (now + c.workOf c.started),
      starts := c.starts ++ [now] } callers listens, now, start⟩, ?_, by simp,
      Refines.of_abstract window listening, Nat.le_refl now, rfl, by simp⟩
    simp [Clocked.Steps, Clocked.step, State.step, Coordinator.abstract, Action.endsWindow,
      Action.restartsWindow, receiving, queued, firing, late]
  · rw [if_neg firing]
    refine ⟨[⟨now, .take⟩, ⟨now, .discard⟩],
      ⟨Coordinator.abstract { c with fireQueued := false } callers listens, now, start⟩, ?_,
      by simp, Refines.of_abstract window listening, Nat.le_refl now, rfl, by simp⟩
    simp [Clocked.Steps, Clocked.step, State.step, Coordinator.abstract, Action.endsWindow,
      Action.restartsWindow, receiving, queued, firing, late]

theorem take_follows (receiving : c.consumer = .receiving) (queued : c.fireQueued = true) :
    Follows now c (c.take now) := by
  by_cases sending : c.loop = .sending
  · exact take_follows_held receiving queued sending
  · exact take_follows_queued receiving queued sending

/-- Every consumer step is matched: the end of an update, a take, or the consumer's return. -/
theorem consumerStep?_follows {c' : Coordinator}
    (stepped : c.consumerStep? now = some c') : Follows now c c' := by
  unfold Coordinator.consumerStep? at stepped
  cases consumer : c.consumer with
  | updating finish =>
    simp only [consumer, Option.ite_none_right_eq_some, Option.some.injEq] at stepped
    obtain ⟨due, rfl⟩ := stepped
    refine Follows.intro rfl fun callers listens kn start late window listening => ?_
    refine ⟨[⟨now, .finish⟩],
      ⟨Coordinator.abstract { c with consumer := .receiving, ends := c.ends ++ [finish] }
        callers listens, now, start⟩,
      ?_, by simp, Refines.of_abstract window listening, Nat.le_refl now, rfl, by simp⟩
    simp [Clocked.Steps, Clocked.step, State.step, Coordinator.abstract, Action.endsWindow,
      Action.restartsWindow, consumer, late]
  | receiving =>
    simp only [consumer] at stepped
    by_cases queued : c.fireQueued = true
    · rw [if_pos queued, Option.some.injEq] at stepped
      rw [← stepped]
      exact take_follows consumer queued
    · rw [if_neg queued, Option.ite_none_right_eq_some, Option.some.injEq] at stepped
      obtain ⟨finished, rfl⟩ := stepped
      refine Follows.intro rfl fun callers listens kn start late window listening => ?_
      refine ⟨[⟨now, .stop⟩], ⟨Coordinator.abstract { c with consumer := .finished }
        callers listens, now, start⟩, ?_, by simp, Refines.of_abstract window listening,
        Nat.le_refl now, rfl, by simp⟩
      simp [Clocked.Steps, Clocked.step, State.step, Coordinator.abstract, Action.endsWindow,
        Action.restartsWindow, consumer, queued, finished, late]
  | _ => simp [consumer] at stepped

theorem Coordinator.Coherent.consumerDone_of_waiting {deadline : Nat} (coherent : c.Coherent)
    (waiting : c.loop = .waiting deadline) : c.consumerDone = false := by
  unfold Coordinator.consumerDone
  cases consumer : c.consumer with
  | finished =>
    rw [coherent.finishedReturned consumer] at waiting
    cases waiting
  | cancelled => exact absurd consumer coherent.running
  | _ => rfl

/-- An expiry that is due is the end of the window: a fire, followed by its send when the
channel has room, or a plain expiry. -/
theorem expire_follows (coherent : c.Coherent) (due : c.due now = true) :
    Follows now c (c.expire now) := by
  obtain ⟨deadline, waiting, reached⟩ := Coordinator.due_iff.mp due
  refine Follows.intro Coordinator.quiescence_expire
    fun callers listens kn start late window listening => ?_
  have notEarly : ¬ now < start + c.quiescence := by
    rw [window deadline waiting]
    exact Nat.not_lt.mpr reached
  obtain rfl := listening.eq_of_waiting waiting
  by_cases pending : c.phase = .pending
  · rw [Coordinator.expire_of_pending pending (coherent.consumerDone_of_waiting waiting)]
    by_cases queued : c.fireQueued = true
    · rw [if_pos queued]
      refine ⟨[⟨now, .fire⟩],
        ⟨Coordinator.abstract { c with phase := .firing, loop := .sending }
          callers c.handlesOpen, now, start⟩,
        ?_, by simp, Refines.of_abstract ?_ (.inl rfl), Nat.le_refl now, rfl, by simp⟩
      · simp [Clocked.Steps, Clocked.step, State.step, Coordinator.abstract, Action.endsWindow,
          Action.restartsWindow, waiting, pending, queued, late, notEarly]
      · intro later loop
        cases loop
    · rw [if_neg queued]
      refine ⟨[⟨now, .fire⟩, ⟨now, .send⟩],
        ⟨Coordinator.abstract
          { c with phase := .firing, fireQueued := true, loop := .waiting (now + c.quiescence) }
          callers c.handlesOpen, now, now⟩,
        ?_, by simp, Refines.of_abstract (.of_waiting rfl) (.inl rfl), Nat.le_refl now, rfl,
        by simp⟩
      simp [Clocked.Steps, Clocked.step, State.step, Coordinator.abstract, Action.endsWindow,
        Action.restartsWindow, waiting, pending, queued, late, notEarly]
  · rw [Coordinator.expire_of_not_pending pending]
    by_cases returns : c.handlesOpen = false ∧ c.phase = .idle
    · rw [if_pos returns]
      refine ⟨[⟨now, .expire⟩],
        ⟨Coordinator.abstract { c with loop := .finished } callers c.handlesOpen, now, now⟩,
        ?_, by simp, Refines.of_abstract ?_ (.inl rfl), Nat.le_refl now, rfl, by simp⟩
      · simp [Clocked.Steps, Clocked.step, State.step, Coordinator.abstract, Action.endsWindow,
          Action.restartsWindow, waiting, returns, late, notEarly]
      · intro later loop
        cases loop
    · rw [if_neg returns]
      refine ⟨[⟨now, .expire⟩],
        ⟨Coordinator.abstract { c with loop := .waiting (now + c.quiescence) }
          callers c.handlesOpen, now, now⟩,
        ?_, by simp, Refines.of_abstract (.of_waiting rfl) (.inl rfl), Nat.le_refl now, rfl,
        by simp⟩
      simp [Clocked.Steps, Clocked.step, State.step, Coordinator.abstract, Action.endsWindow,
        Action.restartsWindow, waiting, pending, returns, late, notEarly]

/-! ## Operations on behalf of the callers -/

/-- A signal's swap is a new caller's arrival and its swap. -/
theorem markPending_refines {k : Clocked} (refines : Refines c k) (onTime : k.now ≤ now)
    (held : c.handlesOpen = true) :
    ∃ xs k', Clocked.Steps c.quiescence k xs k' ∧ (∀ x ∈ xs, x.time = now) ∧
      clearTimes xs = [] ∧ Refines c.markPending k' ∧ k'.now ≤ now ∧
      k'.state.callers = k.state.callers ++ [.offering] := by
  revert onTime
  refine refines.induct fun callers listens kn start window listening onTime => ?_
  have late : ¬ now < kn := Nat.not_lt.mpr onTime
  refine ⟨[⟨now, .arrive callers.length⟩, ⟨now, .swap callers.length⟩],
    ⟨c.markPending.abstract (callers ++ [.offering]) listens, now, start⟩, ?_, by simp, by simp,
    Refines.of_abstract window listening, Nat.le_refl now, rfl⟩
  simp [Clocked.Steps, Clocked.step, State.step, Coordinator.abstract, Coordinator.markPending,
    Action.endsWindow, Action.restartsWindow, held, late]

/-- The loop's wake-up is the caller's offer and, while the loop waits, the loop taking it;
a caller finds a loop that has returned gone. -/
theorem wake_refines {k : Clocked} {i : Nat} (refines : Refines c k) (onTime : k.now ≤ now)
    (offering : k.state.callers[i]? = some .offering) (held : c.handlesOpen = true)
    (started : c.loop ≠ .unstarted) (free : c.loop ≠ .sending) :
    ∃ xs k', Clocked.Steps c.quiescence k xs k' ∧ (∀ x ∈ xs, x.time = now) ∧
      clearTimes xs = [] ∧ Refines (c.wake now) k' ∧ k'.now ≤ now ∧
      k'.state.callers = k.state.callers.set i .returned := by
  revert onTime offering
  refine refines.induct fun callers listens kn start window listening onTime offering => ?_
  have late : ¬ now < kn := Nat.not_lt.mpr onTime
  cases loop : c.loop with
  | unstarted => exact absurd loop started
  | sending => exact absurd loop free
  | waiting deadline =>
    obtain rfl := listening.eq_of_waiting loop
    have waiting : (c.wake now).loop = .waiting (now + c.quiescence) := by
      simp [Coordinator.wake, loop]
    refine ⟨[⟨now, .offer i⟩, ⟨now, .wake⟩],
      ⟨(c.wake now).abstract (callers.set i .returned) c.handlesOpen, now, now⟩, ?_, by simp,
      by simp, Refines.of_abstract (.of_waiting ?_) (.inl ?_), Nat.le_refl now, rfl⟩
    · simp only [Coordinator.abstract_callers] at offering
      simp [Clocked.Steps, Clocked.step, State.step, Coordinator.abstract, Coordinator.wake,
        Action.endsWindow, Action.restartsWindow, loop, held, late, offering]
    · simp [Coordinator.wake, loop]
    · simp [Coordinator.wake, loop]
  | finished =>
    have same : c.wake now = c := by simp [Coordinator.wake, loop]
    rw [same]
    refine ⟨[⟨now, .offer i⟩], ⟨c.abstract (callers.set i .returned) listens, now, start⟩, ?_,
      by simp, by simp, Refines.of_abstract window listening, Nat.le_refl now, rfl⟩
    simp only [Coordinator.abstract_callers] at offering
    simp [Clocked.Steps, Clocked.step, State.step, Coordinator.abstract, Action.endsWindow,
      Action.restartsWindow, loop, late, offering]

/-- Dropping the last handle, once every call has returned, is the release and, while the loop
waits, the loop finding the wake channel closed. -/
theorem closeHandles_refines {k : Clocked} (coherent : c.Coherent) (refines : Refines c k)
    (onTime : k.now ≤ now) (held : c.handlesOpen = true)
    (returned : ∀ stage ∈ k.state.callers, stage = .returned) :
    ∃ xs k', Clocked.Steps c.quiescence k xs k' ∧ (∀ x ∈ xs, x.time = now) ∧
      clearTimes xs = [] ∧ Refines (c.closeHandles now) k' ∧ k'.now ≤ now ∧
      k'.state.callers = k.state.callers := by
  revert onTime returned
  refine refines.induct fun callers listens kn start window listening onTime returned => ?_
  have late : ¬ now < kn := Nat.not_lt.mpr onTime
  simp only [Coordinator.abstract_callers] at returned
  have listens : listens = true := by
    rcases listening with same | ⟨on, -⟩
    · rw [same, held]
    · exact on
  subst listens
  cases loop : c.loop with
  | finished => simp [coherent.finishedClosed loop] at held
  | waiting deadline =>
    refine ⟨[⟨now, .release⟩, ⟨now, .disconnect⟩],
      ⟨(c.closeHandles now).abstract callers false, now, now⟩, ?_, by simp, by simp,
      Refines.of_abstract (.of_waiting ?_) (.inl ?_), Nat.le_refl now, rfl⟩
    · simp [Clocked.Steps, Clocked.step, State.step, Coordinator.abstract,
        Coordinator.closeHandles, Coordinator.wake, Action.endsWindow, Action.restartsWindow,
        loop, held, late, eq_true returned]
    · simp [Coordinator.closeHandles, Coordinator.wake, loop]
    · simp [Coordinator.closeHandles]
  | unstarted | sending =>
    refine ⟨[⟨now, .release⟩], ⟨(c.closeHandles now).abstract callers true, now, start⟩, ?_,
      by simp, by simp, Refines.of_abstract ?_ (.inr ⟨rfl, by simp [Coordinator.closeHandles,
        Coordinator.wake, loop]⟩), Nat.le_refl now, rfl⟩
    · simp [Clocked.Steps, Clocked.step, State.step, Coordinator.abstract,
        Coordinator.closeHandles, Coordinator.wake, Action.endsWindow, Action.restartsWindow,
        loop, held, late, eq_true returned]
    · intro deadline waiting
      simp [Coordinator.closeHandles, Coordinator.wake, loop] at waiting

end Operations

/-! ## Coherence along the operations -/

namespace Coordinator.Coherent

variable {c c' : Coordinator} {now : Nat}

theorem initial (quiescence : Nat) (work : List Nat) :
    ({ quiescence, work } : Coordinator).Coherent := by
  constructor <;> simp

theorem begin (coherent : c.Coherent) : (c.begin now).Coherent := by
  unfold Coordinator.begin
  split
  · constructor <;> simp
  · exact coherent

theorem markPending (coherent : c.Coherent) : c.markPending.Coherent :=
  ⟨coherent.running, coherent.sendingQueued, coherent.finishedReturned, coherent.finishedClosed,
    coherent.unstartedLoop, coherent.unstartedConsumer⟩

theorem wake (coherent : c.Coherent) : (c.wake now).Coherent := by
  obtain ⟨running, sendingQueued, finishedReturned, finishedClosed, unstartedLoop,
    unstartedConsumer⟩ := coherent
  unfold Coordinator.wake
  split
  · next waiting => constructor <;> simp_all
  · exact ⟨running, sendingQueued, finishedReturned, finishedClosed, unstartedLoop,
      unstartedConsumer⟩

theorem closeHandles (coherent : c.Coherent) : (c.closeHandles now).Coherent :=
  have woken : (c.wake now).Coherent := coherent.wake
  ⟨woken.running, woken.sendingQueued, woken.finishedReturned, fun _ => rfl, woken.unstartedLoop,
    woken.unstartedConsumer⟩

theorem take (coherent : c.Coherent) (receiving : c.consumer = .receiving) :
    (c.take now).Coherent := by
  obtain ⟨running, sendingQueued, finishedReturned, finishedClosed, unstartedLoop,
    unstartedConsumer⟩ := coherent
  unfold Coordinator.take
  cases loop : c.loop <;> dsimp only <;> split <;> constructor <;> simp_all

theorem consumerStep? (coherent : c.Coherent) (stepped : c.consumerStep? now = some c') :
    c'.Coherent := by
  unfold Coordinator.consumerStep? at stepped
  cases consumer : c.consumer with
  | updating finish =>
    simp only [consumer, Option.ite_none_right_eq_some, Option.some.injEq] at stepped
    obtain ⟨-, rfl⟩ := stepped
    obtain ⟨running, sendingQueued, finishedReturned, finishedClosed, unstartedLoop,
      unstartedConsumer⟩ := coherent
    constructor <;> simp_all
  | receiving =>
    simp only [consumer] at stepped
    by_cases queued : c.fireQueued = true
    · rw [if_pos queued, Option.some.injEq] at stepped
      rw [← stepped]
      exact coherent.take consumer
    · rw [if_neg queued, Option.ite_none_right_eq_some, Option.some.injEq] at stepped
      obtain ⟨finished, rfl⟩ := stepped
      obtain ⟨running, sendingQueued, finishedReturned, finishedClosed, unstartedLoop,
        unstartedConsumer⟩ := coherent
      constructor <;> simp_all
  | _ => simp [consumer] at stepped

theorem consumerSteps (coherent : c.Coherent) (fuel : Nat) :
    (c.consumerSteps now fuel).Coherent := by
  induction fuel generalizing c with
  | zero => exact coherent
  | succ fuel ih =>
    unfold Coordinator.consumerSteps
    cases stepped : c.consumerStep? now with
    | none => exact coherent
    | some next => exact ih (coherent.consumerStep? stepped)

theorem expire (coherent : c.Coherent) (due : c.due now = true) : (c.expire now).Coherent := by
  obtain ⟨deadline, waiting, -⟩ := Coordinator.due_iff.mp due
  have notDone := coherent.consumerDone_of_waiting waiting
  obtain ⟨running, sendingQueued, finishedReturned, finishedClosed, unstartedLoop,
    unstartedConsumer⟩ := coherent
  by_cases pending : c.phase = .pending
  · rw [Coordinator.expire_of_pending pending notDone]
    split <;> constructor <;> simp_all
  · rw [Coordinator.expire_of_not_pending pending]
    split <;> constructor <;> simp_all

theorem settle (coherent : c.Coherent) : (c.settle now).Coherent := by
  unfold Coordinator.settle
  dsimp only
  split
  · next due => exact ((coherent.consumerSteps 8).expire due).consumerSteps 8
  · exact coherent.consumerSteps 8

end Coordinator.Coherent

/-! ## Settling a moment -/

section Settle

variable {c : Coordinator} {now : Nat}

theorem consumerSteps_follows (fuel : Nat) : Follows now c (c.consumerSteps now fuel) := by
  induction fuel generalizing c with
  | zero => exact Follows.of_eq rfl
  | succ fuel ih =>
    unfold Coordinator.consumerSteps
    cases stepped : c.consumerStep? now with
    | none => exact Follows.of_eq rfl
    | some next => exact (consumerStep?_follows stepped).trans ih

/-- Everything a coherent coordinator does at one moment is matched by steps at that moment. -/
theorem settle_follows (coherent : c.Coherent) : Follows now c (c.settle now) := by
  unfold Coordinator.settle
  dsimp only
  split
  · next due =>
    exact (consumerSteps_follows 8).trans
      ((expire_follows (coherent.consumerSteps 8) due).trans (consumerSteps_follows 8))
  · exact consumerSteps_follows 8

end Settle

end BalancerSync.Update
