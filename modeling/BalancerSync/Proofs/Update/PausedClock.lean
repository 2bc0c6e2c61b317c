import BalancerSync.Proofs.Update.Refinement

/-!
# The paused clock runs the parties on the clock

`Timeline` drives the coordinator through the caller's requests, and `Refinement` matches each
of the coordinator's operations by steps of the clocked model.  What joins the two is what the
paused clock does between operations: at every moment it lets the consumer run until it is
stuck and the loop expire when due, so the coordinator it leaves has nothing due at that moment,
and a loop holding a fire event gets rid of it once the running update ends.  With these, every
run of requests that never stops the consumer is a timed run of the parties, and the update
starts it reports are the clears of that run.
-/

namespace BalancerSync.Update

open Interleaved

namespace Coordinator

variable {c c' : Coordinator} {now : Nat}

/-- What one consumer step leaves of the loop and the handles: the loop is where it was, or it
has put its held event into the channel and waits again from `now`; and the consumer is past
its start. -/
theorem consumerStep?_frame (stepped : c.consumerStep? now = some c') :
    (c'.loop = c.loop ∨ c'.loop = .waiting (now + c.quiescence)) ∧
      c'.handlesOpen = c.handlesOpen ∧ c'.quiescence = c.quiescence ∧
      c'.consumer ≠ .unstarted := by
  unfold consumerStep? at stepped
  cases consumer : c.consumer with
  | updating finish =>
    simp only [consumer, Option.ite_none_right_eq_some, Option.some.injEq] at stepped
    obtain ⟨-, rfl⟩ := stepped
    exact ⟨.inl rfl, rfl, rfl, by simp⟩
  | receiving =>
    simp only [consumer] at stepped
    by_cases queued : c.fireQueued = true
    · rw [if_pos queued, Option.some.injEq] at stepped
      subst stepped
      refine ⟨?_, handlesOpen_take, quiescence_take, ?_⟩
      · unfold take
        cases loop : c.loop <;> dsimp only <;> split <;> simp
      · unfold take
        split <;> dsimp only <;> split <;> simp [consumer]
    · rw [if_neg queued, Option.ite_none_right_eq_some, Option.some.injEq] at stepped
      obtain ⟨-, rfl⟩ := stepped
      exact ⟨.inl rfl, rfl, rfl, by simp⟩
  | _ => simp [consumer] at stepped

theorem consumerSteps_frame (c : Coordinator) (now fuel : Nat) :
    ((c.consumerSteps now fuel).loop = c.loop ∨
        (c.consumerSteps now fuel).loop = .waiting (now + c.quiescence)) ∧
      (c.consumerSteps now fuel).handlesOpen = c.handlesOpen ∧
      (c.consumerSteps now fuel).quiescence = c.quiescence ∧
      (c.consumer ≠ .unstarted → (c.consumerSteps now fuel).consumer ≠ .unstarted) := by
  induction fuel generalizing c with
  | zero => exact ⟨.inl rfl, rfl, rfl, id⟩
  | succ fuel ih =>
    unfold consumerSteps
    cases stepped : c.consumerStep? now with
    | none => exact ⟨.inl rfl, rfl, rfl, id⟩
    | some next =>
      obtain ⟨loop, handles, same, started⟩ := consumerStep?_frame stepped
      obtain ⟨loop', handles', same', started'⟩ := ih next
      refine ⟨?_, handles'.trans handles, same'.trans same, fun _ => started' started⟩
      rw [same] at loop'
      rcases loop' with kept | restarted
      · rw [kept]
        exact loop
      · exact .inr restarted

@[simp] theorem handlesOpen_settle : (c.settle now).handlesOpen = c.handlesOpen := by
  unfold settle
  dsimp only
  split
  · rw [(consumerSteps_frame _ now 8).2.1, handlesOpen_expire, (consumerSteps_frame _ now 8).2.1]
  · exact (consumerSteps_frame c now 8).2.1

/-! ## Eight consumer steps are enough -/

/-- A bound on the consumer steps left at one moment: three for each fire event, queued or
held by the loop, and two for a consumer that is updating, one for one that is receiving. -/
def stepBound (c : Coordinator) : Nat :=
  3 * ((if c.fireQueued then 1 else 0) + (if c.loop = .sending then 1 else 0)) +
    match c.consumer with
    | .updating _ => 2
    | .receiving => 1
    | _ => 0

theorem stepBound_le_eight (c : Coordinator) : c.stepBound ≤ 8 := by
  unfold stepBound
  split <;> split <;> split <;> omega

theorem stepBound_lt (stepped : c.consumerStep? now = some c') : c'.stepBound < c.stepBound := by
  unfold consumerStep? at stepped
  cases consumer : c.consumer with
  | updating finish =>
    simp only [consumer, Option.ite_none_right_eq_some, Option.some.injEq] at stepped
    obtain ⟨-, rfl⟩ := stepped
    simp [stepBound, consumer]
  | receiving =>
    simp only [consumer] at stepped
    by_cases queued : c.fireQueued = true
    · rw [if_pos queued, Option.some.injEq] at stepped
      subst stepped
      by_cases sending : c.loop = .sending
      · unfold take
        simp only [sending]
        split <;> simp [stepBound, consumer, queued, sending]
      · rw [take_of_not_sending sending]
        split <;> simp [stepBound, consumer, queued, sending]
    · rw [if_neg queued, Option.ite_none_right_eq_some, Option.some.injEq] at stepped
      obtain ⟨finished, rfl⟩ := stepped
      simp [stepBound, consumer, queued, finished]
  | _ => simp [consumer] at stepped

theorem consumerSteps_stuck {fuel : Nat} (enough : c.stepBound ≤ fuel) :
    (c.consumerSteps now fuel).consumerStep? now = none := by
  induction fuel generalizing c with
  | zero =>
    cases stepped : c.consumerStep? now with
    | none => exact stepped
    | some next => exact absurd (stepBound_lt stepped) (by omega)
  | succ fuel ih =>
    unfold consumerSteps
    cases stepped : c.consumerStep? now with
    | none => exact stepped
    | some next =>
      have fewer := stepBound_lt stepped
      exact ih (by omega)

/-- After settling a moment the consumer has nothing left to do at it. -/
theorem settle_stuck : (c.settle now).consumerStep? now = none := by
  unfold settle
  dsimp only
  split
  · exact consumerSteps_stuck (stepBound_le_eight _)
  · exact consumerSteps_stuck (stepBound_le_eight _)

/-! ## Nothing is due after a settled moment -/

theorem loop_expire :
    (c.expire now).loop = .finished ∨ (c.expire now).loop = .sending ∨
      (c.expire now).loop = .waiting (now + c.quiescence) := by
  unfold expire
  split
  · dsimp only
    split
    · exact .inl rfl
    · split
      · exact .inr (.inl rfl)
      · exact .inr (.inr rfl)
  · split
    · exact .inl rfl
    · exact .inr (.inr rfl)

theorem due_eq_false {quiescence : Nat} (positive : 0 < quiescence)
    (loop : c.loop = .finished ∨ c.loop = .sending ∨ c.loop = .waiting (now + quiescence)) :
    c.due now = false := by
  rcases loop with finished | sending | waiting
  · simp [due, finished]
  · simp [due, sending]
  · simp [due, waiting]
    omega

theorem consumerSteps_not_due {quiescence : Nat} (positive : 0 < quiescence)
    (same : c.quiescence = quiescence)
    (loop : c.loop = .finished ∨ c.loop = .sending ∨ c.loop = .waiting (now + quiescence))
    (fuel : Nat) : (c.consumerSteps now fuel).due now = false := by
  apply due_eq_false positive
  rcases (consumerSteps_frame c now fuel).1 with kept | restarted
  · rw [kept]
    exact loop
  · rw [restarted, same]
    exact .inr (.inr rfl)

theorem settle_not_due (positive : 0 < c.quiescence) : (c.settle now).due now = false := by
  unfold settle
  dsimp only
  split
  · have same := (consumerSteps_frame c now 8).2.2.1
    exact consumerSteps_not_due (by rw [same]; exact positive) quiescence_expire loop_expire 8
  · next notDue => simpa using notDue

theorem updating_of_stuck (coherent : c.Coherent) (stuck : c.consumerStep? now = none)
    (sending : c.loop = .sending) : ∃ finish, c.consumer = .updating finish ∧ now < finish := by
  cases consumer : c.consumer with
  | unstarted =>
    rw [coherent.unstartedConsumer consumer] at sending
    cases sending
  | receiving =>
    have queued := coherent.sendingQueued sending
    simp [consumerStep?, consumer, queued] at stuck
  | updating finish =>
    refine ⟨finish, rfl, Nat.lt_of_not_le fun ended => ?_⟩
    simp [consumerStep?, consumer, ended] at stuck
  | finished =>
    rw [coherent.finishedReturned consumer] at sending
    cases sending
  | cancelled => exact absurd consumer coherent.running

/-- With nothing due and the consumer stuck, the coordinator next acts after `now`. -/
theorem nextEvent?_after (notDue : c.due now = false) (stuck : c.consumerStep? now = none)
    {moment : Nat} (next : c.nextEvent? = some moment) : now < moment := by
  have deadlineLater : ∀ deadline, c.loop = .waiting deadline → now < deadline := by
    intro deadline waiting
    simpa [due, waiting] using notDue
  have finishLater : ∀ finish, c.consumer = .updating finish → now < finish := by
    intro finish updating
    refine Nat.lt_of_not_le fun ended => ?_
    simp [consumerStep?, updating, ended] at stuck
  unfold nextEvent? at next
  cases loop : c.loop with
  | waiting deadline =>
    have early := deadlineLater deadline loop
    cases consumer : c.consumer with
    | updating finish =>
      have later := finishLater finish consumer
      simp only [loop, consumer, Option.some.injEq] at next
      omega
    | _ =>
      simp only [loop, consumer, Option.some.injEq] at next
      omega
  | _ =>
    cases consumer : c.consumer with
    | updating finish =>
      have later := finishLater finish consumer
      simp only [loop, consumer, Option.some.injEq] at next
      omega
    | _ => simp [loop, consumer] at next

theorem settle_nextEvent?_after (positive : 0 < c.quiescence) {moment : Nat}
    (next : (c.settle now).nextEvent? = some moment) : now < moment :=
  nextEvent?_after (settle_not_due positive) settle_stuck next

/-- A loop holding a fire event puts it into the channel once the update ahead of it ends: at
that moment the consumer ends the update and takes the queued event, and the loop waits again. -/
theorem settle_of_held {finish : Nat} (positive : 0 < c.quiescence) (coherent : c.Coherent)
    (sending : c.loop = .sending) (updating : c.consumer = .updating finish) :
    (c.settle finish).loop = .waiting (finish + c.quiescence) := by
  have queued := coherent.sendingQueued sending
  obtain ⟨received, ended, held, receiving, stillQueued, same⟩ : ∃ received,
      c.consumerStep? finish = some received ∧ received.loop = .sending ∧
        received.consumer = .receiving ∧ received.fireQueued = true ∧
        received.quiescence = c.quiescence :=
    ⟨{ c with consumer := .receiving, ends := c.ends ++ [finish] },
      by simp [consumerStep?, updating], sending, rfl, queued, rfl⟩
  have taken : received.consumerStep? finish = some (received.take finish) := by
    simp [consumerStep?, receiving, stillQueued]
  have restarted : (received.take finish).loop = .waiting (finish + c.quiescence) := by
    unfold take
    simp only [held, same]
    split <;> rfl
  have settled : (c.consumerSteps finish 8).loop = .waiting (finish + c.quiescence) := by
    rw [show (8 : Nat) = 6 + 1 + 1 from rfl, consumerSteps, ended]
    dsimp only
    rw [consumerSteps, taken]
    dsimp only
    rcases (consumerSteps_frame (received.take finish) finish 6).1 with kept | again
    · rw [kept, restarted]
    · rw [again, quiescence_take, same]
  unfold settle
  dsimp only
  rw [due_eq_false positive (.inr (.inr settled))]
  simpa using settled

theorem consumer_settle_ne_unstarted (started : c.consumer ≠ .unstarted) :
    (c.settle now).consumer ≠ .unstarted := by
  unfold settle
  dsimp only
  have midway := (consumerSteps_frame c now 8).2.2.2 started
  split
  · apply (consumerSteps_frame _ now 8).2.2.2
    rw [consumer_expire]
    exact midway
  · exact midway

theorem consumer_begin_ne_unstarted : (c.begin now).consumer ≠ .unstarted := by
  unfold begin
  split
  · simp
  · assumption

end Coordinator

/-- Whether a request signals: a signal, a blocking signal, or signals from at least one
task. -/
def Request.signalling : Request → Bool
  | .signal | .blockingSignal => true
  | .signals count => decide (0 < count)
  | _ => false

namespace Timeline

/-- A timeline that a timed run of the parties stands for: the run, with quiescence period
`quiescence`, reaches a state that the coordinator refines no later than the caller's clock,
its clears are the update starts, and the handles are open until the caller drops its own. -/
structure Simulated (quiescence : Nat) (t : Timeline) (log : List Stamped) (k : Clocked) :
    Prop where
  positive : 0 < quiescence
  same : t.coordinator.quiescence = quiescence
  run : Clocked.Run quiescence log k
  refines : Refines t.coordinator k
  coherent : t.coordinator.Coherent
  onTime : k.now ≤ t.now
  starts : t.coordinator.starts = clearTimes log
  handles : t.coordinator.handlesOpen = !t.dropped

variable {quiescence : Nat} {t t' : Timeline} {log : List Stamped} {k : Clocked}

namespace Simulated

/-- Steps taken from the run's state extend the run to a timeline that the state they lead to
stands for. -/
theorem advance {xs : List Stamped} {k' : Clocked} (sim : Simulated quiescence t log k)
    (t' : Timeline) (steps : Clocked.Steps t.coordinator.quiescence k xs k')
    (same : t'.coordinator.quiescence = t.coordinator.quiescence)
    (refines : Refines t'.coordinator k') (coherent : t'.coordinator.Coherent)
    (onTime : k'.now ≤ t'.now)
    (starts : t'.coordinator.starts = t.coordinator.starts ++ clearTimes xs)
    (handles : t'.coordinator.handlesOpen = !t'.dropped) :
    Simulated quiescence t' (log ++ xs) k' := by
  rw [sim.same] at steps
  refine ⟨sim.positive, same.trans sim.same, sim.run.steps steps, refines, coherent, onTime, ?_,
    handles⟩
  rw [starts, sim.starts, clearTimes_append]

/-- The clock moves on and the coordinator does what it does there. -/
theorem follow (sim : Simulated quiescence t log k) (t' : Timeline) (later : t.now ≤ t'.now)
    (follows : Follows t'.now t.coordinator t'.coordinator) (coherent : t'.coordinator.Coherent)
    (dropped : t'.dropped = t.dropped)
    (handles : t'.coordinator.handlesOpen = t.coordinator.handlesOpen) :
    ∃ log' k', Simulated quiescence t' log' k' ∧ k'.state.callers = k.state.callers := by
  obtain ⟨xs, k', steps, -, refines, onTime, callers, starts⟩ :=
    follows.2 k sim.refines (Nat.le_trans sim.onTime later)
  refine ⟨log ++ xs, k', sim.advance t' steps follows.1 refines coherent onTime starts ?_,
    callers⟩
  rw [handles, dropped]
  exact sim.handles

theorem of_same (sim : Simulated quiescence t log k) (coordinator : t'.coordinator = t.coordinator)
    (now : t'.now = t.now) (dropped : t'.dropped = t.dropped) :
    Simulated quiescence t' log k := by
  obtain ⟨positive, same, run, refines, coherent, onTime, starts, handles⟩ := sim
  rw [← coordinator] at same refines coherent starts
  rw [← now] at onTime
  rw [← coordinator, ← dropped] at handles
  exact ⟨positive, same, run, refines, coherent, onTime, starts, handles⟩

theorem noted (sim : Simulated quiescence t log k) : Simulated quiescence t.noted log k :=
  sim.of_same rfl rfl rfl

theorem refuse (sim : Simulated quiescence t log k) (message : String) :
    Simulated quiescence (t.refuse message) log k :=
  sim.of_same rfl rfl rfl

theorem yieldNow (sim : Simulated quiescence t log k) :
    ∃ log' k', Simulated quiescence t.yieldNow log' k' ∧ k'.state.callers = k.state.callers :=
  sim.follow _ (Nat.le_refl _) (begin_follows.trans (settle_follows sim.coherent.begin))
    sim.coherent.begin.settle rfl (by simp [Timeline.yieldNow])

theorem runBefore {target : Nat} (sim : Simulated quiescence t log k)
    (settled : ∀ moment, t.coordinator.nextEvent? = some moment → t.now < moment)
    (early : t.now ≤ target) (fuel : Nat) :
    ∃ log' k', Simulated quiescence (t.runBefore target fuel) log' k' ∧
      k'.state.callers = k.state.callers := by
  induction fuel generalizing t log k with
  | zero => exact sim.follow _ early (Follows.of_eq rfl) sim.coherent rfl rfl
  | succ fuel ih =>
    unfold Timeline.runBefore
    cases next : t.coordinator.nextEvent? with
    | none => exact sim.follow _ early (Follows.of_eq rfl) sim.coherent rfl rfl
    | some moment =>
      dsimp only
      split
      · next before =>
        have positive : 0 < t.coordinator.quiescence := by
          rw [sim.same]
          exact sim.positive
        obtain ⟨log₁, k₁, sim₁, callers₁⟩ :=
          sim.follow { t with now := moment, coordinator := t.coordinator.settle moment }
            (Nat.le_of_lt (settled moment next)) (settle_follows sim.coherent)
            sim.coherent.settle rfl Coordinator.handlesOpen_settle
        obtain ⟨log₂, k₂, sim₂, callers₂⟩ := ih sim₁
          (fun _ later => Coordinator.settle_nextEvent?_after positive later)
          (Nat.le_of_lt before)
        exact ⟨log₂, k₂, sim₂, callers₂.trans callers₁⟩
      · exact sim.follow _ early (Follows.of_eq rfl) sim.coherent rfl rfl

/-- After the caller's wait the loop takes wake-ups: a loop that holds a fire event gets rid
of it once the running update ends, and the caller waits for that. -/
theorem listening (sim : Simulated quiescence t log k)
    (stuck : t.coordinator.consumerStep? t.now = none)
    (started : t.coordinator.consumer ≠ .unstarted) :
    ∃ log' k', Simulated quiescence
        (if t.coordinator.loop = .sending then t.awaitListening else t) log' k' ∧
      k'.state.callers = k.state.callers ∧
      (if t.coordinator.loop = .sending then t.awaitListening else t).dropped = t.dropped ∧
      (if t.coordinator.loop = .sending then t.awaitListening else t).coordinator.loop ≠
        .unstarted ∧
      (if t.coordinator.loop = .sending then t.awaitListening else t).coordinator.loop ≠
        .sending := by
  split
  · next sending =>
    obtain ⟨finish, updating, later⟩ := Coordinator.updating_of_stuck sim.coherent stuck sending
    have waited : t.awaitListening =
        { t with now := finish, coordinator := t.coordinator.settle finish } := by
      simp [Timeline.awaitListening, sending, updating, Nat.max_eq_right (Nat.le_of_lt later)]
    have restarted := Coordinator.settle_of_held (by rw [sim.same]; exact sim.positive)
      sim.coherent sending updating
    rw [waited]
    obtain ⟨log', k', sim', callers⟩ :=
      sim.follow { t with now := finish, coordinator := t.coordinator.settle finish }
        (Nat.le_of_lt later) (settle_follows sim.coherent) sim.coherent.settle rfl
        Coordinator.handlesOpen_settle
    exact ⟨log', k', sim', callers, rfl, by simp [restarted], by simp [restarted]⟩
  · next free =>
    exact ⟨log, k, sim, rfl, rfl, fun unstarted => started (sim.coherent.unstartedLoop unstarted),
      free⟩

theorem handlesOpen (sim : Simulated quiescence t log k) (held : t.dropped = false) :
    t.coordinator.handlesOpen = true := by
  rw [sim.handles, held]
  rfl

theorem markPending (sim : Simulated quiescence t log k) (held : t.dropped = false) :
    ∃ log' k', Simulated quiescence { t with coordinator := t.coordinator.markPending } log' k' ∧
      k'.state.callers = k.state.callers ++ [.offering] := by
  obtain ⟨xs, k', steps, -, cleared, refines, onTime, callers⟩ :=
    markPending_refines sim.refines sim.onTime (sim.handlesOpen held)
  exact ⟨log ++ xs, k', sim.advance _ steps rfl refines sim.coherent.markPending onTime
    (by simp [Coordinator.markPending, cleared]) sim.handles, callers⟩

theorem wake {i : Nat} (sim : Simulated quiescence t log k)
    (offering : k.state.callers[i]? = some .offering) (held : t.dropped = false)
    (started : t.coordinator.loop ≠ .unstarted) (free : t.coordinator.loop ≠ .sending) :
    ∃ log' k', Simulated quiescence { t with coordinator := t.coordinator.wake t.now } log' k' ∧
      k'.state.callers = k.state.callers.set i .returned := by
  obtain ⟨xs, k', steps, -, cleared, refines, onTime, callers⟩ :=
    wake_refines sim.refines sim.onTime offering (sim.handlesOpen held) started free
  exact ⟨log ++ xs, k', sim.advance _ steps Coordinator.quiescence_wake refines sim.coherent.wake
    onTime (by simp [cleared]) (by simp [sim.handles]), callers⟩

theorem closeHandles (sim : Simulated quiescence t log k) (held : t.dropped = false)
    (returned : ∀ stage ∈ k.state.callers, stage = .returned) :
    ∃ log' k', Simulated quiescence
        { t with dropped := true, watching := true,
                 coordinator := t.coordinator.closeHandles t.now } log' k' ∧
      k'.state.callers = k.state.callers := by
  obtain ⟨xs, k', steps, -, cleared, refines, onTime, callers⟩ :=
    closeHandles_refines sim.coherent sim.refines sim.onTime (sim.handlesOpen held) returned
  exact ⟨log ++ xs, k', sim.advance _ steps (by simp [Coordinator.closeHandles]) refines
    sim.coherent.closeHandles onTime (by simp [Coordinator.closeHandles, cleared])
    (by simp [Coordinator.closeHandles]), callers⟩

end Simulated

/-- Between requests a timed run stands for the timeline, every call has returned, and no more
callers have come than `signals`. -/
def Simulates (quiescence signals : Nat) (t : Timeline) : Prop :=
  ∃ log k, Simulated quiescence t log k ∧ (∀ stage ∈ k.state.callers, stage = .returned) ∧
    k.state.callers.length ≤ signals

namespace Simulates

variable {signals : Nat}

theorem mono {more : Nat} (sim : Simulates quiescence signals t) (fewer : signals ≤ more) :
    Simulates quiescence more t :=
  let ⟨log, k, sim, returned, bounded⟩ := sim
  ⟨log, k, sim, returned, Nat.le_trans bounded fewer⟩

/-- A signal is a new caller's arrival and swap, the caller's wait, and the loop taking its
wake-up; after the caller's last wait it has returned. -/
theorem signal (sim : Simulates quiescence signals t) (held : t.dropped = false) :
    Simulates quiescence (signals + 1) t.signal := by
  obtain ⟨log, k, sim, returned, bounded⟩ := sim
  obtain ⟨log₁, k₁, sim₁, callers₁⟩ := sim.markPending held
  obtain ⟨log₂, k₂, sim₂, callers₂⟩ := sim₁.yieldNow
  obtain ⟨log₃, k₃, sim₃, callers₃, dropped₃, started, free⟩ := sim₂.listening
    Coordinator.settle_stuck
    (Coordinator.consumer_settle_ne_unstarted Coordinator.consumer_begin_ne_unstarted)
  have offering : k₃.state.callers[k.state.callers.length]? = some .offering := by
    rw [callers₃, callers₂, callers₁]
    simp
  obtain ⟨log₄, k₄, sim₄, callers₄⟩ :=
    sim₃.wake offering (by rw [dropped₃]; exact held) started free
  obtain ⟨log₅, k₅, sim₅, callers₅⟩ := sim₄.yieldNow
  have answered : k₅.state.callers = k.state.callers ++ [.returned] := by
    rw [callers₅, callers₄, callers₃, callers₂, callers₁,
      List.set_append_right _ _ (Nat.le_refl _), Nat.sub_self]
    rfl
  refine ⟨log₅, k₅, sim₅, ?_, by simp [answered, bounded]⟩
  intro stage member
  rw [answered, List.mem_append, List.mem_singleton] at member
  rcases member with old | new
  · exact returned stage old
  · exact new

theorem noted (sim : Simulates quiescence signals t) : Simulates quiescence signals t.noted :=
  let ⟨log, k, sim, returned, bounded⟩ := sim
  ⟨log, k, sim.noted, returned, bounded⟩

theorem refuse (sim : Simulates quiescence signals t) (message : String) :
    Simulates quiescence signals (t.refuse message) :=
  let ⟨log, k, sim, returned, bounded⟩ := sim
  ⟨log, k, sim.refuse message, returned, bounded⟩

theorem signalFrom (sim : Simulates quiescence signals t) (count : Nat) :
    Simulates quiescence (signals + if 0 < count then 1 else 0) (t.signalFrom count) := by
  unfold Timeline.signalFrom
  by_cases dropped : t.dropped = true
  · rw [if_pos dropped]
    exact (sim.refuse _).mono (Nat.le_add_right _ _)
  · rw [if_neg dropped]
    by_cases none : count = 0
    · rw [if_pos none]
      simpa [none] using sim.noted
    · rw [if_neg none]
      have positive : 0 < count := Nat.pos_of_ne_zero none
      simpa [positive] using (sim.signal (by simpa using dropped)).noted

/-- A sleep lets the coordinator act at every moment up to its end. -/
theorem sleep (sim : Simulates quiescence signals t) (ms : Nat) :
    Simulates quiescence signals (t.yieldNow.sleepUntil (t.now + ms)) := by
  obtain ⟨log, k, sim, returned, bounded⟩ := sim
  obtain ⟨log₁, k₁, sim₁, callers₁⟩ := sim.yieldNow
  have settled : ∀ moment, t.yieldNow.coordinator.nextEvent? = some moment →
      t.yieldNow.now < moment := fun _ next =>
    Coordinator.settle_nextEvent?_after
      (by rw [Coordinator.quiescence_begin, sim.same]; exact sim.positive) next
  obtain ⟨log₂, k₂, sim₂, callers₂⟩ :=
    sim₁.runBefore settled (Nat.le_add_right t.now ms) (t.now + ms - t.yieldNow.now + 1)
  rw [← callers₁, ← callers₂] at returned bounded
  exact ⟨log₂, k₂, sim₂, returned, bounded⟩

theorem dropHandle (sim : Simulates quiescence signals t) :
    Simulates quiescence signals (t.perform .dropHandle) := by
  simp only [Timeline.perform]
  split
  · exact sim.noted
  · next held =>
    obtain ⟨log, k, sim, returned, bounded⟩ := sim
    obtain ⟨log', k', sim', callers⟩ := sim.closeHandles (by simpa using held) returned
    rw [← callers] at returned bounded
    exact ⟨log', k', sim'.noted, returned, bounded⟩

/-- Every request but stopping the consumer keeps the timeline simulated, and only a signal
brings a caller. -/
theorem perform (sim : Simulates quiescence signals t) {request : Request}
    (running : request ≠ .abortConsumer) :
    Simulates quiescence (signals + if request.signalling then 1 else 0) (t.perform request) := by
  cases request with
  | signal => simpa [Timeline.perform, Request.signalling] using sim.signalFrom 1
  | signals count => simpa [Timeline.perform, Request.signalling] using sim.signalFrom count
  | blockingSignal => simpa [Timeline.perform, Request.signalling] using sim.signalFrom 1
  | sleep ms => simpa [Timeline.perform, Request.signalling] using (sim.sleep ms).noted
  | look => simpa [Timeline.perform, Request.signalling] using sim.noted
  | dropHandle => simpa [Request.signalling] using sim.dropHandle
  | abortConsumer => exact absurd rfl running
  | unknown name => simpa [Timeline.perform, Request.signalling] using sim.refuse _

theorem performAll (sim : Simulates quiescence signals t) {requests : List Request}
    (running : ∀ request ∈ requests, request ≠ .abortConsumer) :
    Simulates quiescence (signals + requests.countP Request.signalling)
      (t.performAll requests) := by
  induction requests generalizing signals t with
  | nil => exact sim
  | cons request rest ih =>
    have later := ih (sim.perform (running request List.mem_cons_self))
      (fun other member => running other (List.mem_cons_of_mem request member))
    rw [List.countP_cons]
    exact later.mono (by omega)

theorem initial (positive : 0 < quiescence) (work : List Nat) :
    Simulates quiescence 0 ({ coordinator := { quiescence, work } } : Timeline) :=
  ⟨[], {}, ⟨positive, rfl, .init, ⟨rfl, (fun _ loop => nomatch loop), .inl rfl⟩,
    .initial quiescence work, Nat.le_refl 0, rfl, rfl⟩, by simp, by simp⟩

end Simulates

end Timeline

/-- Every run of requests that never stops the consumer is a timed run of the parties: its
steps, taken in order at their times, respect every guard and every quiet window of the clocked
model, lead to a state that the final coordinator stands for, and clear exactly when the
program starts its updates. -/
theorem runRequests_refines {quiescence : Nat} (positive : 0 < quiescence) (work : List Nat)
    (requests : List Request) (running : ∀ request ∈ requests, request ≠ .abortConsumer) :
    ∃ log k, Clocked.Run quiescence log k ∧
      Refines (({ coordinator := { quiescence, work } } : Timeline).performAll
        requests).coordinator k ∧
      (runRequests quiescence work requests).starts = clearTimes log := by
  obtain ⟨log, k, sim, -⟩ := (Timeline.Simulates.initial positive work).performAll running
  exact ⟨log, k, sim.run, sim.refines, sim.starts⟩

theorem length_clearTimes (log : List Stamped) :
    (clearTimes log).length = (log.map Stamped.action).count .clear := by
  induction log with
  | nil => rfl
  | cons x log ih =>
    by_cases cleared : x.action = .clear
    · simp [cleared, ih]
    · simp [cleared, ih]

/-- The program starts no more updates than it is sent signals: each update is cleared after a
fire, each fire after a swap, and each swap is a signalling caller's. -/
theorem runRequests_starts_le_signals {quiescence : Nat} (positive : 0 < quiescence)
    (work : List Nat) (requests : List Request)
    (running : ∀ request ∈ requests, request ≠ .abortConsumer) :
    (runRequests quiescence work requests).starts.length ≤
      requests.countP Request.signalling := by
  obtain ⟨log, k, sim, -, bounded⟩ := (Timeline.Simulates.initial positive work).performAll running
  have untimed := sim.run.untimed
  have clears := clears_add_firing_le_fires untimed
  have fires := fires_add_pending_le_swaps untimed
  have swaps := swaps_add_entered_le_arrivals untimed
  have arrivals := untimed.length_callers
  have counted : (runRequests quiescence work requests).starts.length =
      (log.map Stamped.action).count .clear := by
    rw [← length_clearTimes, ← sim.starts]
    rfl
  omega

end BalancerSync.Update
