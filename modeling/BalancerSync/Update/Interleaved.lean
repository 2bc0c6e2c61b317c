import BalancerSync.Update.Coordinator

/-!
# The coordinator's parties, one atomic step at a time

`Coordinator` plays the one schedule a paused clock gives.  This module holds every other
schedule as well: the program of each party is cut into its atomic steps, and a run is any
order of those steps that their guards allow.

* A signaller begins its call, swaps the phase to `Pending`, and sends its wake-up into the
  wake channel, which holds one; it returns once the loop has taken and acknowledged it, or at
  once when the loop is gone.  Signallers hold handles, and the last handle can only be
  dropped when no call is under way.
* The quiescence loop sits in its select: it takes a wake-up, finds the wake channel closed
  once every handle is gone, or sees its window end.  A window that ends in `Pending` moves
  the phase to `Firing`, and the loop holds a fire event until the fire channel, which holds
  one, has room.  A window that ends in another phase starts a new one, or ends the loop when
  the handles are gone and the phase is `Idle`.
* The consumer starts the loop, then takes fire events one at a time and tries
  `Firing → Idle` on each.  When that succeeds it runs the update; otherwise it drops the
  event.  It returns once the loop has ended and the fire channel is empty.

The consumer is never stopped from outside.  Time is left out: a window may end at any
moment and an update may last any number of steps, so what holds of these runs holds
whatever the windows and the updates last.
-/

namespace BalancerSync.Update.Interleaved

/-- Where one signaller is in its call. -/
inductive CallerStage where
  /-- Has begun to signal and not yet marked an update pending. -/
  | entered
  /-- Has marked an update pending and is sending its wake-up. -/
  | offering
  /-- Its wake-up waits in the wake channel. -/
  | awaiting
  /-- Acknowledged, or turned away by a loop that is gone. -/
  | returned
deriving DecidableEq, Repr

/-- Where the quiescence loop is. -/
inductive LoopStage where
  | unstarted
  /-- In its select: waiting for a wake-up or for the end of its window. -/
  | selecting
  /-- Holding a fire event until the fire channel has room. -/
  | sending
  | returned
deriving DecidableEq, Repr

/-- Where the consumer is. -/
inductive ConsumerStage where
  | unstarted
  /-- Waiting for a fire event. -/
  | receiving
  /-- Holding a fire event, before its `Firing → Idle` attempt. -/
  | holding
  | updating
  | finished
deriving DecidableEq, Repr

/-- The shared phase, both channels and the place of every party. -/
structure State where
  phase : Phase := .idle
  /-- The signallers so far, in the order they began. -/
  callers : List CallerStage := []
  /-- The caller whose wake-up fills the wake channel. -/
  wakeSlot : Option Nat := none
  /-- Some signaller handle is still held. -/
  handlesHeld : Bool := true
  loop : LoopStage := .unstarted
  /-- The loop still listens to the wake channel. -/
  handlesOpen : Bool := true
  /-- The fire channel holds an event. -/
  fireQueued : Bool := false
  consumer : ConsumerStage := .unstarted
deriving DecidableEq, Repr

/-- One atomic step of one party. -/
inductive Action where
  /-- Caller number `caller` begins to signal. -/
  | arrive (caller : Nat)
  /-- The caller swaps the phase to `Pending`, whatever it was. -/
  | swap (caller : Nat)
  /-- The caller sends its wake-up: into the empty wake channel, or nowhere once the loop is
  gone, and then it returns. -/
  | offer (caller : Nat)
  /-- The last signaller handle is dropped. -/
  | release
  /-- The consumer starts and spawns the loop. -/
  | start
  /-- The loop takes the wake-up from the wake channel and acknowledges it. -/
  | wake
  /-- The loop finds the wake channel closed and stops listening to it. -/
  | disconnect
  /-- The loop's window ends in `Pending`, which becomes `Firing`. -/
  | fire
  /-- The loop's window ends in another phase. -/
  | expire
  /-- The loop puts its fire event into the empty fire channel. -/
  | send
  /-- The consumer takes the event from the fire channel. -/
  | take
  /-- The consumer's `Firing → Idle` succeeds, and the update starts. -/
  | clear
  /-- The consumer's `Firing → Idle` fails, and the event is dropped. -/
  | discard
  /-- The update ends. -/
  | finish
  /-- The consumer finds the fire channel closed and empty, and returns. -/
  | stop
deriving DecidableEq, Repr

namespace Action

/-- The steps that change the phase: a swap, a fire and a clear. -/
def movesPhase : Action → Bool
  | .swap _ | .fire | .clear => true
  | _ => false

/-- Whether a step is a caller's swap. -/
def isSwap : Action → Bool
  | .swap _ => true
  | _ => false

/-- Whether a step is a caller beginning to signal. -/
def isArrival : Action → Bool
  | .arrive _ => true
  | _ => false

/-- The steps of the quiescence loop, its spawning included. -/
def byLoop : Action → Bool
  | .start | .wake | .disconnect | .fire | .expire | .send => true
  | _ => false

/-- The steps at the end of a window. -/
def endsWindow : Action → Bool
  | .fire | .expire => true
  | _ => false

/-- The steps after which the loop enters its select again, with a new window. -/
def restartsWindow : Action → Bool
  | .start | .wake | .disconnect | .expire | .send => true
  | _ => false

end Action

namespace State

/-- The state after `action`, when its party can take it now. -/
def step (s : State) : Action → Option State
  | .arrive i =>
    if i = s.callers.length ∧ s.handlesHeld = true then
      some { s with callers := s.callers ++ [.entered] }
    else none
  | .swap i =>
    if s.callers[i]? = some .entered then
      some { s with phase := .pending, callers := s.callers.set i .offering }
    else none
  | .offer i =>
    if s.callers[i]? = some .offering then
      if s.loop = .returned then some { s with callers := s.callers.set i .returned }
      else if s.wakeSlot = none then
        some { s with wakeSlot := some i, callers := s.callers.set i .awaiting }
      else none
    else none
  | .release =>
    if s.handlesHeld = true ∧ ∀ c ∈ s.callers, c = .returned then
      some { s with handlesHeld := false }
    else none
  | .start =>
    if s.consumer = .unstarted then some { s with loop := .selecting, consumer := .receiving }
    else none
  | .wake =>
    match s.wakeSlot with
    | some i =>
      if s.loop = .selecting ∧ s.handlesOpen = true then
        some { s with wakeSlot := none, callers := s.callers.set i .returned }
      else none
    | none => none
  | .disconnect =>
    if s.loop = .selecting ∧ s.handlesOpen = true ∧ s.handlesHeld = false ∧ s.wakeSlot = none then
      some { s with handlesOpen := false }
    else none
  | .fire =>
    if s.loop = .selecting ∧ s.phase = .pending then
      some { s with phase := .firing, loop := .sending }
    else none
  | .expire =>
    if s.loop = .selecting ∧ s.phase ≠ .pending then
      if s.handlesOpen = false ∧ s.phase = .idle then some { s with loop := .returned }
      else some s
    else none
  | .send =>
    if s.loop = .sending ∧ s.fireQueued = false then
      some { s with loop := .selecting, fireQueued := true }
    else none
  | .take =>
    if s.consumer = .receiving ∧ s.fireQueued = true then
      some { s with consumer := .holding, fireQueued := false }
    else none
  | .clear =>
    if s.consumer = .holding ∧ s.phase = .firing then
      some { s with phase := .idle, consumer := .updating }
    else none
  | .discard =>
    if s.consumer = .holding ∧ s.phase ≠ .firing then some { s with consumer := .receiving }
    else none
  | .finish =>
    if s.consumer = .updating then some { s with consumer := .receiving } else none
  | .stop =>
    if s.consumer = .receiving ∧ s.loop = .returned ∧ s.fireQueued = false then
      some { s with consumer := .finished }
    else none

/-! ## What each step needs and does -/

section Inversion

variable {s s' : State} {i : Nat}

theorem step_arrive (h : s.step (.arrive i) = some s') :
    i = s.callers.length ∧ s.handlesHeld = true ∧
      s' = { s with callers := s.callers ++ [.entered] } := by
  simp only [step, Option.ite_none_right_eq_some, Option.some.injEq] at h
  exact ⟨h.1.1, h.1.2, h.2.symm⟩

theorem step_swap (h : s.step (.swap i) = some s') :
    s.callers[i]? = some .entered ∧
      s' = { s with phase := .pending, callers := s.callers.set i .offering } := by
  simp only [step, Option.ite_none_right_eq_some, Option.some.injEq] at h
  exact ⟨h.1, h.2.symm⟩

theorem step_offer (h : s.step (.offer i) = some s') :
    s.callers[i]? = some .offering ∧
      (s.loop = .returned ∧ s' = { s with callers := s.callers.set i .returned } ∨
        s.loop ≠ .returned ∧ s.wakeSlot = none ∧
          s' = { s with wakeSlot := some i, callers := s.callers.set i .awaiting }) := by
  simp only [step] at h
  split at h
  · rename_i offering
    split at h
    · rename_i returned
      cases h
      exact ⟨offering, .inl ⟨returned, rfl⟩⟩
    · rename_i returned
      simp only [Option.ite_none_right_eq_some, Option.some.injEq] at h
      exact ⟨offering, .inr ⟨returned, h.1, h.2.symm⟩⟩
  · contradiction

theorem step_release (h : s.step .release = some s') :
    s.handlesHeld = true ∧ (∀ c ∈ s.callers, c = .returned) ∧
      s' = { s with handlesHeld := false } := by
  simp only [step, Option.ite_none_right_eq_some, Option.some.injEq] at h
  exact ⟨h.1.1, h.1.2, h.2.symm⟩

theorem step_start (h : s.step .start = some s') :
    s.consumer = .unstarted ∧ s' = { s with loop := .selecting, consumer := .receiving } := by
  simp only [step, Option.ite_none_right_eq_some, Option.some.injEq] at h
  exact ⟨h.1, h.2.symm⟩

theorem step_wake (h : s.step .wake = some s') :
    ∃ i, s.wakeSlot = some i ∧ s.loop = .selecting ∧ s.handlesOpen = true ∧
      s' = { s with wakeSlot := none, callers := s.callers.set i .returned } := by
  simp only [step] at h
  split at h
  · rename_i i slot
    simp only [Option.ite_none_right_eq_some, Option.some.injEq] at h
    exact ⟨i, slot, h.1.1, h.1.2, h.2.symm⟩
  · contradiction

theorem step_disconnect (h : s.step .disconnect = some s') :
    s.loop = .selecting ∧ s.handlesOpen = true ∧ s.handlesHeld = false ∧ s.wakeSlot = none ∧
      s' = { s with handlesOpen := false } := by
  simp only [step, Option.ite_none_right_eq_some, Option.some.injEq] at h
  exact ⟨h.1.1, h.1.2.1, h.1.2.2.1, h.1.2.2.2, h.2.symm⟩

theorem step_fire (h : s.step .fire = some s') :
    s.loop = .selecting ∧ s.phase = .pending ∧ s' = { s with phase := .firing, loop := .sending } := by
  simp only [step, Option.ite_none_right_eq_some, Option.some.injEq] at h
  exact ⟨h.1.1, h.1.2, h.2.symm⟩

theorem step_expire (h : s.step .expire = some s') :
    s.loop = .selecting ∧ s.phase ≠ .pending ∧
      (s.handlesOpen = false ∧ s.phase = .idle ∧ s' = { s with loop := .returned } ∨
        ¬(s.handlesOpen = false ∧ s.phase = .idle) ∧ s' = s) := by
  simp only [step] at h
  split at h
  · rename_i selecting
    split at h
    · rename_i closing
      cases h
      exact ⟨selecting.1, selecting.2, .inl ⟨closing.1, closing.2, rfl⟩⟩
    · rename_i closing
      cases h
      exact ⟨selecting.1, selecting.2, .inr ⟨closing, rfl⟩⟩
  · contradiction

theorem step_send (h : s.step .send = some s') :
    s.loop = .sending ∧ s.fireQueued = false ∧
      s' = { s with loop := .selecting, fireQueued := true } := by
  simp only [step, Option.ite_none_right_eq_some, Option.some.injEq] at h
  exact ⟨h.1.1, h.1.2, h.2.symm⟩

theorem step_take (h : s.step .take = some s') :
    s.consumer = .receiving ∧ s.fireQueued = true ∧
      s' = { s with consumer := .holding, fireQueued := false } := by
  simp only [step, Option.ite_none_right_eq_some, Option.some.injEq] at h
  exact ⟨h.1.1, h.1.2, h.2.symm⟩

theorem step_clear (h : s.step .clear = some s') :
    s.consumer = .holding ∧ s.phase = .firing ∧
      s' = { s with phase := .idle, consumer := .updating } := by
  simp only [step, Option.ite_none_right_eq_some, Option.some.injEq] at h
  exact ⟨h.1.1, h.1.2, h.2.symm⟩

theorem step_discard (h : s.step .discard = some s') :
    s.consumer = .holding ∧ s.phase ≠ .firing ∧ s' = { s with consumer := .receiving } := by
  simp only [step, Option.ite_none_right_eq_some, Option.some.injEq] at h
  exact ⟨h.1.1, h.1.2, h.2.symm⟩

theorem step_finish (h : s.step .finish = some s') :
    s.consumer = .updating ∧ s' = { s with consumer := .receiving } := by
  simp only [step, Option.ite_none_right_eq_some, Option.some.injEq] at h
  exact ⟨h.1, h.2.symm⟩

theorem step_stop (h : s.step .stop = some s') :
    s.consumer = .receiving ∧ s.loop = .returned ∧ s.fireQueued = false ∧
      s' = { s with consumer := .finished } := by
  simp only [step, Option.ite_none_right_eq_some, Option.some.injEq] at h
  exact ⟨h.1.1, h.1.2.1, h.1.2.2, h.2.symm⟩

end Inversion

end State

/-- Replays steps from a fresh coordinator: the state they lead to, or none when one of them
cannot be taken where it stands. -/
def replay (trace : List Action) : Option State :=
  trace.foldl (fun state action => state.bind (·.step action)) (some {})

/-- The runs of a coordinator from its creation: the steps taken, in order, and the state they
lead to. -/
inductive Run : List Action → State → Prop
  | init : Run [] {}
  | step {trace : List Action} {s s' : State} {action : Action} :
      Run trace s → s.step action = some s' → Run (trace ++ [action]) s'

end BalancerSync.Update.Interleaved
