import BalancerSync.Update.Coordinator

/-!
# The coordinator on a paused clock

A caller drives the coordinator through a list of requests on a clock that moves only when
every party waits, and then straight to the next moment one of them acts.  The caller
signals (alone, from several tasks at once, or from a blocking thread), sleeps, drops its
only handle, or stops the consumer, and after each request notes the time, the phase and
how many updates have started.

The consumer and the loop start at the caller's first wait.  A signal sets `Pending` and
wakes the loop, which restarts its window at once; while the loop holds a fire event it
takes no wake-up, so the signal waits until the consumer makes room.  A signal after the
loop has returned only sets `Pending`.  When the caller's sleep ends at the same moment as
something the coordinator does, the caller looks first.
-/

namespace BalancerSync.Update

/-- A request of the caller. -/
inductive Request where
  /-- Signal and wait for the loop to take the wake-up. -/
  | signal
  /-- Signal from this many tasks at once and wait for all of them. -/
  | signals (count : Nat)
  /-- Signal from a blocking thread and wait for it. -/
  | blockingSignal
  /-- Sleep this many milliseconds. -/
  | sleep (ms : Nat)
  /-- Only look. -/
  | look
  /-- Drop the only handle; once it is gone there is nothing left to drop. -/
  | dropHandle
  /-- Stop the consumer, then yield once. -/
  | abortConsumer
  /-- A request of an unknown kind. -/
  | unknown (name : String)
deriving Repr, Inhabited

/-- What the caller notes after a request. -/
inductive Note where
  /-- The time since the start, the phase (none once the handle is dropped), how many
  updates have started, and, once the consumer was stopped or the handle dropped, whether
  the consumer has returned. -/
  | step (time : Nat) (phase : Option Phase) (started : Nat) (consumerDone : Option Bool)
  /-- A request that could not be made. -/
  | refused (message : String)
deriving Repr, Inhabited

/-- The caller and the coordinator at one moment. -/
structure Timeline where
  now : Nat := 0
  coordinator : Coordinator
  /-- The caller has dropped its handle. -/
  dropped : Bool := false
  /-- The caller has dropped its handle or stopped the consumer. -/
  watching : Bool := false
  notes : List Note := []
deriving Repr, Inhabited

namespace Timeline

/-- The caller waits: the consumer and the loop start if they have not, and everything due
now happens. -/
def yieldNow (t : Timeline) : Timeline :=
  { t with coordinator := (t.coordinator.begin t.now).settle t.now }

/-- Let the coordinator act at every moment before `target`, at most `fuel` moments, and
move the clock to `target`. -/
def runBefore (t : Timeline) (target : Nat) : Nat → Timeline
  | 0 => { t with now := target }
  | fuel + 1 =>
    match t.coordinator.nextEvent? with
    | some moment =>
      if moment < target then
        runBefore { t with now := moment, coordinator := t.coordinator.settle moment } target fuel
      else { t with now := target }
    | none => { t with now := target }

/-- Sleep until `target`.  Every moment the coordinator acts at is after the one before, so
`target - now` moments are enough. -/
def sleepUntil (t : Timeline) (target : Nat) : Timeline :=
  t.runBefore target (target - t.now + 1)

/-- Wait until the loop takes wake-ups again: a loop holding a fire event waits for the
running update to end and the consumer to take the queued one. -/
def awaitListening (t : Timeline) : Timeline :=
  match t.coordinator.loop, t.coordinator.consumer with
  | .sending, .updating finish =>
    let now := max t.now finish
    { t with now := now, coordinator := t.coordinator.settle now }
  | _, _ => t

/-- A signal: `Pending`, then a wake-up the loop takes (waiting for it if it must). -/
def signal (t : Timeline) : Timeline :=
  let t := { t with coordinator := t.coordinator.markPending }
  let t := t.yieldNow
  let t := if t.coordinator.loop = .sending then t.awaitListening else t
  { t with coordinator := t.coordinator.wake t.now }.yieldNow

/-- The note for the present moment. -/
def note (t : Timeline) : Note :=
  .step t.now (if t.dropped then none else some t.coordinator.phase) t.coordinator.started
    (if t.watching then some t.coordinator.consumerDone else none)

/-- Note the present moment. -/
def noted (t : Timeline) : Timeline := { t with notes := t.notes ++ [t.note] }

/-- Note a request that could not be made. -/
def refuse (t : Timeline) (message : String) : Timeline :=
  { t with notes := t.notes ++ [.refused message] }

/-- Signal from `count` tasks at once: each sets `Pending` and wakes the loop, which takes
the wake-ups one after another at the same moment.  No task, no wait. -/
def signalFrom (t : Timeline) (count : Nat) : Timeline :=
  if t.dropped then t.refuse "handle dropped"
  else if count = 0 then t.noted
  else t.signal.noted

/-- Carry out one request and note the result. -/
def perform (t : Timeline) : Request → Timeline
  | .signal | .blockingSignal => t.signalFrom 1
  | .signals count => t.signalFrom count
  | .sleep ms => (t.yieldNow.sleepUntil (t.now + ms)).noted
  | .look => t.noted
  | .dropHandle =>
    if t.dropped then t.noted
    else
      { t with dropped := true, watching := true,
               coordinator := t.coordinator.closeHandles t.now }.noted
  | .abortConsumer => { t with watching := true, coordinator := t.coordinator.cancel }.yieldNow.noted
  | .unknown name => t.refuse ("unknown op `" ++ name ++ "`")

/-- Carry out requests in order. -/
def performAll (t : Timeline) : List Request → Timeline
  | [] => t
  | r :: rest => (t.perform r).performAll rest

end Timeline

/-- The outcome of a run: the caller's notes, and when updates started and ended. -/
structure RunReport where
  notes : List Note
  starts : List Nat
  ends : List Nat

/-- Run requests against a fresh coordinator with quiet windows of `quiescence`
milliseconds and updates lasting `work` milliseconds each (the last entry repeating). -/
def runRequests (quiescence : Nat) (work : List Nat) (requests : List Request) : RunReport :=
  let final := ({ coordinator := { quiescence := quiescence, work := work } } : Timeline).performAll
    requests
  ⟨final.notes, final.coordinator.starts, final.coordinator.ends⟩

end BalancerSync.Update
