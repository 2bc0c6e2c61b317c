/-!
# The update coordinator

A trailing-edge debounce between change signals and the update that reacts to them.  Three
parties share one phase, `Idle`, `Pending` or `Firing`:

* signallers set the phase to `Pending` and wake the quiescence loop;
* the quiescence loop waits for one quiet window; every wake-up restarts the window, and
  so does every expiry and every fire it sends.  When a window ends in `Pending` it moves
  the phase to `Firing` and sends a fire event into a channel that holds one event;
* the consumer takes fire events one at a time.  It runs the update only after its own
  `Firing → Idle` step succeeds; a fire event taken in `Pending` is dropped (a later fire
  is already due) and one taken in `Idle` is dropped too (an update already covered it).

This module holds the parties' states and the steps each of them takes.  The loop ends
when it cannot send (the consumer is gone), or at an expiry in `Idle` once every signaller
handle is gone; the consumer ends when the loop has ended and no event is left.
-/

namespace BalancerSync.Update

/-- The shared phase. -/
inductive Phase where
  | idle
  | pending
  | firing
deriving DecidableEq, Repr, Inhabited

/-- The phase's name. -/
def Phase.name : Phase → String
  | .idle => "Idle"
  | .pending => "Pending"
  | .firing => "Firing"

/-- Compare-and-swap: the phase `next` when the current phase is `expected`. -/
def Phase.swapIf (current expected next : Phase) : Option Phase :=
  if current = expected then some next else none

/-- Where the quiescence loop is. -/
inductive LoopStatus where
  /-- Not yet started by the consumer. -/
  | unstarted
  /-- Waiting for a wake-up or for its window to end at `deadline`. -/
  | waiting (deadline : Nat)
  /-- Holding a fire event the full channel has no room for. -/
  | sending
  /-- Returned. -/
  | finished
deriving DecidableEq, Repr, Inhabited

/-- Where the consumer is. -/
inductive ConsumerStatus where
  /-- Not yet started. -/
  | unstarted
  /-- Waiting for a fire event. -/
  | receiving
  /-- Running an update that ends at `finish`. -/
  | updating (finish : Nat)
  /-- Returned, after the loop ended and the channel emptied. -/
  | finished
  /-- Stopped from outside. -/
  | cancelled
deriving DecidableEq, Repr, Inhabited

/-- The whole coordinator at one moment. -/
structure Coordinator where
  /-- The length of a quiet window. -/
  quiescence : Nat
  /-- How long each update runs: update `i` takes entry `i`, the last entry repeating. -/
  work : List Nat
  phase : Phase := .idle
  loop : LoopStatus := .unstarted
  /-- Some signaller handle is still open. -/
  handlesOpen : Bool := true
  /-- The fire channel holds an event. -/
  fireQueued : Bool := false
  consumer : ConsumerStatus := .unstarted
  /-- Start times of the updates so far, in order. -/
  starts : List Nat := []
  /-- End times of the updates that ended, in order. -/
  ends : List Nat := []
deriving Repr, Inhabited

namespace Coordinator

/-- How many updates have started. -/
def started (c : Coordinator) : Nat := c.starts.length

/-- How long update number `index` runs. -/
def workOf (c : Coordinator) (index : Nat) : Nat :=
  match c.work with
  | [] => 0
  | w :: ws => ((w :: ws)[index]?).getD ((w :: ws).getLast (by simp))

/-- The consumer has returned or been stopped. -/
def consumerDone (c : Coordinator) : Bool :=
  match c.consumer with
  | .finished | .cancelled => true
  | _ => false

/-- The consumer's first run starts the quiescence loop, with a first window from `now`. -/
def begin (c : Coordinator) (now : Nat) : Coordinator :=
  match c.consumer with
  | .unstarted => { c with consumer := .receiving, loop := .waiting (now + c.quiescence) }
  | _ => c

/-- A signaller's swap: the phase becomes `Pending`, whatever it was. -/
def markPending (c : Coordinator) : Coordinator := { c with phase := .pending }

/-- The loop takes a wake-up: its window restarts at `now`. -/
def wake (c : Coordinator) (now : Nat) : Coordinator :=
  match c.loop with
  | .waiting _ => { c with loop := .waiting (now + c.quiescence) }
  | _ => c

/-- The loop can take a wake-up now. -/
def listening (c : Coordinator) : Bool :=
  match c.loop with
  | .waiting _ => true
  | _ => false

/-- The last handle is dropped: the loop sees its wake channel closed, which restarts its
window. -/
def closeHandles (c : Coordinator) (now : Nat) : Coordinator :=
  { c.wake now with handlesOpen := false }

/-- The consumer takes the event in the channel.  A loop holding an event then puts it in
and restarts its window.  Taken in `Firing`, the event starts an update. -/
def take (c : Coordinator) (now : Nat) : Coordinator :=
  let c := match c.loop with
    | .sending => { c with loop := .waiting (now + c.quiescence) }
    | _ => { c with fireQueued := false }
  match c.phase.swapIf .firing .idle with
  | some phase =>
    { c with phase := phase, consumer := .updating (now + c.workOf c.started),
             starts := c.starts ++ [now] }
  | none => c

/-- One step of the consumer at `now`, if it has one: end an update that is due, take an
event, or return once the loop has ended and the channel is empty. -/
def consumerStep? (c : Coordinator) (now : Nat) : Option Coordinator :=
  match c.consumer with
  | .updating finish =>
    if finish ≤ now then some { c with consumer := .receiving, ends := c.ends ++ [finish] }
    else none
  | .receiving =>
    if c.fireQueued then some (c.take now)
    else if c.loop = .finished then some { c with consumer := .finished }
    else none
  | _ => none

/-- The consumer's steps at `now`, at most `fuel` of them. -/
def consumerSteps (c : Coordinator) (now : Nat) : Nat → Coordinator
  | 0 => c
  | fuel + 1 =>
    match c.consumerStep? now with
    | some next => consumerSteps next now fuel
    | none => c

/-- The loop's window ends at `now`.  In `Pending` it moves to `Firing` and sends a fire
event: into the channel when it has room, held when it is full, and not at all when the
consumer is gone (then the loop returns).  In `Idle` with every handle gone it returns.
Otherwise a new window starts. -/
def expire (c : Coordinator) (now : Nat) : Coordinator :=
  match c.phase.swapIf .pending .firing with
  | some phase =>
    let c := { c with phase := phase }
    if c.consumerDone then { c with loop := .finished }
    else if c.fireQueued then { c with loop := .sending }
    else { c with fireQueued := true, loop := .waiting (now + c.quiescence) }
  | none =>
    if !c.handlesOpen && c.phase = .idle then { c with loop := .finished }
    else { c with loop := .waiting (now + c.quiescence) }

/-- The loop's window has ended by `now`. -/
def due (c : Coordinator) (now : Nat) : Bool :=
  match c.loop with
  | .waiting deadline => deadline ≤ now
  | _ => false

/-- Everything the coordinator does at `now` before it waits again: the consumer's steps,
the loop's expiry if due, and the consumer's steps after it.  A consumer step ends an
update, takes one of at most two events (the queued one and the one the loop held) or
returns, so eight steps are enough; the expiry restarts the window after `now`. -/
def settle (c : Coordinator) (now : Nat) : Coordinator :=
  let c := c.consumerSteps now 8
  if c.due now then (c.expire now).consumerSteps now 8 else c

/-- When the coordinator next acts on its own: the end of the loop's window or of the
running update. -/
def nextEvent? (c : Coordinator) : Option Nat :=
  let deadline := match c.loop with
    | .waiting d => some d
    | _ => none
  let finish := match c.consumer with
    | .updating u => some u
    | _ => none
  match deadline, finish with
  | some d, some u => some (min d u)
  | some d, none => some d
  | none, some u => some u
  | none, none => none

/-- Stop the consumer.  Its update stops unfinished and its channel closes, so a loop
holding an event returns. -/
def cancel (c : Coordinator) : Coordinator :=
  if c.consumerDone then c
  else
    let c := { c with consumer := .cancelled, fireQueued := false }
    match c.loop with
    | .sending => { c with loop := .finished }
    | _ => c

end Coordinator

end BalancerSync.Update
