import BalancerSync.Update.Interleaved

/-!
# The coordinator's parties on the clock

`Interleaved` leaves time out.  Here every step carries the time at which it is taken, and the
one timed rule of the coordinator comes in: each time the loop enters its select it creates a
new sleep of the quiescence period, so a window ends, in a fire or an expiry, no earlier than
the quiescence period after the loop last entered the select.  The loop enters it when it
starts, after every wake-up it takes, when it finds the wake channel closed, after an expiry
that does not end it, and after every fire it sends.

Nothing else is timed.  A signaller may swap and offer, the consumer may take and clear, and an
update may end at any moment; a sleep may complete later than its deadline, and when a wake-up
and the end of a window are both ready either may come first.
-/

namespace BalancerSync.Update.Interleaved

/-- A step and the time at which it is taken. -/
structure Stamped where
  time : Nat
  action : Action
deriving DecidableEq, Repr

/-- The parties, the time of the latest step, and when the loop last entered its select. -/
structure Clocked where
  state : State := {}
  now : Nat := 0
  /-- When the sleep of the loop's current select was created. -/
  windowStart : Nat := 0
deriving DecidableEq, Repr

namespace Clocked

/-- The coordinator after `x`, when its party can take it at its time: time never runs back,
and a window ends no earlier than `quiescence` after it started. -/
def step (quiescence : Nat) (c : Clocked) (x : Stamped) : Option Clocked :=
  if x.time < c.now then none
  else if x.action.endsWindow = true ∧ x.time < c.windowStart + quiescence then none
  else
    (c.state.step x.action).map fun s =>
      { state := s, now := x.time,
        windowStart := if x.action.restartsWindow = true then x.time else c.windowStart }

theorem step_eq_some {quiescence : Nat} {c c' : Clocked} {x : Stamped}
    (h : c.step quiescence x = some c') :
    c.now ≤ x.time ∧ (x.action.endsWindow = true → c.windowStart + quiescence ≤ x.time) ∧
      ∃ s, c.state.step x.action = some s ∧
        c' = { state := s, now := x.time,
               windowStart :=
                 if x.action.restartsWindow = true then x.time else c.windowStart } := by
  simp only [step] at h
  split at h
  · contradiction
  · rename_i onTime
    split at h
    · contradiction
    · rename_i notEarly
      simp only [Option.map_eq_some_iff] at h
      obtain ⟨s, stepped, rfl⟩ := h
      refine ⟨Nat.le_of_not_lt onTime, fun ends => ?_, s, stepped, rfl⟩
      exact Nat.le_of_not_lt fun early => notEarly ⟨ends, early⟩

/-- Replays timed steps from a fresh coordinator at time zero: where they lead, or none when
one of them cannot be taken at its time. -/
def replay (quiescence : Nat) (log : List Stamped) : Option Clocked :=
  log.foldl (fun c x => c.bind (·.step quiescence x)) (some {})

/-- The timed runs of a coordinator with quiescence period `quiescence`: the steps taken with
their times, in order, and where they lead. -/
inductive Run (quiescence : Nat) : List Stamped → Clocked → Prop
  | init : Run quiescence [] {}
  | step {log : List Stamped} {c c' : Clocked} {x : Stamped} :
      Run quiescence log c → c.step quiescence x = some c' → Run quiescence (log ++ [x]) c'

end Clocked

end BalancerSync.Update.Interleaved
