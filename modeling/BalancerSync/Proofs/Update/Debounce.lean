import BalancerSync.Update.Clocked
import BalancerSync.Proofs.Update.Phase

/-!
# Trailing-edge debounce

The loop fires only at the end of a window at least the quiescence period long in which it
took no step at all: no wake-up, no closed channel, no expiry, no send
(`Clocked.Run.fire_after_quiet_window`).  Each of those steps starts a new window, so every
fire comes at least the quiescence period after each of them (`Clocked.Run.restart_before_fire`).
An update starts at a clear, which finds `Firing`: the fire that set it came earlier, and no
swap, fire or clear came between (`Clocked.Run.clear_after_last_fire`).

So wake-ups that the loop takes less than the quiescence period apart hold every fire off
until the quiescence period after the last of them (`Clocked.Run.no_fire_inside_burst`): a
burst fires only once the loop has been quiet for the quiescence period after its last
wake-up, and wake-ups that never stop starve the update.  The window is measured from the wake-ups the loop takes, not from the swaps: a swap
that comes just before a window ends is fired with that window.
-/

namespace BalancerSync.Update.Interleaved

variable {s s' : State} {action : Action}

/-! ## How the loop moves -/

theorem Action.restartsWindow_eq_false (other : action.byLoop = false) :
    action.restartsWindow = false := by
  cases action <;> simp_all [Action.byLoop, Action.restartsWindow]

/-- The loop moves only by its own steps, and the one of them that starts no window is a fire,
which leaves the loop holding its event. -/
theorem step_loop (stepped : s.step action = some s') :
    action.restartsWindow = true ∨ (action = .fire ∧ s'.loop = .sending) ∨
      (action.byLoop = false ∧ s'.loop = s.loop) := by
  cases action
  case start | wake | disconnect | expire | send => exact .inl rfl
  case fire =>
    obtain ⟨-, -, rfl⟩ := State.step_fire stepped
    exact .inr (.inl ⟨rfl, rfl⟩)
  all_goals refine .inr (.inr ⟨rfl, ?_⟩)
  case arrive => obtain ⟨-, -, rfl⟩ := State.step_arrive stepped; rfl
  case swap => obtain ⟨-, rfl⟩ := State.step_swap stepped; rfl
  case offer => obtain ⟨-, ⟨-, rfl⟩ | ⟨-, -, rfl⟩⟩ := State.step_offer stepped <;> rfl
  case release => obtain ⟨-, -, rfl⟩ := State.step_release stepped; rfl
  case take => obtain ⟨-, -, rfl⟩ := State.step_take stepped; rfl
  case clear => obtain ⟨-, -, rfl⟩ := State.step_clear stepped; rfl
  case discard => obtain ⟨-, -, rfl⟩ := State.step_discard stepped; rfl
  case finish => obtain ⟨-, rfl⟩ := State.step_finish stepped; rfl
  case stop => obtain ⟨-, -, -, rfl⟩ := State.step_stop stepped; rfl

theorem mem_before_of_time_lt {pre post : List Stamped} {x y : Stamped}
    (sorted : (pre ++ x :: post).Pairwise (·.time ≤ ·.time)) (member : y ∈ pre ++ x :: post)
    (earlier : y.time < x.time) : y ∈ pre := by
  rcases List.mem_append.mp member with inPre | inRest
  · exact inPre
  · have notBefore := (List.pairwise_cons.mp (List.pairwise_append.mp sorted).2.1).1
    rcases List.mem_cons.mp inRest with rfl | inPost
    · exact absurd earlier (Nat.lt_irrefl _)
    · exact absurd (notBefore y inPost) (Nat.not_le_of_lt earlier)

/-- Every moment after the first of a chain of times, each less than `gap` after the one
before, and less than `gap` after its last, is less than `gap` after some time of the chain
that precedes it. -/
theorem exists_shortly_before {gap first moment : Nat} {rest : List Nat}
    (chain : (first :: rest).IsChain (fun w w' => w' < w + gap)) (after : first < moment)
    (within : moment < (first :: rest).getLast (List.cons_ne_nil _ _) + gap) :
    ∃ w ∈ first :: rest, w < moment ∧ moment < w + gap := by
  induction rest generalizing first with
  | nil => exact ⟨first, List.mem_singleton_self _, after, within⟩
  | cons next rest ih =>
    obtain ⟨close, chain⟩ := List.isChain_cons_cons.mp chain
    by_cases soon : moment < first + gap
    · exact ⟨first, List.mem_cons_self, after, soon⟩
    · rw [List.getLast_cons_cons] at within
      obtain ⟨w, member, before, near⟩ := ih chain (by omega) within
      exact ⟨w, List.mem_cons_of_mem _ member, before, near⟩

namespace Clocked

variable {quiescence : Nat} {log : List Stamped} {c : Clocked}

/-! ## Timed runs -/

theorem Run.of_replay (replayed : replay quiescence log = some c) : Run quiescence log c :=
  foldl_bind_induction _ .init Run.step replayed

theorem Run.untimed (run : Run quiescence log c) :
    Interleaved.Run (log.map Stamped.action) c.state := by
  induction run with
  | init => exact .init
  | step _ stepped ih =>
    obtain ⟨-, -, s, moved, rfl⟩ := step_eq_some stepped
    rw [List.map_append]
    exact ih.step moved

theorem Run.time_le_now (run : Run quiescence log c) : ∀ y ∈ log, y.time ≤ c.now := by
  induction run with
  | init => simp
  | @step log c c' x run stepped ih =>
    obtain ⟨onTime, -, s, -, rfl⟩ := step_eq_some stepped
    intro y member
    rcases List.mem_append.mp member with earlier | last
    · exact Nat.le_trans (ih y earlier) onTime
    · exact Nat.le_of_eq (congrArg Stamped.time (List.mem_singleton.mp last))

theorem Run.sorted (run : Run quiescence log c) : log.Pairwise (·.time ≤ ·.time) := by
  induction run with
  | init => exact .nil
  | @step log c c' x run stepped ih =>
    obtain ⟨onTime, -⟩ := step_eq_some stepped
    refine List.pairwise_append.mpr ⟨ih, List.pairwise_singleton _ _, fun y member z last => ?_⟩
    rw [List.mem_singleton.mp last]
    exact Nat.le_trans (run.time_le_now y member) onTime

theorem Run.before {pre post : List Stamped} {x : Stamped} (run : Run quiescence log c)
    (split : log = pre ++ x :: post) :
    ∃ b b', Run quiescence pre b ∧ b.step quiescence x = some b' := by
  induction run generalizing post with
  | init => simp at split
  | @step log c c' y run stepped ih =>
    rcases append_cons_eq_concat_cases split.symm with ⟨rfl, rfl, -⟩ | ⟨rest, earlier, -⟩
    · exact ⟨c, c', run, stepped⟩
    · exact ih earlier

/-! ## Windows -/

/-- While the loop sits in its select, the last step it took entered the select, and its
window started then. -/
theorem Run.window_since_restart (run : Run quiescence log c)
    (selecting : c.state.loop = .selecting) :
    ∃ before r between, log = before ++ ⟨c.windowStart, r⟩ :: between ∧
      r.restartsWindow = true ∧ ∀ y ∈ between, y.action.byLoop = false := by
  induction run with
  | init => cases selecting
  | @step log c c' x run stepped ih =>
    obtain ⟨-, -, s, moved, rfl⟩ := step_eq_some stepped
    dsimp only at selecting ⊢
    rcases step_loop moved with restarts | ⟨-, sending⟩ | ⟨other, same⟩
    · refine ⟨log, x.action, [], ?_, restarts, by simp⟩
      simp [restarts]
    · rw [sending] at selecting
      cases selecting
    · obtain ⟨before, r, between, split, restarts, quiet⟩ := ih (same ▸ selecting)
      refine ⟨before, r, between ++ [x], ?_, restarts, fun y member => ?_⟩
      · simp [Action.restartsWindow_eq_false other, split]
      · rcases List.mem_append.mp member with earlier | last
        · exact quiet y earlier
        · rw [List.mem_singleton.mp last]
          exact other

/-- A fire ends a window of at least the quiescence period in which the loop took no step:
the loop entered its select at a time `start` at least the quiescence period before the fire,
and took neither a wake-up nor any other step until the fire. -/
theorem Run.fire_after_quiet_window {pre post : List Stamped} {fired : Nat}
    (run : Run quiescence log c) (split : log = pre ++ ⟨fired, .fire⟩ :: post) :
    ∃ before start r between, pre = before ++ ⟨start, r⟩ :: between ∧
      r.restartsWindow = true ∧ start + quiescence ≤ fired ∧
      ∀ y ∈ between, y.action.byLoop = false := by
  obtain ⟨b, b', reached, stepped⟩ := run.before split
  obtain ⟨-, full, s, moved, -⟩ := step_eq_some stepped
  have selecting := (State.step_fire moved).1
  obtain ⟨before, r, between, rfl, restarts, quiet⟩ := reached.window_since_restart selecting
  exact ⟨before, b.windowStart, r, between, rfl, restarts, full rfl, quiet⟩

/-- Every step that started a window before a fire did so at least the quiescence period
before it. -/
theorem Run.restart_before_fire {pre post : List Stamped} {fired : Nat}
    (run : Run quiescence log c) (split : log = pre ++ ⟨fired, .fire⟩ :: post)
    {y : Stamped} (member : y ∈ pre) (restarts : y.action.restartsWindow = true) :
    y.time + quiescence ≤ fired := by
  obtain ⟨before, start, r, between, rfl, -, full, quiet⟩ := run.fire_after_quiet_window split
  have sorted := run.sorted
  rw [split, List.pairwise_append] at sorted
  have notLater : y.time ≤ start := by
    rcases List.mem_append.mp member with earlier | inWindow
    · exact (List.pairwise_append.mp sorted.1).2.2 y earlier _ List.mem_cons_self
    · rcases List.mem_cons.mp inWindow with rfl | inside
      · exact Nat.le_refl _
      · rw [Action.restartsWindow_eq_false (quiet y inside)] at restarts
        cases restarts
  omega

theorem Run.restart_long_before_fire {y : Stamped} {fired : Nat} (run : Run quiescence log c)
    (member : y ∈ log) (firing : ⟨fired, .fire⟩ ∈ log)
    (restarts : y.action.restartsWindow = true) (earlier : y.time < fired) :
    y.time + quiescence ≤ fired := by
  obtain ⟨pre, post, split⟩ := List.append_of_mem firing
  have sorted := run.sorted
  rw [split] at sorted member
  exact run.restart_before_fire split (mem_before_of_time_lt sorted member earlier) restarts

/-- Wake-ups that the loop takes less than the quiescence period apart hold every fire off,
from just after the first of them until the quiescence period after the last. -/
theorem Run.no_fire_inside_burst {first fired : Nat} {rest : List Nat}
    (run : Run quiescence log c) (woken : ∀ w ∈ first :: rest, ⟨w, .wake⟩ ∈ log)
    (chain : (first :: rest).IsChain (fun w w' => w' < w + quiescence))
    (firing : ⟨fired, .fire⟩ ∈ log) :
    fired ≤ first ∨ (first :: rest).getLast (List.cons_ne_nil _ _) + quiescence ≤ fired := by
  by_cases early : fired ≤ first
  · exact .inl early
  · refine .inr (Nat.le_of_not_lt fun within => ?_)
    obtain ⟨w, member, before, near⟩ :=
      exists_shortly_before chain (Nat.lt_of_not_le early) within
    have far : w + quiescence ≤ fired :=
      run.restart_long_before_fire (woken w member) firing rfl before
    omega

/-! ## Updates -/

/-- An update starts at a clear that finds `Firing`, set by the last fire before it: no swap,
fire or clear came between them. -/
theorem Run.clear_after_last_fire {pre post : List Stamped} {started : Nat}
    (run : Run quiescence log c) (split : log = pre ++ ⟨started, .clear⟩ :: post) :
    ∃ before fired between, pre = before ++ ⟨fired, .fire⟩ :: between ∧ fired ≤ started ∧
      ∀ y ∈ between, y.action.movesPhase = false := by
  obtain ⟨b, b', reached, stepped⟩ := run.before split
  obtain ⟨onTime, -, s, moved, -⟩ := step_eq_some stepped
  have firing := (State.step_clear moved).2.1
  obtain ⟨front, back, untimedSplit, quiet⟩ := firing_since_fire reached.untimed firing
  obtain ⟨before, rest, rfl, -, fireAndBack⟩ := List.map_eq_append_iff.mp untimedSplit
  obtain ⟨x, between, rfl, isFire, backMap⟩ := List.map_eq_cons_iff.mp fireAndBack
  refine ⟨before, x.time, between, ?_, ?_, fun y member => ?_⟩
  · obtain ⟨time, action⟩ := x
    cases isFire
    rfl
  · exact Nat.le_trans (reached.time_le_now x (by simp)) onTime
  · rw [← backMap] at quiet
    exact quiet y.action (List.mem_map_of_mem member)

/-! ## The debounce -/

/-- The loop debounces on the trailing edge.  Every fire ends a window of at least the
quiescence period in which the loop took no step, in particular no wake-up; every step that
starts a window (a wake-up taken, the closed channel found, an expiry, a fire sent) comes at
least the quiescence period before every later fire.  Every update starts after the last fire
before it, with no swap, fire or clear between.  And when the loop takes wake-ups less than the
quiescence period apart, no fire comes after the first of them and before the quiescence
period after the last. -/
theorem trailing_edge_debounce (run : Run quiescence log c) :
    (∀ pre fired post, log = pre ++ ⟨fired, .fire⟩ :: post →
      (∃ before start r between, pre = before ++ ⟨start, r⟩ :: between ∧
        r.restartsWindow = true ∧ start + quiescence ≤ fired ∧
        ∀ y ∈ between, y.action.byLoop = false) ∧
      ∀ y ∈ pre, y.action.restartsWindow = true → y.time + quiescence ≤ fired) ∧
    (∀ pre started post, log = pre ++ ⟨started, .clear⟩ :: post →
      ∃ before fired between, pre = before ++ ⟨fired, .fire⟩ :: between ∧ fired ≤ started ∧
        ∀ y ∈ between, y.action.movesPhase = false) ∧
    (∀ first rest, (∀ w ∈ first :: rest, ⟨w, .wake⟩ ∈ log) →
      (first :: rest).IsChain (fun w w' => w' < w + quiescence) →
      ∀ fired, ⟨fired, .fire⟩ ∈ log →
        fired ≤ first ∨ (first :: rest).getLast (List.cons_ne_nil _ _) + quiescence ≤ fired) := by
  refine ⟨fun pre fired post split => ⟨run.fire_after_quiet_window split, ?_⟩, ?_, ?_⟩
  · intro y member restarts
    exact run.restart_before_fire split member restarts
  · intro pre started post split
    exact run.clear_after_last_fire split
  · intro first rest woken chain fired firing
    exact run.no_fire_inside_burst woken chain firing

/-- Two signals whose wake-ups the loop takes two ticks apart, with a quiescence period of
five: the one fire comes five ticks after the second wake-up, and its update starts a tick
later. -/
theorem trailing_edge_debounce_two_signals :
    Run 5
      [⟨0, .start⟩, ⟨1, .arrive 0⟩, ⟨1, .swap 0⟩, ⟨1, .offer 0⟩, ⟨2, .wake⟩,
        ⟨3, .arrive 1⟩, ⟨3, .swap 1⟩, ⟨3, .offer 1⟩, ⟨4, .wake⟩, ⟨9, .fire⟩, ⟨9, .send⟩,
        ⟨10, .take⟩, ⟨10, .clear⟩]
      { state :=
          { callers := [.returned, .returned], loop := .selecting, consumer := .updating },
        now := 10, windowStart := 9 } ∧
    (∀ w ∈ [2, 4], (⟨w, .wake⟩ : Stamped) ∈
      ([⟨0, .start⟩, ⟨1, .arrive 0⟩, ⟨1, .swap 0⟩, ⟨1, .offer 0⟩, ⟨2, .wake⟩,
        ⟨3, .arrive 1⟩, ⟨3, .swap 1⟩, ⟨3, .offer 1⟩, ⟨4, .wake⟩, ⟨9, .fire⟩, ⟨9, .send⟩,
        ⟨10, .take⟩, ⟨10, .clear⟩] : List Stamped)) ∧
    [2, 4].IsChain (fun w w' => w' < w + 5) ∧
    ∀ fired, (⟨fired, .fire⟩ : Stamped) ∈
      ([⟨0, .start⟩, ⟨1, .arrive 0⟩, ⟨1, .swap 0⟩, ⟨1, .offer 0⟩, ⟨2, .wake⟩,
        ⟨3, .arrive 1⟩, ⟨3, .swap 1⟩, ⟨3, .offer 1⟩, ⟨4, .wake⟩, ⟨9, .fire⟩, ⟨9, .send⟩,
        ⟨10, .take⟩, ⟨10, .clear⟩] : List Stamped) →
      fired ≤ 2 ∨ 9 ≤ fired :=
  have run := Run.of_replay (by decide)
  have woken : ∀ w ∈ [2, 4], (⟨w, .wake⟩ : Stamped) ∈ _ := by decide
  have chain : [2, 4].IsChain (fun w w' => w' < w + 5) := by decide
  ⟨run, woken, chain, (trailing_edge_debounce run).2.2 2 [4] woken chain⟩

end Clocked

end BalancerSync.Update.Interleaved
