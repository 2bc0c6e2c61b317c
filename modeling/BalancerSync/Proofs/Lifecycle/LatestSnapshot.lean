import BalancerSync.Lifecycle.Pipeline
import BalancerSync.Proofs.Update.Phase

/-!
# The update after a burst renders the latest snapshot

Four orderings together make it so.  A callback publishes before it signals; the store answers
every load with the last publication before it; a signal made after the latest clear keeps the
coordinator out of `Idle` (`Interleaved.phase_ne_idle_iff`); and an update loads the store only
after the clear that started it.  So whenever the coordinator is `Idle`, every snapshot whose
callback has signalled was published before the latest clear, and the update that clear
started loads that snapshot or a later one (`idle_update_renders_signalled_snapshot`).
-/

namespace BalancerSync

theorem eq_append_cons_of_mem_of_not_mem {α : Type} {pre post before after : List α} {x y z : α}
    (split : pre ++ x :: post = before ++ y :: after) (later : z ∈ post) (notAfter : z ∉ after)
    (different : x ≠ y) (notY : z ≠ y) :
    ∃ mid, before = pre ++ x :: mid ∧ post = mid ++ y :: after ∧ z ∈ mid := by
  rcases List.append_eq_append_iff.mp split with ⟨front, rfl, rest⟩ | ⟨back, rfl, rest⟩
  · cases front with
    | nil =>
      simp only [List.nil_append, List.cons.injEq] at rest
      exact absurd rest.1 different
    | cons w mid =>
      simp only [List.cons_append, List.cons.injEq] at rest
      obtain ⟨rfl, rfl⟩ := rest
      refine ⟨mid, rfl, rfl, ?_⟩
      simp only [List.mem_append, List.mem_cons] at later
      rcases later with inMid | isY | inAfter
      · exact inMid
      · exact absurd isY notY
      · exact absurd inAfter notAfter
  · cases back with
    | nil =>
      simp only [List.nil_append, List.cons.injEq] at rest
      exact absurd rest.1.symm different
    | cons w rest' =>
      simp only [List.cons_append, List.cons.injEq] at rest
      obtain ⟨rfl, rfl⟩ := rest
      exact absurd (by simp [later]) notAfter

namespace Lifecycle.Pipeline

open BalancerSync.Update

variable {trace : List Event} {p p' : Pipeline} {event : Event}

/-! ## Runs -/

theorem Run.of_replay (replayed : replay trace = some p) : Run trace p :=
  foldl_bind_induction _ .init Run.step replayed

/-! ## The coordinator inside the pipeline -/

/-- The coordinator's step within a step of the pipeline: a publication's signal begins with
its `arrive`, and a load is no step of the coordinator. -/
def Event.action? : Event → Option Interleaved.Action
  | .publish i _ => some (.arrive i)
  | .coordinate a => some a
  | .load => none

/-- The coordinator's steps within a run of the pipeline. -/
def actions (trace : List Event) : List Interleaved.Action := trace.filterMap Event.action?

theorem actions_concat (trace : List Event) (event : Event) :
    actions (trace ++ [event]) = actions trace ++ event.action?.toList := by
  cases tag : event.action? <;> simp [actions, List.filterMap_append, tag]

theorem Run.coordinator (run : Run trace p) : Interleaved.Run (actions trace) p.coordinator := by
  induction run with
  | init => exact .init
  | @step trace p p' event run stepped ih =>
    rw [actions_concat]
    cases event with
    | publish i c =>
      obtain ⟨s, arrived, rfl⟩ := step_publish stepped
      exact ih.step arrived
    | coordinate a =>
      obtain ⟨-, s, moved, rfl⟩ := step_coordinate stepped
      exact ih.step moved
    | load =>
      obtain ⟨-, -, rfl⟩ := step_load stepped
      simpa [Event.action?] using ih

theorem eq_clear_of_action? {e : Event} (tagged : e.action? = some .clear) :
    e = .coordinate .clear := by
  cases e <;> simp_all [Event.action?]

/-! ## The store and the update's load -/

theorem Run.store_since {pre post : List Event} {i : Nat} {c : Topology.Cluster}
    (run : Run trace p) (split : trace = pre ++ .publish i c :: post) :
    p.store.load = c ∨ ∃ j, .publish j p.store.load ∈ post := by
  induction run generalizing post with
  | init => simp at split
  | @step trace p p' event run stepped ih =>
    rcases append_cons_eq_concat_cases split.symm with ⟨-, rfl, rfl⟩ | ⟨rest, earlier, rfl⟩
    · obtain ⟨s, -, rfl⟩ := step_publish stepped
      exact .inl (Topology.Store.load_publish p.store c)
    · have held := ih earlier
      cases event with
      | publish j d =>
        obtain ⟨s, -, rfl⟩ := step_publish stepped
        exact .inr ⟨j, by simp⟩
      | coordinate a =>
        obtain ⟨-, s, -, rfl⟩ := step_coordinate stepped
        rcases held with same | ⟨j, published⟩
        · exact .inl same
        · exact .inr ⟨j, List.mem_append_left _ published⟩
      | load =>
        obtain ⟨-, -, rfl⟩ := step_load stepped
        rcases held with same | ⟨j, published⟩
        · exact .inl same
        · exact .inr ⟨j, List.mem_append_left _ published⟩

/-- What the update of the latest clear has loaded, it loaded after that clear, from the store
as it stood then. -/
theorem Run.loaded_since_clear {d : Topology.Cluster} (run : Run trace p)
    (loaded : p.loaded = some d) :
    ∃ before after q, trace = before ++ .load :: after ∧ .coordinate .clear ∉ after ∧
      Run before q ∧ q.store.load = d := by
  induction run with
  | init => cases loaded
  | @step trace p p' event run stepped ih =>
    cases event with
    | publish i c =>
      obtain ⟨s, -, rfl⟩ := step_publish stepped
      obtain ⟨before, after, q, rfl, noClear, reached, read⟩ := ih loaded
      exact ⟨before, after ++ [.publish i c], q, by simp, by simp [noClear], reached, read⟩
    | coordinate a =>
      obtain ⟨-, s, -, rfl⟩ := step_coordinate stepped
      by_cases cleared : a = .clear
      · simp [cleared] at loaded
      · simp only [cleared, if_false] at loaded
        obtain ⟨before, after, q, rfl, noClear, reached, read⟩ := ih loaded
        refine ⟨before, after ++ [.coordinate a], q, by simp, ?_, reached, read⟩
        simp [noClear, Ne.symm cleared]
    | load =>
      obtain ⟨-, -, rfl⟩ := step_load stepped
      exact ⟨trace, [], p, rfl, List.not_mem_nil, run, Option.some.inj loaded⟩

/-- Once a clear has started an update, the update of the latest clear runs until it has
loaded: the consumer cannot finish it before its load. -/
theorem Run.updating_until_loaded (run : Run trace p) (cleared : .coordinate .clear ∈ trace)
    (unloaded : p.loaded = none) : p.coordinator.consumer = .updating := by
  induction run with
  | init => cases cleared
  | @step trace p p' event run stepped ih =>
    cases event with
    | publish i c =>
      obtain ⟨s, arrived, rfl⟩ := step_publish stepped
      obtain ⟨-, -, rfl⟩ := Interleaved.State.step_arrive arrived
      exact ih (by simpa using cleared) unloaded
    | coordinate a =>
      obtain ⟨allowed, s, moved, rfl⟩ := step_coordinate stepped
      by_cases clearing : a = .clear
      · subst clearing
        obtain ⟨-, -, rfl⟩ := Interleaved.State.step_clear moved
        rfl
      · simp only [clearing, if_false] at unloaded
        have running := ih (by simpa [Ne.symm clearing] using cleared) unloaded
        by_contra ended
        exact allowed ⟨Interleaved.update_ends_only_at_finish moved running ended, unloaded⟩
    | load =>
      obtain ⟨-, -, rfl⟩ := step_load stepped
      cases unloaded

/-! ## Every signalled snapshot is covered -/

section Signalled

variable {pre post : List Event} {i : Nat} {c : Topology.Cluster}

theorem cleared_after_signal (run : Run (pre ++ .publish i c :: post) p)
    (idle : p.coordinator.phase = .idle) (signalled : .coordinate (.swap i) ∈ post) :
    .coordinate .clear ∈ post := by
  have swapInPost : Interleaved.Action.swap i ∈ actions post :=
    List.mem_filterMap.mpr ⟨_, signalled, rfl⟩
  obtain ⟨front, back, swapSplit⟩ := List.append_of_mem swapInPost
  have whole : actions (pre ++ .publish i c :: post) =
      (actions pre ++ .arrive i :: front) ++ .swap i :: back := by
    simp only [actions, List.filterMap_append, List.filterMap_cons, Event.action?] at swapSplit ⊢
    rw [swapSplit]
    simp
  by_cases clearInBack : Interleaved.Action.clear ∈ back
  · have clearInPost : Interleaved.Action.clear ∈ actions post := by
      rw [swapSplit]
      exact List.mem_append_right _ (List.mem_cons_of_mem _ clearInBack)
    obtain ⟨e, inPost, tagged⟩ := List.mem_filterMap.mp clearInPost
    rw [eq_clear_of_action? tagged] at inPost
    exact inPost
  · have swapped : Interleaved.SwappedSinceClear (actions (pre ++ .publish i c :: post)) :=
      ⟨_, i, back, whole, clearInBack⟩
    exact absurd idle ((Interleaved.phase_ne_idle_iff run.coordinator).mpr swapped)

/-- In `Idle`, the update of the latest clear, once it has loaded, loaded after that clear, and
after every publication whose caller has swapped: the snapshot of that publication or of one
between it and the load. -/
theorem loaded_no_older (run : Run (pre ++ .publish i c :: post) p)
    (idle : p.coordinator.phase = .idle) (signalled : .coordinate (.swap i) ∈ post)
    {d : Topology.Cluster} (loaded : p.loaded = some d) :
    ∃ mid rest, post = mid ++ .load :: rest ∧ .coordinate .clear ∈ mid ∧
      .coordinate .clear ∉ rest ∧ (d = c ∨ ∃ j, .publish j d ∈ mid) := by
  have cleared := cleared_after_signal run idle signalled
  obtain ⟨before, after, q, split, noClear, reached, read⟩ := run.loaded_since_clear loaded
  obtain ⟨mid, rfl, rfl, clearInMid⟩ :=
    eq_append_cons_of_mem_of_not_mem split cleared noClear nofun nofun
  refine ⟨mid, after, rfl, clearInMid, noClear, ?_⟩
  rw [← read]
  exact reached.store_since rfl

/-- The pipeline renders the latest published snapshot.  Whenever the coordinator is `Idle`,
every snapshot whose callback has signalled was published before the latest clear, and the
update that clear started runs until it has loaded, and then has loaded that snapshot or one
published after it and before the load.  So after a burst of publications, each followed by
its signal, the last update renders the last snapshot published. -/
theorem idle_update_renders_signalled_snapshot (run : Run (pre ++ .publish i c :: post) p)
    (idle : p.coordinator.phase = .idle) (signalled : .coordinate (.swap i) ∈ post) :
    .coordinate .clear ∈ post ∧
    (p.loaded = none → p.coordinator.consumer = .updating) ∧
    (∀ d, p.loaded = some d → ∃ mid rest, post = mid ++ .load :: rest ∧
      .coordinate .clear ∈ mid ∧ .coordinate .clear ∉ rest ∧ (d = c ∨ ∃ j, .publish j d ∈ mid)) ∧
    ((∀ j e, .publish j e ∉ post) → p.store.load = c ∧ ∀ d, p.loaded = some d → d = c) := by
  have cleared := cleared_after_signal run idle signalled
  refine ⟨cleared, run.updating_until_loaded (by simp [cleared]),
    fun _ loaded => loaded_no_older run idle signalled loaded, fun lastOne => ⟨?_, ?_⟩⟩
  · rcases run.store_since rfl with current | ⟨j, later⟩
    · exact current
    · exact absurd later (lastOne j _)
  · intro d loaded
    obtain ⟨mid, rest, rfl, -, -, same | ⟨j, later⟩⟩ := loaded_no_older run idle signalled loaded
    · exact same
    · exact absurd (List.mem_append_left _ later) (lastOne j d)

/-- Two publications, each followed by its signal, coalesce into one update, which loads and
keeps the second snapshot. -/
theorem idle_update_renders_signalled_snapshot_after_two_publications :
    Run ([.publish 0 Topology.Cluster.empty, .coordinate (.swap 0), .coordinate .start,
          .coordinate (.offer 0), .coordinate .wake] ++
        .publish 1 { Topology.Cluster.empty with domain := "cluster.local" } ::
        [.coordinate (.swap 1), .coordinate (.offer 1), .coordinate .wake, .coordinate .fire,
          .coordinate .send, .coordinate .take, .coordinate .clear, .load])
      { coordinator :=
          { phase := .idle, callers := [.returned, .returned], loop := .selecting,
            consumer := .updating },
        store := ⟨{ Topology.Cluster.empty with domain := "cluster.local" }⟩,
        loaded := some { Topology.Cluster.empty with domain := "cluster.local" } } ∧
    Event.coordinate (.swap 1) ∈ ([.coordinate (.swap 1), .coordinate (.offer 1),
      .coordinate .wake, .coordinate .fire, .coordinate .send, .coordinate .take,
      .coordinate .clear, .load] : List Event) ∧
    Event.coordinate .clear ∈ ([.coordinate (.swap 1), .coordinate (.offer 1),
      .coordinate .wake, .coordinate .fire, .coordinate .send, .coordinate .take,
      .coordinate .clear, .load] : List Event) ∧
    Topology.Store.load ⟨{ Topology.Cluster.empty with domain := "cluster.local" }⟩ =
      { Topology.Cluster.empty with domain := "cluster.local" } ∧
    ∀ d, some { Topology.Cluster.empty with domain := "cluster.local" } = some d →
      d = { Topology.Cluster.empty with domain := "cluster.local" } :=
  have run := Run.of_replay rfl
  have signalled : Event.coordinate (.swap 1) ∈ _ := List.mem_cons_self
  have rendered := idle_update_renders_signalled_snapshot run rfl signalled
  ⟨run, signalled, rendered.1, rendered.2.2.2 (by simp)⟩

end Signalled

end Lifecycle.Pipeline

end BalancerSync
