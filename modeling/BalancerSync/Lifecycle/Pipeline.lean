import BalancerSync.Update.Interleaved
import BalancerSync.Topology.Source

/-!
# The watch, coordinate and update loop, one atomic step at a time

`Daemon` reacts to one change at a time.  Here the same loop runs as its threads do, around
one snapshot store and one coordinator:

* a watcher callback that read a snapshot publishes it and then signals;
* a template change and every hang-up signal only signal;
* the start publishes the first snapshot, if one could be read, and signals once the watcher
  runs;
* the update, which the coordinator starts at a clear, loads the store before anything else
  and then renders what it loaded; it cannot end before that load.

Each step is atomic, and the steps of all threads interleave in any order.  Publishing and
loading are single steps on the store, so a load returns the snapshot of the last publish
before it.
-/

namespace BalancerSync.Lifecycle

open BalancerSync.Update

/-- The coordinator, the snapshot store, and what the update started by the latest clear has
loaded. -/
structure Pipeline where
  coordinator : Interleaved.State := {}
  store : Topology.Store := Topology.Store.new
  /-- The snapshot the update of the latest clear loaded; none before that load. -/
  loaded : Option Topology.Cluster := none

namespace Pipeline

/-- One atomic step of one thread. -/
inductive Event where
  /-- A callback publishes a snapshot; it then signals as caller number `caller`. -/
  | publish (caller : Nat) (snapshot : Topology.Cluster)
  /-- A step of the coordinator's parties; a signal without a publication begins with its own
  `arrive`. -/
  | coordinate (action : Interleaved.Action)
  /-- The running update loads the store. -/
  | load

/-- The pipeline after `event`, when its thread can take it now. -/
def step (p : Pipeline) : Event → Option Pipeline
  | .publish i c =>
    (p.coordinator.step (.arrive i)).map fun s =>
      { p with coordinator := s, store := p.store.publish c }
  | .coordinate a =>
    if a = .finish ∧ p.loaded = none then none
    else
      (p.coordinator.step a).map fun s =>
        { p with coordinator := s, loaded := if a = .clear then none else p.loaded }
  | .load =>
    if p.coordinator.consumer = .updating ∧ p.loaded = none then
      some { p with loaded := some p.store.load }
    else none

/-- Replays steps from the start: the pipeline they lead to, or none when one of them cannot be
taken where it stands. -/
def replay (trace : List Event) : Option Pipeline :=
  trace.foldl (fun pipeline event => pipeline.bind (·.step event)) (some {})

/-- The runs of the pipeline from its start: the steps taken, in order, and where they lead. -/
inductive Run : List Event → Pipeline → Prop
  | init : Run [] {}
  | step {trace : List Event} {p p' : Pipeline} {event : Event} :
      Run trace p → p.step event = some p' → Run (trace ++ [event]) p'

/-! ## What each step needs and does -/

section Inversion

variable {p p' : Pipeline}

theorem step_publish {i : Nat} {c : Topology.Cluster} (h : p.step (.publish i c) = some p') :
    ∃ s, p.coordinator.step (.arrive i) = some s ∧
      p' = { p with coordinator := s, store := p.store.publish c } := by
  simp only [step, Option.map_eq_some_iff] at h
  obtain ⟨s, stepped, rfl⟩ := h
  exact ⟨s, stepped, rfl⟩

theorem step_coordinate {a : Interleaved.Action} (h : p.step (.coordinate a) = some p') :
    ¬(a = .finish ∧ p.loaded = none) ∧ ∃ s, p.coordinator.step a = some s ∧
      p' = { p with coordinator := s, loaded := if a = .clear then none else p.loaded } := by
  simp only [step] at h
  split at h
  · contradiction
  · rename_i allowed
    simp only [Option.map_eq_some_iff] at h
    obtain ⟨s, stepped, rfl⟩ := h
    exact ⟨allowed, s, stepped, rfl⟩

theorem step_load (h : p.step .load = some p') :
    p.coordinator.consumer = .updating ∧ p.loaded = none ∧
      p' = { p with loaded := some p.store.load } := by
  simp only [step, Option.ite_none_right_eq_some, Option.some.injEq] at h
  exact ⟨h.1.1, h.1.2, h.2.symm⟩

end Inversion

end Pipeline

end BalancerSync.Lifecycle
