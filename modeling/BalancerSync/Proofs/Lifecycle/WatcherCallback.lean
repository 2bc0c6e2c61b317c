import Mathlib
import BalancerSync.Proofs.Lifecycle.OwnWrites

/-!
# The watcher's callback on one event

Every event the watcher delivers reaches one callback. The callback acts on creations and
modifications only. An event one of whose paths ends in the snapshot file's name makes it read
the snapshot file again: a snapshot that reads is published whole, and one that cannot be read
or decoded leaves the store as it was. An event one of whose paths ends in the template's name
is a change as well. The callback then signals the coordinator, once, exactly when it published
or the template changed; an event of another kind changes nothing and signals nothing
(`callback_publishes_and_signals_exactly`).
-/

namespace BalancerSync

namespace Files

/-- Some path of the event ends in the file name of `path`. Events are matched to files by that
name alone, whatever directory the event's path is in. -/
def FileEvent.Touches (event : FileEvent) (path : String) : Prop :=
  ∃ name, fileName? path = some name ∧ ∃ parts ∈ event.paths, parts.getLast? = some name

end Files

namespace Lifecycle.Daemon

variable {d : Daemon} {event : Files.FileEvent} {path : String} {cluster : Topology.Cluster}

theorem concerns_iff_touches : concerns event path = true ↔ event.Touches path := by
  unfold concerns Files.FileEvent.Touches
  cases named : Files.fileName? path with
  | none => simp
  | some name => simp

theorem callback_of_not_acted (other : ¬(event.kind = .modify ∨ event.kind = .create)) :
    d.callback event = (d, false) := by
  unfold callback
  rw [if_pos other]

/-- A creation or modification naming the snapshot file, when the file reads, publishes what was
read, and signals. -/
theorem callback_of_reads (acted : event.kind = .modify ∨ event.kind = .create)
    (known : d.snapshotPath = some path) (touched : event.Touches path)
    (reads : Topology.loadSnapshot d.files path = .ok cluster) :
    d.callback event = ({ d with store := d.store.publish cluster }, true) := by
  have concerned : concerns event path = true := concerns_iff_touches.mpr touched
  unfold callback
  simp only [if_neg (not_not.mpr acted), known, concerned, if_true, reads, Except.toOption,
    Option.isSome_some, Bool.true_or]

/-- A creation or modification that reads no snapshot, because it names no snapshot file or the
file fails to read or decode, leaves the store as it was, and signals exactly when it names the
template. -/
theorem callback_of_not_reads (acted : event.kind = .modify ∨ event.kind = .create)
    (fails : ∀ path, d.snapshotPath = some path → event.Touches path →
      ∃ e, Topology.loadSnapshot d.files path = .error e) :
    d.callback event = (d, concerns event d.template.source) := by
  unfold callback
  rw [if_neg (not_not.mpr acted)]
  cases known : d.snapshotPath with
  | none => simp
  | some path =>
    by_cases touched : event.Touches path
    · obtain ⟨e, failed⟩ := fails path known touched
      simp [concerns_iff_touches.mpr touched, failed, Except.toOption]
    · have quiet : concerns event path = false :=
        concerns_eq_false fun name named parts within last =>
          touched ⟨name, named, parts, within, last⟩
      simp [quiet]

/-- What the watcher's callback does with any event, over any files. A creation or modification
one of whose paths ends in the snapshot file's name, when the snapshot file reads, publishes
exactly the snapshot read. When it names no snapshot file, or the file fails to read or decode,
the store keeps its snapshot, and an event of any other kind changes nothing. Among creations
and modifications, the callback signals the coordinator (once) exactly when it published or one
of the event's paths ends in the template's name; an event of another kind signals nothing. -/
theorem callback_publishes_and_signals_exactly (d : Daemon) (event : Files.FileEvent) :
    (¬(event.kind = .modify ∨ event.kind = .create) → d.callback event = (d, false)) ∧
    (∀ path cluster, (event.kind = .modify ∨ event.kind = .create) →
      d.snapshotPath = some path → event.Touches path →
      Topology.loadSnapshot d.files path = .ok cluster →
      (d.callback event).1 = { d with store := d.store.publish cluster }) ∧
    ((event.kind = .modify ∨ event.kind = .create) →
      (∀ path, d.snapshotPath = some path → event.Touches path →
        ∃ e, Topology.loadSnapshot d.files path = .error e) →
      (d.callback event).1 = d) ∧
    ((event.kind = .modify ∨ event.kind = .create) →
      ((d.callback event).2 = true ↔
        (∃ path cluster, d.snapshotPath = some path ∧ event.Touches path ∧
          Topology.loadSnapshot d.files path = .ok cluster) ∨
        event.Touches d.template.source)) := by
  refine ⟨callback_of_not_acted, fun path cluster acted known touched reads => ?_,
    fun acted fails => ?_, fun acted => ?_⟩
  · rw [callback_of_reads acted known touched reads]
  · rw [callback_of_not_reads acted fails]
  · by_cases published : ∃ path cluster, d.snapshotPath = some path ∧ event.Touches path ∧
        Topology.loadSnapshot d.files path = .ok cluster
    · obtain ⟨path, cluster, known, touched, reads⟩ := published
      rw [callback_of_reads acted known touched reads]
      exact iff_of_true rfl (.inl ⟨path, cluster, known, touched, reads⟩)
    · have fails : ∀ path, d.snapshotPath = some path → event.Touches path →
          ∃ e, Topology.loadSnapshot d.files path = .error e := by
        intro path known touched
        cases reading : Topology.loadSnapshot d.files path with
        | error e => exact ⟨e, rfl⟩
        | ok cluster => exact absurd ⟨path, cluster, known, touched, reading⟩ published
      rw [callback_of_not_reads acted fails, concerns_iff_touches]
      exact (or_iff_right published).symm

end Lifecycle.Daemon

end BalancerSync
