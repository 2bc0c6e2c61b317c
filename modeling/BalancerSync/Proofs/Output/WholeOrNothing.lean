import Mathlib
import BalancerSync.Lifecycle.Startup
import BalancerSync.Proofs.Files.WriteThrough

/-!
# A configuration is written whole or not at all

Executing a template file renders first, reading files only, and then writes the result through
a temporary file.  A failure of the render (the source cannot be read, it does not parse, a
helper fails or stops the program) comes before any file is touched; a failure of the write, at
any of its steps and whatever the system raises there, leaves the files exactly as they were,
the temporary file gone.  A success replaces the target alone, and it reads back as the rendered
text with mode 644 (`execute_writes_whole_or_nothing`).

An update tells the load balancer to reload only after such a complete write: when the render
or the write fails it keeps the files and notifies no one, and when both went through it asks
the notifier.
-/

namespace BalancerSync

namespace Output.TemplateFile

variable {t : TemplateFile} {files : Files.Tree} {cluster : Topology.Cluster}
  {faults : Files.WriteFaults}

theorem render_error_ne_write {failure : OutputFailure}
    (failed : t.render files cluster = .error failure) :
    ∀ path e, failure ≠ .write path e := by
  intro path e same
  subst same
  unfold render at failed
  split at failed
  · cases failed
  · dsimp only at failed
    split at failed
    · cases failed
    · split at failed <;> cases failed

theorem execute_eq (t : TemplateFile) (files : Files.Tree) (cluster : Topology.Cluster)
    (faults : Files.WriteFaults) :
    t.execute files cluster faults =
      match t.render files cluster with
      | .error failure => .error failure
      | .ok text =>
        match files.writeThrough t.path text faults with
        | (written, none) => .ok written
        | (_, some e) => .error (.write t.path e) := by
  unfold execute Files.Tree.replace
  cases t.render files cluster with
  | error failure => rfl
  | ok text =>
    simp only [bind, Except.bind]
    rcases files.writeThrough t.path text faults with ⟨_, _ | _⟩ <;> rfl

/-- A successful execution rendered the snapshot, and the target alone now holds that text with
mode 644. -/
theorem execute_eq_ok {written : Files.Tree} (executed : t.execute files cluster faults = .ok written) :
    ∃ text, t.render files cluster = .ok text ∧
      written = files.put (Files.components t.path) (.file text 0o644) ∧
      written.entry? t.path = some (.file text 0o644) := by
  rw [execute_eq] at executed
  cases rendered : t.render files cluster with
  | error failure => simp [rendered] at executed
  | ok text =>
    simp only [rendered] at executed
    split at executed
    · next result wrote =>
      cases executed
      exact ⟨text, rfl, Files.Tree.entry?_writeThrough wrote⟩
    · cases executed

/-- A failed execution either failed to render, before any file was touched, or failed to write,
and then the write left the files exactly as they were. -/
theorem execute_eq_error {failure : OutputFailure}
    (executed : t.execute files cluster faults = .error failure) :
    (t.render files cluster = .error failure ∧ ∀ path e, failure ≠ .write path e) ∨
      ∃ text e, t.render files cluster = .ok text ∧ failure = .write t.path e ∧
        files.writeThrough t.path text faults = (files, some e) := by
  rw [execute_eq] at executed
  cases rendered : t.render files cluster with
  | error renderFailure =>
    simp only [rendered, Except.error.injEq] at executed
    subst executed
    exact .inl ⟨rfl, render_error_ne_write rendered⟩
  | ok text =>
    simp only [rendered] at executed
    split at executed
    · cases executed
    · next written e wrote =>
      cases executed
      rcases Files.Tree.writeThrough_cases files t.path text faults with
        ⟨stopped, kept⟩ | ⟨-, went⟩
      · rw [kept] at wrote
        obtain ⟨-, same⟩ := Prod.mk.inj wrote
        cases same
        exact .inr ⟨text, e, rfl, rfl, kept⟩
      · rw [went] at wrote
        simp at wrote

end Output.TemplateFile

namespace Lifecycle

open Output

variable {t : TemplateFile} {store : Topology.Store} {n : Reload.Notifier}
  {files : Files.Tree} {alive : Int → Bool}

/-- What an update did: it kept the files and notified no one, after a failed render or
write; or the write went through, and the notifier was asked about the written files. -/
theorem applyUpdate_eq_ok {outcome : UpdateOutcome}
    (updated : applyUpdate t store n files alive = .ok outcome) :
    (outcome.files = files ∧ outcome.succeeded = false ∧ outcome.delivery = none ∧
        ∃ failure, t.execute files store.load = .error failure) ∨
      (t.execute files store.load = .ok outcome.files ∧
        (outcome.succeeded = true ↔ ∃ delivery, n.notify outcome.files alive = .ok delivery) ∧
        ∀ delivery, outcome.delivery = some delivery →
          n.notify outcome.files alive = .ok (some delivery)) := by
  unfold applyUpdate at updated
  split at updated
  · cases updated
  · next failure _ executed =>
    cases updated
    exact .inl ⟨rfl, rfl, rfl, failure, executed⟩
  · next written executed =>
    split at updated
    · next delivery notified =>
      cases updated
      exact .inr ⟨executed, by simp [notified], by simp [notified]⟩
    · next e notified =>
      cases updated
      exact .inr ⟨executed, by simp [notified], by simp⟩

theorem applyUpdate_eq_error {message : String}
    (updated : applyUpdate t store n files alive = .error message) :
    t.execute files store.load = .error (.panic message) := by
  unfold applyUpdate at updated
  split at updated
  · next stopped executed =>
    cases updated
    exact executed
  · cases updated
  · split at updated <;> cases updated

end Lifecycle

open Output Lifecycle

/-- Executing a template file either replaces its target whole or leaves the files as they
were, and the load balancer is told to reload only a configuration that was written whole.
A success rendered the snapshot, and the target alone changed: it reads back as the rendered
text with mode 644.  A failure of the render comes before any file is touched; a failure of
the write, at whichever step and whatever the system raised, left the files exactly as they
were, with no temporary file behind.  An update notifies only after a success, keeps the files
and notifies no one after a failure, and is stopped, files kept, by a helper that stops the
program. -/
theorem execute_writes_whole_or_nothing (t : TemplateFile) (files : Files.Tree)
    (cluster : Topology.Cluster) (faults : Files.WriteFaults) :
    (∀ written, t.execute files cluster faults = .ok written →
      ∃ text, t.render files cluster = .ok text ∧
        written = files.put (Files.components t.path) (.file text 0o644) ∧
        written.entry? t.path = some (.file text 0o644)) ∧
    (∀ failure, t.execute files cluster faults = .error failure →
      (t.render files cluster = .error failure ∧ ∀ path e, failure ≠ .write path e) ∨
      ∃ text e, t.render files cluster = .ok text ∧ failure = .write t.path e ∧
        files.writeThrough t.path text faults = (files, some e)) ∧
    (∀ (store : Topology.Store) (n : Reload.Notifier) (alive : Int → Bool),
      (∀ outcome, applyUpdate t store n files alive = .ok outcome →
        (outcome.files = files ∧ outcome.succeeded = false ∧ outcome.delivery = none ∧
          ∃ failure, t.execute files store.load = .error failure) ∨
        (t.execute files store.load = .ok outcome.files ∧
          (outcome.succeeded = true ↔ ∃ delivery, n.notify outcome.files alive = .ok delivery) ∧
          ∀ delivery, outcome.delivery = some delivery →
            n.notify outcome.files alive = .ok (some delivery))) ∧
      ∀ message, applyUpdate t store n files alive = .error message →
        t.render files store.load = .error (.panic message)) := by
  refine ⟨fun _ => TemplateFile.execute_eq_ok, fun _ => TemplateFile.execute_eq_error, ?update⟩
  intro store n alive
  refine ⟨fun _ => applyUpdate_eq_ok, ?_⟩
  intro message updated
  rcases TemplateFile.execute_eq_error (applyUpdate_eq_error updated) with
    ⟨rendered, -⟩ | ⟨text, e, -, wrong, -⟩
  · exact rendered
  · cases wrong

/-- A template beside its target, the system raising nothing: the target is written whole, and
it reads back as the snapshot's domain. -/
theorem execute_writes_domain_beside_template :
    (⟨"t", "o", ⟨[]⟩⟩ : TemplateFile).execute
        ⟨"/w", [(["t"], .file "{{Domain}}" 0o644)]⟩ ⟨[], [], [], "d"⟩ {} =
      .ok (Files.Tree.put ⟨"/w", [(["t"], .file "{{Domain}}" 0o644)]⟩ ["o"]
        (.file "d" 0o644)) ∧
    Files.Tree.entry? (Files.Tree.put ⟨"/w", [(["t"], .file "{{Domain}}" 0o644)]⟩ ["o"]
        (.file "d" 0o644)) "o" = some (.file "d" 0o644) := by
  have rendered : (⟨"t", "o", ⟨[]⟩⟩ : TemplateFile).render
      ⟨"/w", [(["t"], .file "{{Domain}}" 0o644)]⟩ ⟨[], [], [], "d"⟩ = .ok "d" := by cbv
  have passes : Files.Tree.renameFailure? ⟨"/w", [(["t"], .file "{{Domain}}" 0o644)]⟩
      "o" = none :=
    Files.Tree.renameFailure?_eq_none_iff.mpr
      ⟨by decide, by cbv, by cbv, by cbv, fun mode => by cbv; simp⟩
  have executed : (⟨"t", "o", ⟨[]⟩⟩ : TemplateFile).execute
      ⟨"/w", [(["t"], .file "{{Domain}}" 0o644)]⟩ ⟨[], [], [], "d"⟩ {} =
        .ok (Files.Tree.put ⟨"/w", [(["t"], .file "{{Domain}}" 0o644)]⟩ ["o"]
          (.file "d" 0o644)) := by
    rw [TemplateFile.execute_eq, rendered]
    simp only [Files.Tree.writeThrough_of_checks (by cbv) passes,
      show Files.components "o" = ["o"] by cbv]
  obtain ⟨text, renderedText, -, entry⟩ := (execute_writes_whole_or_nothing _ _ _ _).1 _ executed
  rw [rendered] at renderedText
  cases renderedText
  exact ⟨executed, entry⟩

end BalancerSync
