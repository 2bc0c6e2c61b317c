import Mathlib
import BalancerSync.Proofs.Naming.TemplateList

/-!
# Names without repeats

Before the external names of a service are added, the rendered names lose their repeats: a name
is kept where it first occurs and dropped wherever an equal name stands before it. Reading the
list with the names met so far, a name is kept exactly when it has not been met, so the result
has no repeats, holds the names of the list and no other, is a sublist of it ordered by first
occurrence, and loses nothing when its repeats are dropped again
(`withoutRepeats_keeps_first_occurrences`).
-/

namespace BalancerSync.Naming.NameTemplates

variable {seen names rest : List String} {n m : String}

theorem withoutRepeats_cons :
    withoutRepeats seen (m :: rest) =
      if m ∈ seen then withoutRepeats seen rest else m :: withoutRepeats (m :: seen) rest := by
  simp only [withoutRepeats, List.contains_iff_mem]

theorem mem_withoutRepeats : n ∈ withoutRepeats seen names ↔ n ∈ names ∧ n ∉ seen := by
  induction names generalizing seen with
  | nil => simp [withoutRepeats]
  | cons m rest ih =>
    rw [withoutRepeats_cons]
    by_cases met : m ∈ seen
    · rw [if_pos met, ih, List.mem_cons]
      constructor
      · rintro ⟨inRest, unseen⟩
        exact ⟨.inr inRest, unseen⟩
      · rintro ⟨rfl | inRest, unseen⟩
        · exact absurd met unseen
        · exact ⟨inRest, unseen⟩
    · rw [if_neg met, List.mem_cons, ih, List.mem_cons, List.mem_cons]
      by_cases same : n = m
      · subst same
        simp [met]
      · simp [same]

theorem ne_of_mem_withoutRepeats (kept : n ∈ withoutRepeats seen names) (met : m ∈ seen) :
    n ≠ m := by
  rintro rfl
  exact (mem_withoutRepeats.mp kept).2 met

theorem withoutRepeats_sublist : (withoutRepeats seen names).Sublist names := by
  induction names generalizing seen with
  | nil => exact List.Sublist.slnil
  | cons m rest ih =>
    rw [withoutRepeats_cons]
    split
    · exact ih.cons m
    · exact ih.cons_cons m

theorem nodup_withoutRepeats : (withoutRepeats seen names).Nodup := by
  induction names generalizing seen with
  | nil => exact List.nodup_nil
  | cons m rest ih =>
    rw [withoutRepeats_cons]
    split
    · exact ih
    · refine List.nodup_cons.mpr ⟨fun kept => ?_, ih⟩
      exact ne_of_mem_withoutRepeats kept (List.mem_cons_self ..) rfl

theorem withoutRepeats_of_nodup (distinct : names.Nodup) (unseen : ∀ n ∈ names, n ∉ seen) :
    withoutRepeats seen names = names := by
  induction names generalizing seen with
  | nil => rfl
  | cons m rest ih =>
    obtain ⟨notLater, restDistinct⟩ := List.nodup_cons.mp distinct
    rw [withoutRepeats_cons, if_neg (unseen m (List.mem_cons_self ..))]
    have restUnseen : ∀ n ∈ rest, n ∉ m :: seen := by
      intro n inRest
      rw [List.mem_cons, not_or]
      exact ⟨fun same => notLater (same ▸ inRest), unseen n (List.mem_cons_of_mem m inRest)⟩
    rw [ih restDistinct restUnseen]

theorem pairwise_idxOf_withoutRepeats :
    (withoutRepeats seen names).Pairwise (fun a b => names.idxOf a < names.idxOf b) := by
  induction names generalizing seen with
  | nil => exact List.Pairwise.nil
  | cons m rest ih =>
    have shift : ∀ a, a ≠ m → (m :: rest).idxOf a = rest.idxOf a + 1 :=
      fun a differs => List.idxOf_cons_ne rest (Ne.symm differs)
    rw [withoutRepeats_cons]
    split
    · next met =>
      refine ih.imp_of_mem fun keptA keptB before => ?_
      rw [shift _ (ne_of_mem_withoutRepeats keptA met),
        shift _ (ne_of_mem_withoutRepeats keptB met)]
      omega
    · refine List.pairwise_cons.mpr
        ⟨fun b keptB => ?_, ih.imp_of_mem fun keptA keptB before => ?_⟩
      · rw [List.idxOf_cons_self,
          shift _ (ne_of_mem_withoutRepeats keptB (List.mem_cons_self ..))]
        omega
      · rw [shift _ (ne_of_mem_withoutRepeats keptA (List.mem_cons_self ..)),
          shift _ (ne_of_mem_withoutRepeats keptB (List.mem_cons_self ..))]
        omega

/-- Dropping repeats is the first-occurrence filter: the name at index `i` is kept exactly when no
equal name stands before it. Hence the result has no repeats, holds every name of the list and no
other, keeps the order of the list with each name where it first occurs, and loses nothing when
its repeats are dropped again. -/
theorem withoutRepeats_keeps_first_occurrences (names : List String) :
    withoutRepeats [] names = names.zipIdx.filterMap (fun entry =>
        if entry.1 ∈ names.take entry.2 then none else some entry.1) ∧
      (withoutRepeats [] names).Nodup ∧
      (∀ n, n ∈ withoutRepeats [] names ↔ n ∈ names) ∧
      (withoutRepeats [] names).Sublist names ∧
      (withoutRepeats [] names).Pairwise (fun a b => names.idxOf a < names.idxOf b) ∧
      withoutRepeats [] (withoutRepeats [] names) = withoutRepeats [] names := by
  refine ⟨?_, nodup_withoutRepeats, fun n => ?_, withoutRepeats_sublist,
    pairwise_idxOf_withoutRepeats, ?_⟩
  · rw [withoutRepeats_eq_filterMap names (fun _ => Iff.rfl)]
    simp only [List.nil_append]
  · rw [mem_withoutRepeats]
    exact and_iff_left List.not_mem_nil
  · exact withoutRepeats_of_nodup nodup_withoutRepeats fun _ _ => List.not_mem_nil

example : withoutRepeats [] ["a", "b", "a"] = ["a", "b"] := by decide

end BalancerSync.Naming.NameTemplates
