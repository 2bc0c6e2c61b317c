import Mathlib
import BalancerSync.Files.Tree

/-!
# Writing through a temporary file

A write makes a temporary file beside its target, writes, syncs and chmods it, and renames it
over the target; a failure once the temporary file exists drops it.  The temporary file gets a
name that no entry of the tree has, so dropping it restores the tree exactly, and the rename
leaves exactly one change behind: the target's entry.  Whatever the system raises at each step,
a write either leaves the files as they were or replaces the target whole, with mode 644
(`writeThrough_cases`), and a replaced target then reads back as the new text
(`entry?_writeThrough`).
-/

namespace BalancerSync.Files.Tree

/-! ## Entries -/

section Entries

variable {t : Tree} {parts other : List String} {node : Node}

private theorem lookup_map_replace (entries : List (List String × Node)) (key : List String) :
    (entries.map (fun e => if e.1 == parts then (parts, node) else e)).lookup key =
      if key = parts then (entries.lookup key).map (fun _ => node) else entries.lookup key := by
  induction entries with
  | nil => split <;> rfl
  | cons entry rest ih =>
    obtain ⟨k, n⟩ := entry
    simp only [beq_iff_eq] at ih
    by_cases same : key = k
    · subst same
      by_cases here : key = parts <;> simp [here]
    · have differ : (key == k) = false := beq_false_of_ne same
      by_cases here : k = parts
      · subst here
        simp [List.lookup_cons, same, differ, ih]
      · simp [List.lookup_cons, here, differ, ih]

theorem lookup_eq_none_iff_forall_ne :
    t.entries.lookup parts = none ↔ ∀ e ∈ t.entries, e.1 ≠ parts := by
  simp only [List.lookup_eq_none_iff, bne_iff_ne, ne_eq]
  exact ⟨fun none e member same => none e member same.symm,
    fun none e member same => none e member same.symm⟩

theorem find?_nil (t : Tree) : t.find? [] = some (.dir 0o755) := rfl

theorem find?_of_ne_nil (nonempty : parts ≠ []) : t.find? parts = t.entries.lookup parts := by
  simp [find?, nonempty]

@[simp] theorem put_root : (t.put parts node).root = t.root := by
  unfold put
  split <;> rfl

@[simp] theorem erase_root : (t.erase parts).root = t.root := rfl

theorem find?_put_self (nonempty : parts ≠ []) : (t.put parts node).find? parts = some node := by
  rw [find?_of_ne_nil nonempty]
  unfold put
  split
  · next present =>
    obtain ⟨n, found⟩ := Option.isSome_iff_exists.mp present
    rw [lookup_map_replace]
    simp [found]
  · next absent =>
    simp only [Option.not_isSome_iff_eq_none] at absent
    simp [List.lookup_append, absent]

theorem find?_put_of_ne (different : other ≠ parts) :
    (t.put parts node).find? other = t.find? other := by
  by_cases nonempty : other = []
  · subst nonempty
    rfl
  rw [find?_of_ne_nil nonempty, find?_of_ne_nil nonempty]
  unfold put
  split
  · rw [lookup_map_replace, if_neg different]
  · simp [List.lookup_append, List.lookup_cons, beq_false_of_ne different]

theorem put_put (first second : Node) :
    (t.put parts first).put parts second = t.put parts second := by
  obtain ⟨root, entries⟩ := t
  by_cases present : (entries.lookup parts).isSome
  · have still : ((entries.map (fun e => if e.1 == parts then (parts, first) else e)).lookup
        parts).isSome := by
      obtain ⟨n, found⟩ := Option.isSome_iff_exists.mp present
      rw [lookup_map_replace]
      simp [found]
    simp only [put, present, still, if_true, List.map_map, Tree.mk.injEq, true_and]
    apply List.map_congr_left
    intro e _
    by_cases here : e.1 = parts <;> simp [here]
  · have absent : entries.lookup parts = none := Option.not_isSome_iff_eq_none.mp present
    have fresh : ∀ e ∈ entries, e.1 ≠ parts :=
      lookup_eq_none_iff_forall_ne (t := ⟨root, entries⟩) |>.mp absent
    have appended : ((entries ++ [(parts, first)]).lookup parts).isSome := by
      simp [List.lookup_append, absent]
    have unchanged :
        entries.map (fun e => if e.1 == parts then (parts, second) else e) = entries := by
      conv_rhs => rw [← List.map_id entries]
      apply List.map_congr_left
      intro e member
      simp [fresh e member]
    simp only [put, present, appended, if_true, Bool.false_eq_true, if_false, List.map_append,
      List.map_cons, List.map_nil, beq_self_eq_true, unchanged]

private theorem filter_map_replace (entries : List (List String × Node)) :
    (entries.map (fun e => if e.1 == parts then (parts, node) else e)).filter
        (fun e => e.1 != parts) =
      entries.filter (fun e => e.1 != parts) := by
  induction entries with
  | nil => rfl
  | cons e rest ih =>
    rw [List.map_cons, List.filter_cons, List.filter_cons, ih]
    by_cases here : e.1 = parts <;> simp [here]

theorem erase_put : (t.put parts node).erase parts = t.erase parts := by
  obtain ⟨root, entries⟩ := t
  unfold put
  split
  · simp only [erase, filter_map_replace]
  · simp [erase, List.filter_append]

theorem erase_of_lookup_eq_none (fresh : t.entries.lookup parts = none) : t.erase parts = t := by
  have different := lookup_eq_none_iff_forall_ne.mp fresh
  obtain ⟨root, entries⟩ := t
  simp only [erase, Tree.mk.injEq, true_and]
  apply List.filter_eq_self.mpr
  intro e member
  simpa using different e member

end Entries

/-! ## Parent directories -/

section Parents

variable {t u : Tree} {parts : List String}

private theorem foldl_checkParent_error (e : IoError) (prefixes : List (List String)) :
    prefixes.foldl t.checkParent (.error e) = .error e := by
  induction prefixes with
  | nil => rfl
  | cons pre rest ih => exact ih

private theorem foldl_checkParent_eq_ok_iff (prefixes : List (List String)) :
    prefixes.foldl t.checkParent (.ok ()) = .ok () ↔
      ∀ pre ∈ prefixes, ∃ mode, t.find? pre = some (.dir mode) := by
  induction prefixes with
  | nil => simp
  | cons pre rest ih =>
    simp only [List.foldl_cons, List.mem_cons, forall_eq_or_imp]
    cases found : t.find? pre with
    | none => simp [checkParent, found, foldl_checkParent_error]
    | some node =>
      cases node with
      | file content mode => simp [checkParent, found, foldl_checkParent_error]
      | dir mode => simp [checkParent, found, ih]

theorem checkParents_eq_ok_iff :
    t.checkParents parts = .ok () ↔
      ∀ n < parts.length, ∃ mode, t.find? (parts.take n) = some (.dir mode) := by
  simp only [checkParents, foldl_checkParent_eq_ok_iff, List.mem_map, List.mem_range]
  constructor
  · intro directories n short
    exact directories _ ⟨n, short, rfl⟩
  · rintro directories _ ⟨n, short, rfl⟩
    exact directories n short

end Parents

/-! ## Steps of a path -/

section Steps

private theorem infix_intercalate_of_mem {α : Type} (sep : List α) {l : List α} :
    ∀ {ls : List (List α)}, l ∈ ls → l <:+: sep.intercalate ls
  | [], member => absurd member List.not_mem_nil
  | [_], member => by
    rw [List.mem_singleton.mp member, List.intercalate_singleton]
  | first :: next :: rest, member => by
    rw [List.intercalate_cons_cons]
    rcases List.mem_cons.mp member with here | later
    · subst here
      exact ((List.prefix_append _ _).trans (List.prefix_append _ _)).isInfix
    · exact (infix_intercalate_of_mem sep later).trans (List.suffix_append _ _).isInfix

theorem length_le_of_mem_steps {path step : String} (member : step ∈ steps path) :
    step.length ≤ path.length := by
  obtain ⟨piece, split, rfl⟩ := List.mem_map.mp member
  have within := infix_intercalate_of_mem ['/'] split
  rw [List.intercalate_splitOn] at within
  simpa [String.length_toList] using within.length_le

theorem mem_components {path c : String} (member : c ∈ components path) :
    c = "/" ∨ c ∈ steps path := by
  unfold components at member
  dsimp only at member
  split at member
  · rcases List.mem_cons.mp member with root | step
    · exact .inl root
    · exact .inr (List.mem_filter.mp step).1
  · exact .inr (List.mem_filter.mp member).1

end Steps

/-! ## The temporary file -/

theorem lookup_tempParts (t : Tree) (path : String) :
    t.entries.lookup (t.tempParts path) = none := by
  rw [lookup_eq_none_iff_forall_ne]
  intro e member same
  have named : t.tempName path ∈ t.entries.flatMap (·.1) :=
    List.mem_flatMap.mpr ⟨e, member, by simp [same, tempParts]⟩
  have short := List.le_sum_of_mem (List.mem_map_of_mem (f := String.length) named)
  have total : ((t.entries.flatMap (·.1)).map String.length).foldr (· + ·) 0 =
      ((t.entries.flatMap (·.1)).map String.length).sum := rfl
  simp only [tempName, total, String.length_append, String.length_ofList,
    List.length_replicate] at short
  omega

theorem tempParts_ne_nil (t : Tree) (path : String) : t.tempParts path ≠ [] := by
  simp [tempParts]

theorem tempName_not_mem_components (t : Tree) (path : String) :
    t.tempName path ∉ components path := by
  intro member
  have prefixLength : ".lb-reloader".length = 12 := rfl
  have long : path.length + 12 < (t.tempName path).length := by
    simp only [tempName, String.length_append, String.length_ofList, List.length_replicate]
    omega
  rcases mem_components member with root | step
  · have rootLength : "/".length = 1 := rfl
    rw [root] at long
    omega
  · have short := length_le_of_mem_steps step
    omega

theorem tempParts_ne_take (t : Tree) (path : String) (n : Nat) :
    t.tempParts path ≠ (components path).take n := by
  intro same
  have named : t.tempName path ∈ (components path).take n := by
    rw [← same]
    simp [tempParts]
  exact tempName_not_mem_components t path (List.mem_of_mem_take named)

/-! ## What a write leaves -/

section Write

variable {t : Tree} {path content : String} {faults : WriteFaults}

theorem erase_put_tempParts (node : Node) :
    (t.put (t.tempParts path) node).erase (t.tempParts path) = t := by
  rw [erase_put, erase_of_lookup_eq_none (lookup_tempParts t path)]

theorem move_put_tempParts (node : Node) (target : List String) :
    (t.put (t.tempParts path) node).move (t.tempParts path) target = t.put target node := by
  simp only [move, find?_put_self (tempParts_ne_nil t path), erase_put_tempParts]

/-- Every run of the steps of a write, whatever the system raises at each of them, leaves the
files as they were, with the failure that stopped it; or the temporary file, made and filled,
passed the checks of the rename, and the target alone was replaced, with mode 644. -/
theorem writeThrough_cases (t : Tree) (path content : String) (faults : WriteFaults) :
    (∃ failure, t.writeThrough path content faults = (t, some failure)) ∨
      ((t.put (t.tempParts path) (.file content 0o644)).renameFailure? path = none ∧
        t.writeThrough path content faults =
          (t.put (components path) (.file content 0o644), none)) := by
  unfold writeThrough
  split
  · exact .inl ⟨_, rfl⟩
  split
  · next e _ => exact .inl ⟨.atPath e (t.tempText path), by simp only [erase_put_tempParts]⟩
  split
  · next e _ => exact .inl ⟨.os e, by simp only [put_put, erase_put_tempParts]⟩
  split
  · next e _ => exact .inl ⟨.os e, by simp only [put_put, erase_put_tempParts]⟩
  simp only [put_put]
  split
  · next e _ => exact .inl ⟨.os e, by simp only [erase_put_tempParts]⟩
  · next passes => exact .inr ⟨passes, by rw [move_put_tempParts]⟩

/-- The rename's checks pass exactly when the target is written, its parents are directories,
it has a file name, and it asks for no directory and holds none. -/
theorem renameFailure?_eq_none_iff {u : Tree} :
    u.renameFailure? path = none ↔
      path ≠ "" ∧ u.checkParents (components path) = .ok () ∧ (lastStep? path).isSome ∧
        namesDirectory path = false ∧ ∀ mode, u.find? (components path) ≠ some (.dir mode) := by
  constructor
  · intro passes
    unfold renameFailure? at passes
    dsimp only at passes
    split at passes
    · cases passes
    · next written =>
      split at passes
      · cases passes
      · split at passes <;> cases passes
      · next last parents named =>
        split at passes
        · cases passes
        · next plain =>
          split at passes
          · cases passes
          · next notHeld =>
            refine ⟨by simpa using written, parents, by simp [named], by simpa using plain, ?_⟩
            intro mode held
            exact notHeld mode held
  · rintro ⟨written, parents, named, plain, notHeld⟩
    obtain ⟨last, named⟩ := Option.isSome_iff_exists.mp named
    unfold renameFailure?
    simp only [String.isEmpty_iff, written, if_false, parents, named, plain, Bool.false_eq_true]

theorem renameFailure?_put_tempParts (passes : t.renameFailure? path = none) (node : Node) :
    (t.put (t.tempParts path) node).renameFailure? path = none := by
  obtain ⟨written, parents, named, plain, notHeld⟩ := renameFailure?_eq_none_iff.mp passes
  have unchanged (n : Nat) : (t.put (t.tempParts path) node).find? ((components path).take n) =
      t.find? ((components path).take n) :=
    find?_put_of_ne (tempParts_ne_take t path n).symm
  refine renameFailure?_eq_none_iff.mpr ⟨written, ?_, named, plain, ?_⟩
  · rw [checkParents_eq_ok_iff] at parents ⊢
    intro n short
    rw [unchanged n]
    exact parents n short
  · have whole := unchanged (components path).length
    rw [List.take_length] at whole
    rw [whole]
    exact notHeld

theorem writeThrough_of_checks (beside : t.tempFailure? path = none)
    (passes : t.renameFailure? path = none) :
    t.writeThrough path content = (t.put (components path) (.file content 0o644), none) := by
  unfold writeThrough
  simp only [beside, put_put, renameFailure?_put_tempParts passes, move_put_tempParts]

private theorem checkParents_put_self {u : Tree} {parts : List String} {node : Node}
    (parents : u.checkParents parts = .ok ()) (agree : ∀ n < parts.length,
      u.find? (parts.take n) = t.find? (parts.take n)) :
    (t.put parts node).checkParents parts = .ok () := by
  rw [checkParents_eq_ok_iff] at parents ⊢
  intro n short
  have shorter : parts.take n ≠ parts := fun same => by
    have := congrArg List.length same
    simp at this
    omega
  rw [find?_put_of_ne shorter, ← agree n short]
  exact parents n short

/-- A write that went through leaves the target, and only the target, holding the new text
with mode 644, and reading the target back gives that file. -/
theorem entry?_writeThrough {written : Tree}
    (wrote : t.writeThrough path content faults = (written, none)) :
    written = t.put (components path) (.file content 0o644) ∧
      written.entry? path = some (.file content 0o644) := by
  rcases writeThrough_cases t path content faults with ⟨failure, failed⟩ | ⟨passes, went⟩
  · rw [failed] at wrote
    simp at wrote
  rw [went] at wrote
  obtain ⟨rfl, -⟩ := Prod.mk.inj wrote
  obtain ⟨named, parents, -, plain, notHeld⟩ := renameFailure?_eq_none_iff.mp passes
  have nonempty : components path ≠ [] := fun empty => notHeld 0o755 (by rw [empty]; rfl)
  have agree (n : Nat) (_ : n < (components path).length) :
      (t.put (t.tempParts path) (.file content 0o644)).find? ((components path).take n) =
        t.find? ((components path).take n) :=
    find?_put_of_ne (tempParts_ne_take t path n).symm
  refine ⟨rfl, ?_⟩
  have parentsAfter : (t.put (components path) (.file content 0o644)).checkParents
      (components path) = .ok () :=
    checkParents_put_self parents agree
  have held : (t.put (components path) (.file content 0o644)).find? (components path) =
      some (.file content 0o644) :=
    find?_put_self nonempty
  unfold entry?
  simp [named, parentsAfter, held, plain]

end Write

end BalancerSync.Files.Tree
