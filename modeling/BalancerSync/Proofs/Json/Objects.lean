import Mathlib
import BalancerSync.Json.Value

/-!
# Objects with sorted keys

`Json.mkObject` builds an object by inserting fields one by one into a list kept in key order,
a later field replacing an earlier one of the same key. This module says what that list is:
each key is found with the value last given for it (`get?_mkObject`); when the keys given are
distinct, the object holds exactly the fields given (`sortedFields_perm`) and does not depend on
the order they were given in (`mkObject_perm`).
-/

namespace BalancerSync.Json

/-! ## Inserting one field -/

section Insert

variable {key k : String} {value v : Json} {rest : List (String × Json)}

theorem insertField_of_lt (before : key < k) :
    insertField key value ((k, v) :: rest) = (key, value) :: (k, v) :: rest := by
  simp [insertField, before]

theorem insertField_self : insertField k value ((k, v) :: rest) = (k, value) :: rest := by
  simp [insertField]

theorem insertField_of_gt (after : k < key) :
    insertField key value ((k, v) :: rest) = (k, v) :: insertField key value rest := by
  simp [insertField, not_lt_of_gt after, ne_of_gt after]

theorem lookup_cons_self : ((k, v) :: rest).lookup k = some v := by
  simp [List.lookup]

theorem lookup_cons_of_ne (other : key ≠ k) : ((k, v) :: rest).lookup key = rest.lookup key := by
  simp [List.lookup, beq_eq_false_iff_ne.mpr other]

end Insert

theorem lookup_insertField (key k : String) (value : Json) :
    ∀ fields : List (String × Json),
      (insertField k value fields).lookup key =
        if key = k then some value else fields.lookup key
  | [] => by
    by_cases same : key = k
    · simp [insertField, same]
    · simp [insertField, same, lookup_cons_of_ne same]
  | (k', v') :: rest => by
    rcases lt_trichotomy k k' with before | rfl | after
    · rw [insertField_of_lt before]
      by_cases same : key = k
      · simp [same]
      · simp [same, lookup_cons_of_ne same]
    · rw [insertField_self]
      by_cases same : key = k
      · simp [same]
      · simp [same, lookup_cons_of_ne same]
    · rw [insertField_of_gt after]
      by_cases there : key = k'
      · subst there
        simp [ne_of_lt after]
      · rw [lookup_cons_of_ne there, lookup_cons_of_ne there, lookup_insertField key k value rest]

theorem insertField_perm (key : String) (value : Json) :
    ∀ fields : List (String × Json), key ∉ fields.map Prod.fst →
      (insertField key value fields).Perm ((key, value) :: fields)
  | [] => fun _ => by simp [insertField]
  | (k, v) :: rest => fun fresh => by
    simp only [List.map_cons, List.mem_cons, not_or] at fresh
    rcases lt_trichotomy key k with before | same | after
    · rw [insertField_of_lt before]
    · exact absurd same fresh.1
    · rw [insertField_of_gt after]
      exact ((insertField_perm key value rest fresh.2).cons (k, v)).trans (List.Perm.swap _ _ _)

theorem insertField_comm {a b : String} (apart : a ≠ b) (va vb : Json) :
    ∀ fields : List (String × Json),
      insertField a va (insertField b vb fields) = insertField b vb (insertField a va fields)
  | [] => by
    rcases lt_trichotomy a b with before | same | after
    · rw [insertField, insertField, insertField_of_lt before, insertField_of_gt before]
      rfl
    · exact absurd same apart
    · rw [insertField, insertField, insertField_of_gt after, insertField_of_lt after]
      rfl
  | (k, v) :: rest => by
    have ih := insertField_comm apart va vb rest
    rcases lt_trichotomy a k with ak | ak | ka <;> rcases lt_trichotomy b k with bk | bk | kb
    · rw [insertField_of_lt bk, insertField_of_lt ak]
      rcases lt_trichotomy a b with ab | same | ba
      · rw [insertField_of_lt ab, insertField_of_gt ab, insertField_of_lt bk]
      · exact absurd same apart
      · rw [insertField_of_gt ba, insertField_of_lt ba, insertField_of_lt ak]
    · subst bk
      rw [insertField_self, insertField_of_lt ak, insertField_of_lt ak, insertField_of_gt ak,
        insertField_self]
    · rw [insertField_of_gt kb, insertField_of_lt ak, insertField_of_lt ak,
        insertField_of_gt (ak.trans kb), insertField_of_gt kb]
    · subst ak
      rw [insertField_of_lt bk, insertField_self, insertField_of_gt bk, insertField_self,
        insertField_of_lt bk]
    · exact absurd (ak.trans bk.symm) apart
    · subst ak
      rw [insertField_of_gt kb, insertField_self, insertField_self, insertField_of_gt kb]
    · rw [insertField_of_lt bk, insertField_of_gt ka, insertField_of_gt (bk.trans ka),
        insertField_of_gt ka, insertField_of_lt bk]
    · subst bk
      rw [insertField_self, insertField_of_gt ka, insertField_of_gt ka, insertField_self]
    · rw [insertField_of_gt kb, insertField_of_gt ka, insertField_of_gt ka, insertField_of_gt kb,
        ih]

/-! ## Building an object -/

/-- The fields an object built from `fields` holds. -/
def sortedFields (fields : List (String × Json)) : List (String × Json) :=
  fields.foldl (fun acc field => insertField field.1 field.2 acc) []

theorem mkObject_eq (fields : List (String × Json)) :
    mkObject fields = .object (sortedFields fields) := rfl

theorem lookup_foldl_insertField (key : String) :
    ∀ (fields acc : List (String × Json)),
      (fields.foldl (fun acc field => insertField field.1 field.2 acc) acc).lookup key =
        (fields.reverse ++ acc).lookup key
  | [], acc => rfl
  | (k, v) :: rest, acc => by
    rw [List.foldl_cons, lookup_foldl_insertField key rest, List.reverse_cons,
      List.lookup_append, List.lookup_append, List.lookup_append, lookup_insertField]
    by_cases same : key = k
    · simp [same]
    · simp [same, lookup_cons_of_ne same]

theorem get?_mkObject (fields : List (String × Json)) (key : String) :
    (mkObject fields).get? key = fields.reverse.lookup key := by
  simpa [mkObject_eq, get?, sortedFields] using lookup_foldl_insertField key fields []

theorem sortedFields_perm {fields : List (String × Json)}
    (distinct : (fields.map Prod.fst).Nodup) : (sortedFields fields).Perm fields := by
  suffices general : ∀ (fields acc : List (String × Json)),
      ((fields ++ acc).map Prod.fst).Nodup →
        (fields.foldl (fun acc field => insertField field.1 field.2 acc) acc).Perm
          (fields ++ acc) by
    simpa [sortedFields] using general fields [] (by simpa using distinct)
  intro fields
  induction fields with
  | nil => intro acc _; simp
  | cons field rest ih =>
    intro acc distinct
    obtain ⟨k, v⟩ := field
    simp only [List.cons_append, List.map_cons, List.nodup_cons, List.map_append,
      List.mem_append, not_or] at distinct
    have inserted := insertField_perm k v acc distinct.1.2
    rw [List.foldl_cons]
    refine (ih _ ?_).trans ?_
    · have keys := (inserted.map Prod.fst).append_left (rest.map Prod.fst)
      rw [List.map_append, keys.nodup_iff, List.map_cons, List.nodup_middle, List.nodup_cons,
        List.mem_append, not_or]
      exact ⟨⟨distinct.1.1, distinct.1.2⟩, distinct.2⟩
    · exact (inserted.append_left rest).trans List.perm_middle

theorem mkObject_perm {fields fields' : List (String × Json)} (same : fields.Perm fields')
    (distinct : (fields.map Prod.fst).Nodup) : mkObject fields = mkObject fields' := by
  rw [mkObject_eq, mkObject_eq, sortedFields, sortedFields]
  refine congrArg Json.object (same.foldl_eq' (fun x xIn y yIn acc => ?_) [])
  by_cases equal : x = y
  · rw [equal]
  · have apart : x.1 ≠ y.1 := fun keys => equal (List.inj_on_of_nodup_map distinct xIn yIn keys)
    exact (insertField_comm apart.symm y.2 x.2 acc)

theorem lookup_of_mem {fields : List (String × Json)} (distinct : (fields.map Prod.fst).Nodup)
    {key : String} {value : Json} (member : (key, value) ∈ fields) :
    fields.lookup key = some value := by
  induction fields with
  | nil => cases member
  | cons field rest ih =>
    obtain ⟨k, v⟩ := field
    simp only [List.map_cons, List.nodup_cons] at distinct
    rcases List.mem_cons.mp member with same | later
    · cases same
      exact lookup_cons_self
    · have other : key ≠ k := fun same => distinct.1 (same ▸ List.mem_map_of_mem later)
      rw [lookup_cons_of_ne other]
      exact ih distinct.2 later

theorem mem_of_lookup {fields : List (String × Json)} {key : String} {value : Json}
    (found : fields.lookup key = some value) : (key, value) ∈ fields := by
  induction fields with
  | nil => cases found
  | cons field rest ih =>
    obtain ⟨k, v⟩ := field
    by_cases same : key = k
    · subst same
      rw [lookup_cons_self, Option.some.injEq] at found
      rw [found]
      exact List.mem_cons_self
    · rw [lookup_cons_of_ne same] at found
      exact List.mem_cons_of_mem _ (ih found)

theorem lookup_eq_none {fields : List (String × Json)} {key : String}
    (absent : key ∉ fields.map Prod.fst) : fields.lookup key = none := by
  rw [List.lookup_eq_none_iff]
  intro field member
  simpa [bne_iff_ne] using fun same : key = field.1 => absent (same ▸ List.mem_map_of_mem member)

end BalancerSync.Json
