import Mathlib
import BalancerSync.Schema.FromJson
import BalancerSync.Proofs.Net.AddressText
import BalancerSync.Proofs.Json.Objects

/-!
# Normal forms of decoded data

Decoding by a shape yields data in a normal form (`Normal`): a record is an object that holds
every field of the record under its name, keys in order; an integer is a whole number in its
width's range; an address is the canonical text of a valid address. Decoding is the identity on
normal forms (`decodeJson_normal`), and whatever decoding yields is a normal form
(`normal_of_decodeJson`), so decoding twice is decoding once.

Shapes are taken well formed (`Shape.WellFormed`): the fields of a record have distinct names,
their defaults are normal forms, and the nesting is bounded, which bounds the fuel decoding needs.
-/

namespace BalancerSync.Schema

open Json (mkObject)

/-! ## Numbers and normal forms -/

/-- A number that decoding keeps for a width: a whole number in the width's range. -/
def Width.Keeps (w : Width) : Number → Prop
  | .natural n => w.fits n = true
  | .negative n => w.fits n = true
  | .float _ => False

/-- A number as a document writes one of a width: in range, and negative only below zero. -/
def Width.Writes (w : Width) : Number → Prop
  | .natural n => w.fits n = true
  | .negative n => n < 0 ∧ w.fits n = true
  | .float _ => False

theorem Width.keeps_of_writes {w : Width} {n : Number} (written : w.Writes n) : w.Keeps n := by
  cases n with
  | natural n => exact written
  | negative n => exact written.2
  | float x => exact written.elim

/-- Data in the normal form of a shape, with numbers as `admits` allows them. A record holds
every one of its fields, under its name, in key order. -/
inductive Normal (admits : Width → Number → Prop) : Shape → Json → Prop
  | text (s : String) : Normal admits .text (.string s)
  | flag (b : Bool) : Normal admits .flag (.bool b)
  | integer {w : Width} {n : Number} (kept : admits w n) : Normal admits (.integer w) (.number n)
  | ipAddress {ip : Net.IpAddr} (valid : ip.Valid) : Normal admits .ipAddress (.string ip.text)
  | list {item : Shape} {items : List Json} (each : ∀ x ∈ items, Normal admits item x) :
      Normal admits (.list item) (.array items)
  | null {inner : Shape} : Normal admits (.optional inner) .null
  | present {inner : Shape} {v : Json} (normal : Normal admits inner v) :
      Normal admits (.optional inner) v
  | record {name : String} {fields : List (String × Shape × Option Json)} {values : List Json}
      (length : values.length = fields.length)
      (each : ∀ p ∈ fields.zip values, Normal admits p.1.2.1 p.2) :
      Normal admits (.record name fields) (mkObject ((fields.map Prod.fst).zip values))

theorem Normal.mono {admits admits' : Width → Number → Prop}
    (weaker : ∀ w n, admits w n → admits' w n) {s : Shape} {v : Json}
    (normal : Normal admits s v) : Normal admits' s v := by
  induction normal with
  | text s => exact .text s
  | flag b => exact .flag b
  | integer kept => exact .integer (weaker _ _ kept)
  | ipAddress valid => exact .ipAddress valid
  | list _ ih => exact .list ih
  | null => exact .null
  | present _ ih => exact .present ih
  | record length _ ih => exact .record length ih

/-- The defaults of a record's fields are normal forms of the fields' shapes. -/
def DefaultsNormal (fields : List (String × Shape × Option Json)) : Prop :=
  ∀ field ∈ fields, ∀ d, field.2.2 = some d → Normal Width.Writes field.2.1 d

/-- A shape whose records name each field once and default only to normal forms, nesting at
most `depth` deep. -/
inductive Shape.WellFormed : Nat → Shape → Prop
  | text {depth : Nat} : WellFormed depth .text
  | flag {depth : Nat} : WellFormed depth .flag
  | integer {depth : Nat} (w : Width) : WellFormed depth (.integer w)
  | ipAddress {depth : Nat} : WellFormed depth .ipAddress
  | list {depth : Nat} {item : Shape} (inner : WellFormed depth item) :
      WellFormed (depth + 1) (.list item)
  | optional {depth : Nat} {inner : Shape} (present : WellFormed depth inner) :
      WellFormed (depth + 1) (.optional inner)
  | record {depth : Nat} {name : String} {fields : List (String × Shape × Option Json)}
      (distinct : (fields.map Prod.fst).Nodup)
      (each : ∀ field ∈ fields, WellFormed depth field.2.1)
      (defaults : DefaultsNormal fields) : WellFormed (depth + 1) (.record name fields)

/-! ## Record fields -/

section Fields

variable {fields : List (String × Shape × Option Json)}

theorem findField_of_mem (distinct : (fields.map Prod.fst).Nodup)
    {field : String × Shape × Option Json} (member : field ∈ fields) :
    findField fields field.1 = some field.2 := by
  induction fields with
  | nil => cases member
  | cons first rest ih =>
    simp only [List.map_cons, List.nodup_cons] at distinct
    rcases List.mem_cons.mp member with rfl | later
    · simp [findField]
    · have other : first.1 ≠ field.1 := fun same =>
        distinct.1 (same ▸ List.mem_map_of_mem later)
      have found := ih distinct.2 later
      simp only [findField] at found ⊢
      rw [List.find?_cons_of_neg (by simpa using other)]
      exact found

theorem mem_of_findField {key : String} {shape : Shape} {d : Option Json}
    (found : findField fields key = some (shape, d)) : (key, shape, d) ∈ fields := by
  obtain ⟨field, first, same⟩ := Option.map_eq_some_iff.mp found
  have named : field.1 = key := by simpa using List.find?_some first
  obtain ⟨k, s, d'⟩ := field
  simp only at named same
  subst named
  cases same
  exact List.mem_of_find?_eq_some first

/-- The value a record field takes from the fields decoded: the decoded one, or else its
default. -/
def fieldValue (got : List (String × Json)) (field : String × Shape × Option Json) :
    Option Json :=
  (got.lookup field.1).or field.2.2

theorem foldl_fill (got : List (String × Json))
    {step : Except String (List (String × Json)) → String × Shape × Option Json →
      Except String (List (String × Json))}
    (failed : ∀ e field, step (.error e) field = .error e)
    (filled : ∀ done field, step (.ok done) field =
      match fieldValue got field with
      | some x => .ok ((field.1, x) :: done)
      | none => .error (missingField field.1)) :
    ∀ (fields : List (String × Shape × Option Json)) (done result : List (String × Json)),
      fields.foldl step (.ok done) = .ok result ↔
        ∃ values, List.Forall₂ (fun field x => fieldValue got field = some x) fields values ∧
          result = ((fields.map Prod.fst).zip values).reverse ++ done := by
  have stuck : ∀ (fields : List (String × Shape × Option Json)) e,
      fields.foldl step (.error e) = .error e := by
    intro fields
    induction fields with
    | nil => intro e; rfl
    | cons field rest ih => intro e; rw [List.foldl_cons, failed, ih]
  intro fields
  induction fields with
  | nil =>
    intro done result
    simp only [List.foldl_nil, Except.ok.injEq, List.forall₂_nil_left_iff, exists_eq_left,
      List.map_nil, List.zip_nil_left, List.reverse_nil, List.nil_append]
    exact eq_comm
  | cons field rest ih =>
    intro done result
    rw [List.foldl_cons, filled]
    cases value : fieldValue got field with
    | none =>
      simp only [stuck, reduceCtorEq, false_iff, not_exists, not_and]
      intro values related
      cases related with
      | cons first _ => simp [value] at first
    | some x =>
      rw [ih]
      constructor
      · rintro ⟨values, related, rfl⟩
        exact ⟨x :: values, .cons value related, by simp⟩
      · rintro ⟨values, related, rfl⟩
        cases related with
        | cons first later =>
          rw [value, Option.some.injEq] at first
          subst first
          exact ⟨_, later, by simp⟩

theorem except_map_eq_ok {α β : Type} {x : Except String α} {f : α → β} {b : β} :
    x.map f = .ok b ↔ ∃ a, x = .ok a ∧ f a = b := by
  cases x <;> simp [Except.map]

/-- Completing decoded fields succeeds exactly when every field has a value, decoded or default;
the object then holds each field with its value. -/
theorem completeFields_eq_ok_iff {got : List (String × Json)} {v : Json} :
    completeFields fields got = .ok v ↔
      ∃ values, List.Forall₂ (fun field x => fieldValue got field = some x) fields values ∧
        v = mkObject ((fields.map Prod.fst).zip values).reverse := by
  unfold completeFields
  rw [except_map_eq_ok]
  rw [exists_congr fun result => and_congr_left fun _ => foldl_fill got ?failed ?filled _ _ _]
  simp only [List.append_nil]
  · constructor
    · rintro ⟨_, ⟨values, related, rfl⟩, rfl⟩
      exact ⟨values, related, rfl⟩
    · rintro ⟨values, related, rfl⟩
      exact ⟨_, ⟨values, related, rfl⟩, rfl⟩
  case failed => intro e field; rfl
  case filled =>
    intro done field
    obtain ⟨k, s, d⟩ := field
    simp only [fieldValue]
    cases got.lookup k <;> cases d <;> rfl

theorem completeFields_perm {got : List (String × Json)} (distinct : (fields.map Prod.fst).Nodup)
    (keys : (got.map Prod.fst).Perm (fields.map Prod.fst)) :
    completeFields fields got = .ok (mkObject got) := by
  have gotDistinct : (got.map Prod.fst).Nodup := keys.nodup_iff.mpr distinct
  have given : ∀ field ∈ fields, ∃ x, (field.1, x) ∈ got ∧ got.lookup field.1 = some x := by
    intro field member
    obtain ⟨p, inGot, named⟩ := List.mem_map.mp (keys.mem_iff.mpr (List.mem_map_of_mem member))
    rw [← named]
    exact ⟨p.2, inGot, Json.lookup_of_mem gotDistinct (show (p.1, p.2) ∈ got from inGot)⟩
  let completed := fields.map fun field => (field.1, (got.lookup field.1).getD .null)
  have same : got.Perm completed := by
    have completedDistinct : (completed.map Prod.fst).Nodup := by
      simpa [completed, Function.comp_def] using distinct
    rw [List.perm_ext_iff_of_nodup (gotDistinct.of_map _) (completedDistinct.of_map _)]
    rintro ⟨key, x⟩
    constructor
    · intro inGot
      obtain ⟨field, member, named⟩ :=
        List.mem_map.mp (keys.mem_iff.mp (List.mem_map_of_mem (f := Prod.fst) inGot))
      have looked : got.lookup key = some x := Json.lookup_of_mem gotDistinct inGot
      exact List.mem_map.mpr ⟨field, member, by simp [named, looked]⟩
    · intro inCompleted
      obtain ⟨field, member, named⟩ := List.mem_map.mp inCompleted
      obtain ⟨y, inGot, looked⟩ := given field member
      simp only [looked, Option.getD_some, Prod.mk.injEq] at named
      obtain ⟨rfl, rfl⟩ := named
      exact inGot
  refine completeFields_eq_ok_iff.mpr ⟨fields.map fun field => (got.lookup field.1).getD .null,
    ?_, ?_⟩
  · rw [List.forall₂_map_right_iff, List.forall₂_same]
    intro field member
    obtain ⟨x, -, looked⟩ := given field member
    simp [fieldValue, looked]
  · rw [List.zip_map']
    exact Json.mkObject_perm (same.trans (List.reverse_perm completed).symm) gotDistinct

end Fields

/-! ## Decoding normal forms -/

section Identity

variable {fuel : Nat}

theorem decodeFields_of_forall {fields : List (String × Shape × Option Json)} :
    ∀ {kvs : List (String × Json)},
      (∀ p ∈ kvs, ∃ shape d, findField fields p.1 = some (shape, d) ∧
        decodeJson fuel shape p.2 = .ok p.2) →
      decodeFields fuel fields kvs = .ok kvs
  | [], _ => by rw [decodeFields]
  | (key, v) :: rest, each => by
    obtain ⟨shape, d, found, decoded⟩ := each (key, v) (by simp)
    have later := decodeFields_of_forall (fun p member => each p (List.mem_cons_of_mem _ member))
    rw [decodeFields, found]
    simp only [decoded, later]
    rfl

theorem decodeItems_of_forall {item : Shape} :
    ∀ {items : List Json}, (∀ x ∈ items, decodeJson fuel item x = .ok x) →
      decodeItems fuel item items = .ok items
  | [], _ => by rw [decodeItems]
  | x :: rest, each => by
    have later := decodeItems_of_forall (fun y member => each y (List.mem_cons_of_mem _ member))
    rw [decodeItems]
    simp only [each x (by simp), later]
    rfl

theorem checkInteger_of_keeps {word : Unexpected → String} {w : Width} {n : Number}
    (kept : w.Keeps n) : checkInteger word w n = .ok (.number n) := by
  cases n with
  | natural m => simp [checkInteger, show w.fits m = true from kept]
  | negative m => simp [checkInteger, show w.fits m = true from kept]
  | float x => exact kept.elim

theorem map_fst_zip_fields {fields : List (String × Shape × Option Json)} {values : List Json}
    (length : values.length = fields.length) :
    ((fields.map Prod.fst).zip values).map Prod.fst = fields.map Prod.fst :=
  List.map_fst_zip (by simp [length])

theorem mem_zip_fields {fields : List (String × Shape × Option Json)} {values : List Json}
    {p : String × Json} (member : p ∈ (fields.map Prod.fst).zip values) :
    ∃ q ∈ fields.zip values, p = (q.1.1, q.2) := by
  rw [List.zip_map_left, List.mem_map] at member
  obtain ⟨q, member, rfl⟩ := member
  exact ⟨q, member, rfl⟩

theorem decodeJson_normal {admits : Width → Number → Prop}
    (kept : ∀ w n, admits w n → w.Keeps n) {s : Shape} {v : Json} (normal : Normal admits s v) :
    ∀ {depth : Nat}, s.WellFormed depth → decodeJson (depth + 1) s v = .ok v := by
  induction normal with
  | text s => intro depth _; rw [decodeJson]
  | flag b => intro depth _; rw [decodeJson]
  | integer admitted =>
    intro depth _
    rw [decodeJson]
    exact checkInteger_of_keeps (kept _ _ admitted)
  | ipAddress valid =>
    intro depth _
    rw [decodeJson]
    simp [checkIp, Net.IpAddr.parse?_text valid]
  | list each ih =>
    intro depth formed
    cases formed with
    | list inner =>
      rw [decodeJson]
      simp only [decodeItems_of_forall (fun x member => ih x member inner)]
      rfl
  | null => intro depth _; rw [decodeJson]
  | present normal ih =>
    rename_i v
    intro depth formed
    cases formed with
    | optional inner =>
      by_cases isNull : v = .null
      · subst isNull
        rw [decodeJson]
      · simp only [decodeJson]
        exact ih inner
  | record length each ih =>
    rename_i name fields values
    intro depth formed
    cases formed with
    | record distinct eachFormed defaults =>
      rename_i depth
      have keys := map_fst_zip_fields length
      have distinctKeys : (((fields.map Prod.fst).zip values).map Prod.fst).Nodup := by
        rwa [keys]
      have sorted := Json.sortedFields_perm distinctKeys
      have sortedKeys := (sorted.map Prod.fst).nodup_iff.mpr distinctKeys
      have got : decodeFields (depth + 1) fields
          (Json.sortedFields ((fields.map Prod.fst).zip values)) =
            .ok (Json.sortedFields ((fields.map Prod.fst).zip values)) := by
        refine decodeFields_of_forall fun p member => ?_
        obtain ⟨q, zipped, rfl⟩ := mem_zip_fields (sorted.mem_iff.mp member)
        exact ⟨_, _, findField_of_mem distinct (List.of_mem_zip zipped).1,
          ih q zipped (eachFormed q.1 (List.of_mem_zip zipped).1)⟩
      have completed :=
        completeFields_perm distinct ((sorted.map Prod.fst).trans (List.Perm.of_eq keys))
      rw [Json.mkObject_eq, decodeJson]
      simp only [got, completed]
      rw [Json.mkObject_perm sorted sortedKeys, Json.mkObject_eq]

end Identity

/-! ## What decoding yields -/

section Soundness

variable {fuel : Nat}

/-- Fields decoded for a record: each is named as a field of the record and is a normal form of
that field's shape. -/
def FieldsDecoded (fields : List (String × Shape × Option Json)) (got : List (String × Json)) :
    Prop :=
  ∀ p ∈ got, ∃ field ∈ fields, field.1 = p.1 ∧ Normal Width.Keeps field.2.1 p.2

theorem except_bind_eq_ok {α β : Type} {x : Except String α} {f : α → Except String β}
    {b : β} :
    x >>= f = .ok b ↔ ∃ a, x = .ok a ∧ f a = .ok b := by
  cases x <;> simp [bind, Except.bind]

theorem checkInteger_eq_ok {word : Unexpected → String} {w : Width} {n : Number} {v : Json}
    (checked : checkInteger word w n = .ok v) : v = .number n ∧ w.Keeps n := by
  cases n with
  | natural m =>
    by_cases fits : w.fits m = true
    · simp only [checkInteger, fits, if_true, Except.ok.injEq] at checked
      exact ⟨checked.symm, fits⟩
    · simp [checkInteger, fits] at checked
  | negative m =>
    by_cases fits : w.fits m = true
    · simp only [checkInteger, fits, if_true, Except.ok.injEq] at checked
      exact ⟨checked.symm, fits⟩
    · simp [checkInteger, fits] at checked
  | float x => simp [checkInteger] at checked

theorem checkIp_eq_ok {s : String} {v : Json} (checked : checkIp s = .ok v) :
    ∃ ip : Net.IpAddr, ip.Valid ∧ v = .string ip.text := by
  unfold checkIp at checked
  cases parsed : Net.IpAddr.parse? s with
  | none => simp [parsed] at checked
  | some ip =>
    simp only [parsed, Except.ok.injEq] at checked
    exact ⟨ip, Net.IpAddr.valid_of_parse? parsed, checked.symm⟩

theorem decodeItems_normal {item : Shape}
    (ih : ∀ {d v}, decodeJson fuel item d = .ok v → Normal Width.Keeps item v) :
    ∀ {items results : List Json}, decodeItems fuel item items = .ok results →
      ∀ x ∈ results, Normal Width.Keeps item x
  | [], results, decoded => by
    rw [decodeItems] at decoded
    cases decoded
    simp
  | x :: rest, results, decoded => by
    rw [decodeItems] at decoded
    obtain ⟨y, first, decoded⟩ := except_bind_eq_ok.mp decoded
    obtain ⟨ys, later, decoded⟩ := except_bind_eq_ok.mp decoded
    cases decoded
    intro z member
    rcases List.mem_cons.mp member with rfl | inLater
    · exact ih first
    · exact decodeItems_normal ih later z inLater

theorem decodeFields_normal {fields : List (String × Shape × Option Json)}
    (ih : ∀ field ∈ fields, ∀ {d v}, decodeJson fuel field.2.1 d = .ok v →
      Normal Width.Keeps field.2.1 v) :
    ∀ {kvs got : List (String × Json)}, decodeFields fuel fields kvs = .ok got →
      FieldsDecoded fields got
  | [], got, decoded => by
    rw [decodeFields] at decoded
    cases decoded
    intro p member
    cases member
  | (key, v) :: rest, got, decoded => by
    rw [decodeFields] at decoded
    cases found : findField fields key with
    | none =>
      simp only [found] at decoded
      exact decodeFields_normal ih decoded
    | some entry =>
      obtain ⟨shape, d⟩ := entry
      simp only [found] at decoded
      obtain ⟨x, first, decoded⟩ := except_bind_eq_ok.mp decoded
      obtain ⟨xs, later, decoded⟩ := except_bind_eq_ok.mp decoded
      cases decoded
      have member := mem_of_findField found
      intro p inGot
      rcases List.mem_cons.mp inGot with rfl | inLater
      · exact ⟨_, member, rfl, ih _ member first⟩
      · exact decodeFields_normal ih later p inLater

theorem decodePositional_normal {name : String} {count : Nat} :
    ∀ {fields : List (String × Shape × Option Json)},
      (∀ field ∈ fields, ∀ {d v}, decodeJson fuel field.2.1 d = .ok v →
        Normal Width.Keeps field.2.1 v) →
      DefaultsNormal fields →
      ∀ {items : List Json} {index : Nat} {got : List (String × Json)},
        decodePositional fuel name count fields items index = .ok got → FieldsDecoded fields got
  | [], _, _, items, index, got, decoded => by
    rw [decodePositional] at decoded
    cases decoded
    intro p member
    cases member
  | (key, shape, dflt) :: rest, ih, defaults, items, index, got, decoded => by
    have ihRest : ∀ field ∈ rest, ∀ {d v}, decodeJson fuel field.2.1 d = .ok v →
        Normal Width.Keeps field.2.1 v :=
      fun field member => ih field (List.mem_cons_of_mem _ member)
    have defaultsRest : DefaultsNormal rest :=
      fun field member => defaults field (List.mem_cons_of_mem _ member)
    cases items with
    | cons x more =>
      rw [decodePositional] at decoded
      obtain ⟨y, first, decoded⟩ := except_bind_eq_ok.mp decoded
      obtain ⟨ys, later, decoded⟩ := except_bind_eq_ok.mp decoded
      cases decoded
      intro p inGot
      rcases List.mem_cons.mp inGot with rfl | inLater
      · exact ⟨_, List.mem_cons_self, rfl, ih _ List.mem_cons_self first⟩
      · obtain ⟨field, member, named, normal⟩ :=
          decodePositional_normal ihRest defaultsRest later p inLater
        exact ⟨field, List.mem_cons_of_mem _ member, named, normal⟩
    | nil =>
      cases dflt with
      | none =>
        rw [decodePositional] at decoded
        cases decoded
      | some d =>
        rw [decodePositional] at decoded
        obtain ⟨ys, later, decoded⟩ := except_bind_eq_ok.mp decoded
        cases decoded
        intro p inGot
        rcases List.mem_cons.mp inGot with rfl | inLater
        · have written := defaults _ List.mem_cons_self d rfl
          exact ⟨_, List.mem_cons_self, rfl,
            written.mono fun _ _ kept => Width.keeps_of_writes kept⟩
        · obtain ⟨field, member, named, normal⟩ :=
            decodePositional_normal ihRest defaultsRest later p inLater
          exact ⟨field, List.mem_cons_of_mem _ member, named, normal⟩

theorem completeFields_normal {name : String} {fields : List (String × Shape × Option Json)}
    (distinct : (fields.map Prod.fst).Nodup) (defaults : DefaultsNormal fields)
    {got : List (String × Json)} (decoded : FieldsDecoded fields got) {v : Json}
    (completed : completeFields fields got = .ok v) :
    Normal Width.Keeps (.record name fields) v := by
  obtain ⟨values, related, rfl⟩ := completeFields_eq_ok_iff.mp completed
  have length := related.length_eq
  have keys := map_fst_zip_fields length.symm
  rw [Json.mkObject_perm (List.reverse_perm _) (by simpa [keys] using distinct)]
  refine Normal.record length.symm fun q zipped => ?_
  obtain ⟨field, x⟩ := q
  have member := (List.of_mem_zip zipped).1
  have valued : fieldValue got field = some x := (List.forall₂_iff_zip.mp related).2 zipped
  cases looked : got.lookup field.1 with
  | some y =>
    rw [fieldValue, looked, Option.some_or, Option.some.injEq] at valued
    subst valued
    obtain ⟨field', member', named, normal⟩ := decoded _ (Json.mem_of_lookup looked)
    have same : field' = field := List.inj_on_of_nodup_map distinct member' member named
    subst same
    exact normal
  | none =>
    rw [fieldValue, looked, Option.none_or] at valued
    exact (defaults field member x valued).mono fun _ _ kept => Width.keeps_of_writes kept

theorem normal_of_decodeJson :
    ∀ {fuel depth : Nat} {s : Shape} {d v : Json}, s.WellFormed depth →
      decodeJson fuel s d = .ok v → Normal Width.Keeps s v
  | 0, _, _, _, _, _, decoded => by
    rw [decodeJson] at decoded
    cases decoded
  | fuel + 1, depth, s, d, v, formed, decoded => by
    unfold decodeJson at decoded
    split at decoded <;> dsimp only at decoded
    · cases decoded
      exact .text _
    · cases decoded
      exact .flag _
    · obtain ⟨rfl, kept⟩ := checkInteger_eq_ok decoded
      exact .integer kept
    · obtain ⟨ip, valid, rfl⟩ := checkIp_eq_ok decoded
      exact .ipAddress valid
    · cases formed with
      | list inner =>
        obtain ⟨items, each, rfl⟩ := except_map_eq_ok.mp decoded
        exact .list (decodeItems_normal (fun item => normal_of_decodeJson inner item) each)
    · cases decoded
      exact .null
    · cases formed with
      | optional inner => exact .present (normal_of_decodeJson inner decoded)
    · cases formed with
      | record distinct each defaults =>
        have fieldsNormal := fun field member {d v}
            (decodedField : decodeJson fuel field.2.1 d = .ok v) =>
          normal_of_decodeJson (each field member) decodedField
        split at decoded
        next got fieldsDecoded =>
          exact completeFields_normal distinct defaults
            (decodeFields_normal fieldsNormal fieldsDecoded) decoded
        next => cases decoded
    · cases formed with
      | record distinct each defaults =>
        have fieldsNormal := fun field member {d v}
            (decodedField : decodeJson fuel field.2.1 d = .ok v) =>
          normal_of_decodeJson (each field member) decodedField
        split at decoded
        next => cases decoded
        next got fieldsDecoded =>
          split_ifs at decoded
          exact completeFields_normal distinct defaults
            (decodePositional_normal fieldsNormal defaults fieldsDecoded) decoded
    · cases decoded

end Soundness

end BalancerSync.Schema
