import Mathlib
import BalancerSync.Schema.FromText
import BalancerSync.Proofs.Schema.NormalForm
import BalancerSync.Proofs.Json.TextReading

/-!
# Reading written documents by a shape

A writer gives a normal form of a shape as a document: the normal form itself, except that the
fields of each record may stand in any order (`Written`); a struct serializer, for one, writes
them in declaration order. Decoding the compact text of such a document by the shape gives the
normal form back (`Shape.decodeDocument_render`).

The argument follows the reader one value at a time (`Written.reads`): a value's text, followed
by a comma, a closing bracket or brace, or nothing, is read whole and the reader stands right
after it. Arrays and objects are read item by item and field by field (`decodeTextItems_rest`,
`decodeTextFields_rest`), each field found by its name among the record's fields; the fields
read, in whatever order, complete to the record's object (`completeFields_perm`).
-/

namespace BalancerSync.Schema

open Json (Source textBytes render renderItems renderFields quote mkObject)

/-! ## Written documents -/

/-- A document a writer may give for a normal form of a shape: the normal form, with each
record's fields in some order. A record's entries are its fields' names, each with the
document written for the field and its normal form. -/
inductive Written : Shape → Json → Json → Prop
  | text (s : String) : Written .text (.string s) (.string s)
  | flag (b : Bool) : Written .flag (.bool b) (.bool b)
  | integer {w : Width} {n : Number} (written : w.Writes n) :
      Written (.integer w) (.number n) (.number n)
  | ipAddress {ip : Net.IpAddr} (valid : ip.Valid) :
      Written .ipAddress (.string ip.text) (.string ip.text)
  | list {item : Shape} {docs items : List Json} (length : docs.length = items.length)
      (each : ∀ p ∈ docs.zip items, Written item p.1 p.2) :
      Written (.list item) (.array docs) (.array items)
  | null {inner : Shape} : Written (.optional inner) .null .null
  | present {inner : Shape} {doc v : Json} (written : Written inner doc v) :
      Written (.optional inner) doc v
  | record {name : String} {fields : List (String × Shape × Option Json)}
      {entries : List (String × Json × Json)}
      (keys : (entries.map Prod.fst).Perm (fields.map Prod.fst))
      (each : ∀ e ∈ entries, ∀ field ∈ fields, field.1 = e.1 → Written field.2.1 e.2.1 e.2.2) :
      Written (.record name fields) (.object (entries.map fun e => (e.1, e.2.1)))
        (mkObject (entries.map fun e => (e.1, e.2.2)))

/-- What may follow a value in a compact document: a comma, a closing bracket or brace, or the
end of the text. -/
def Delimited (more : List UInt8) : Prop :=
  ∀ b ∈ more.head?, b = 44 ∨ b = 93 ∨ b = 125

theorem Delimited.endsNumber {more : List UInt8} (delimited : Delimited more) :
    Source.EndsNumber more := by
  intro b first
  rcases delimited b first with rfl | rfl | rfl <;> decide

/-- Decoding by `shape` with `fuel` reads the text of `doc`, wherever it stands and whatever may
follow it, as `v`, and stands right after it. -/
def Reads (src : Source) (fuel : Nat) (shape : Shape) (doc v : Json) : Prop :=
  ∀ ⦃i : Nat⦄ ⦃more : List UInt8⦄, src.ahead i = textBytes (render doc) ++ more →
    Delimited more → decodeText src fuel shape i = .ok (v, i + (textBytes (render doc)).length)


/-! ## The text of a document -/

section Text

/-- The bytes of a field in a compact object: its quoted name, a colon and its value. -/
def fieldBytes (key : String) (doc : Json) : List UInt8 :=
  textBytes (quote key) ++ 58 :: textBytes (render doc)

theorem textBytes_render_array (docs : List Json) :
    textBytes (render (.array docs)) = 91 :: (textBytes (renderItems docs) ++ [93]) := by
  rw [Json.render, Json.textBytes_append, Json.textBytes_append]
  rfl

theorem textBytes_renderItems_cons (doc : Json) :
    ∀ docs : List Json, textBytes (renderItems (doc :: docs)) =
      textBytes (render doc) ++ docs.flatMap fun d => 44 :: textBytes (render d)
  | [] => by rw [Json.renderItems, List.flatMap_nil, List.append_nil]
  | next :: docs => by
    have comma : textBytes "," = [44] := rfl
    have rest := textBytes_renderItems_cons next docs
    simp only [Json.renderItems, Json.textBytes_append, comma, rest, List.flatMap_cons,
      List.append_assoc, List.cons_append, List.nil_append]

theorem textBytes_render_object (fields : List (String × Json)) :
    textBytes (render (.object fields)) = 123 :: (textBytes (renderFields fields) ++ [125]) := by
  rw [Json.render, Json.textBytes_append, Json.textBytes_append]
  rfl

theorem textBytes_renderFields_cons (key : String) (doc : Json) :
    ∀ fields : List (String × Json), textBytes (renderFields ((key, doc) :: fields)) =
      fieldBytes key doc ++ fields.flatMap fun f => 44 :: fieldBytes f.1 f.2
  | [] => by
    have colon : textBytes ":" = [58] := rfl
    rw [Json.renderFields, List.flatMap_nil, List.append_nil, Json.textBytes_append,
      Json.textBytes_append, colon, fieldBytes, List.append_assoc]
    rfl
  | (next, nextDoc) :: fields => by
    have comma : textBytes "," = [44] := rfl
    have colon : textBytes ":" = [58] := rfl
    have rest := textBytes_renderFields_cons next nextDoc fields
    simp only [Json.renderFields, Json.textBytes_append, comma, colon, rest, List.flatMap_cons,
      fieldBytes, List.append_assoc, List.cons_append, List.nil_append]

theorem textBytes_digitText_cons (n : Nat) :
    ∃ d < 10, ∃ rest, textBytes (Decimal.digitText n) = UInt8.ofNat (48 + d) :: rest := by
  obtain ⟨c, cs, written⟩ :=
    List.exists_cons_of_ne_nil (Nat.toDigits_ne_nil : Nat.toDigits 10 n ≠ [])
  obtain ⟨d, digit, rfl⟩ := Net.mem_toDigits Net.readable_ten n c (by simp [written])
  refine ⟨d, digit, cs.flatMap String.utf8EncodeChar, ?_⟩
  rw [Json.Source.textBytes_digitText, written, List.flatMap_cons,
    (Json.Source.utf8EncodeChar_digitChar digit).1]
  rfl

theorem digitByte_ne {d : Nat} (digit : d < 10) :
    32 < UInt8.ofNat (48 + d) ∧ UInt8.ofNat (48 + d) ≠ 93 ∧ UInt8.ofNat (48 + d) ≠ 110 ∧
      UInt8.ofNat (48 + d) ≠ 45 := by
  have all : ∀ d : Fin 10, 32 < UInt8.ofNat (48 + d) ∧ UInt8.ofNat (48 + d) ≠ 93 ∧
      UInt8.ofNat (48 + d) ≠ 110 ∧ UInt8.ofNat (48 + d) ≠ 45 := by decide
  exact all ⟨d, digit⟩

/-- The text of a value that is no double starts with a byte above the space that closes no
array, and it starts with `n` just when the value is null. -/
theorem head_textBytes_render {doc : Json} (notFloat : ∀ x, doc ≠ .number (.float x)) :
    ∃ b rest, textBytes (render doc) = b :: rest ∧ 32 < b ∧ b ≠ 93 ∧ (b = 110 ↔ doc = .null) := by
  cases doc with
  | null => exact ⟨110, _, rfl, by decide, by decide, by simp⟩
  | bool b =>
    cases b
    · exact ⟨102, _, rfl, by decide, by decide, by simp⟩
    · exact ⟨116, _, rfl, by decide, by decide, by simp⟩
  | number n =>
    cases n with
    | natural n =>
      obtain ⟨d, digit, rest, digits⟩ := textBytes_digitText_cons n
      obtain ⟨above, notClose, notNull, -⟩ := digitByte_ne digit
      refine ⟨UInt8.ofNat (48 + d), rest, ?_, above, notClose, iff_of_false notNull (by simp)⟩
      rw [Json.render, Number.text, digits]
    | negative n =>
      exact ⟨45, _, by rw [Json.render, Number.text, Json.textBytes_append]; rfl, by decide,
        by decide, by simp⟩
    | float x => exact absurd rfl (notFloat x)
  | string s =>
    exact ⟨34, _, by rw [Json.render, Json.Source.textBytes_quote]; rfl, by decide, by decide,
      by simp⟩
  | array docs => exact ⟨91, _, textBytes_render_array docs, by decide, by decide, by simp⟩
  | object fields =>
    exact ⟨123, _, textBytes_render_object fields, by decide, by decide, by simp⟩

end Text


/-! ## What written documents are -/

section Facts

variable {s : Shape} {doc v : Json}

theorem Written.not_float (written : Written s doc v) : ∀ x, doc ≠ .number (.float x) := by
  induction written with
  | integer kept =>
    intro x same
    cases same
    exact kept
  | present _ ih => exact ih
  | text | flag | ipAddress | list | null | record => intro x same; cases same

theorem Written.eq_null (written : Written s .null v) : v = .null := by
  generalize isNull : Json.null = doc at written
  induction written with
  | null => rfl
  | present _ ih => exact ih isNull
  | text | flag | integer | ipAddress | list | record => cases isNull

theorem exists_of_forall₂ {α β : Type} {R : α → β → Prop} {l : List α} {l' : List β}
    (related : List.Forall₂ R l l') : ∀ a ∈ l, ∃ b, R a b := by
  induction related with
  | nil => intro a member; cases member
  | cons first _ ih =>
    intro a member
    rcases List.mem_cons.mp member with rfl | later
    · exact ⟨_, first⟩
    · exact ih a later

theorem Width.fits_bounds {w : Width} {n : Int} (fits : w.fits n = true) :
    -2 ^ 63 ≤ n ∧ n ≤ 2 ^ 64 - 1 := by
  cases w <;> simp [Width.fits] at fits <;> omega

end Facts

/-! ## Reading scalars -/

section Scalars

open Json.Source

variable {src : Source} (fuel : Nat)

theorem reads_text (s : String) : Reads src (fuel + 1) .text (.string s) (.string s) := by
  intro i more here _
  rw [Json.render] at here ⊢
  have opening : src.ahead i = 34 :: ((textBytes (quote s)).tail ++ more) := by
    rw [here, textBytes_quote]
    rfl
  rw [decodeText, skipBlank_of_ahead opening (by decide), at?_of_ahead opening]
  simp only
  rw [if_pos (beq_self_eq_true _), readString_quote here]
  rfl

theorem reads_flag (b : Bool) : Reads src (fuel + 1) .flag (.bool b) (.bool b) := by
  intro i more here _
  cases b with
  | true =>
    have word : textBytes (render (.bool true)) = 116 :: [114, 117, 101] := rfl
    rw [word, List.cons_append] at here
    rw [word, decodeText, skipBlank_of_ahead here (by decide), at?_of_ahead here]
    simp only
    rw [if_pos (beq_self_eq_true _), ident_of_ahead (ahead_succ here)]
    rfl
  | false =>
    have word : textBytes (render (.bool false)) = 102 :: [97, 108, 115, 101] := rfl
    rw [word, List.cons_append] at here
    rw [word, decodeText, skipBlank_of_ahead here (by decide), at?_of_ahead here]
    simp only
    rw [if_pos (beq_self_eq_true _), ident_of_ahead (ahead_succ here)]
    rfl

theorem reads_integer {w : Width} {n : Number} (written : w.Writes n) :
    Reads src (fuel + 1) (.integer w) (.number n) (.number n) := by
  intro i more here delimited
  have checked : checkInteger Unexpected.describe w n = .ok (.number n) :=
    checkInteger_of_keeps (Width.keeps_of_writes written)
  cases n with
  | natural m =>
    have small : m ≤ maxU64 := by
      have := Width.fits_bounds (show w.fits m = true from written)
      rw [maxU64, Nat.pow_eq]
      omega
    rw [Json.render, Number.text] at here ⊢
    obtain ⟨d, digit, rest, digits⟩ := textBytes_digitText_cons m
    obtain ⟨above, -, -, notMinus⟩ := digitByte_ne digit
    have start : src.ahead i = UInt8.ofNat (48 + d) :: (rest ++ more) := by
      rw [here, digits, List.cons_append]
    rw [decodeText, skipBlank_of_ahead start above, at?_of_ahead start]
    simp only [beq_false_of_ne notMinus, Bool.false_eq_true, if_false,
      (utf8EncodeChar_digitChar digit).2.1, if_true, readNumber_natural small here
        delimited.endsNumber]
    rw [checked]
  | negative m =>
    obtain ⟨negative, fits⟩ := written
    have large : -2 ^ 63 ≤ m := (Width.fits_bounds fits).1
    have sign : textBytes (render (.number (.negative m))) =
        45 :: textBytes (Decimal.digitText m.natAbs) := by
      rw [Json.render, Number.text, Json.textBytes_append]
      rfl
    rw [sign, List.cons_append] at here
    rw [sign, decodeText, skipBlank_of_ahead here (by decide), at?_of_ahead here]
    simp only [beq_self_eq_true, if_true,
      readNumber_negative negative large (ahead_succ here) delimited.endsNumber]
    rw [checked, List.length_cons, Nat.add_assoc, Nat.add_comm 1]
  | float x => exact written.elim

theorem reads_ipAddress {ip : Net.IpAddr} (valid : ip.Valid) :
    Reads src (fuel + 1) .ipAddress (.string ip.text) (.string ip.text) := by
  intro i more here _
  rw [Json.render] at here ⊢
  have opening : src.ahead i = 34 :: ((textBytes (quote ip.text)).tail ++ more) := by
    rw [here, textBytes_quote]
    rfl
  have checked : checkIp ip.text = .ok (.string ip.text) := by
    simp [checkIp, Net.IpAddr.parse?_text valid]
  rw [decodeText, skipBlank_of_ahead opening (by decide), at?_of_ahead opening]
  simp only
  rw [if_pos (beq_self_eq_true _), readString_quote here]
  simp only [checked]

theorem reads_null (inner : Shape) : Reads src (fuel + 1) (.optional inner) .null .null := by
  intro i more here _
  have word : textBytes (render .null) = 110 :: [117, 108, 108] := rfl
  rw [word, List.cons_append] at here
  rw [word, decodeText, skipBlank_of_ahead here (by decide), at?_of_ahead here]
  simp only
  rw [if_pos (beq_self_eq_true _), ident_of_ahead (ahead_succ here)]
  rfl

theorem reads_present {inner : Shape} {doc v : Json} (inside : Reads src fuel inner doc v)
    (notFloat : ∀ x, doc ≠ .number (.float x)) (nullRead : doc = .null → v = .null) :
    Reads src (fuel + 1) (.optional inner) doc v := by
  intro i more here delimited
  by_cases isNull : doc = .null
  · subst isNull
    rw [nullRead rfl]
    exact reads_null fuel inner here delimited
  · obtain ⟨b, rest, start, above, -, nullByte⟩ := head_textBytes_render notFloat
    rw [start, List.cons_append] at here
    have notNullByte : (b == 110) = false := beq_false_of_ne fun same => isNull (nullByte.mp same)
    rw [decodeText, skipBlank_of_ahead here above, at?_of_ahead here]
    simp only [notNullByte, Bool.false_eq_true, if_false]
    exact inside (by rw [here, start, List.cons_append]) delimited

end Scalars


/-! ## Reading arrays -/

theorem Delimited.cons {b : UInt8} {rest : List UInt8} (closing : b = 44 ∨ b = 93 ∨ b = 125) :
    Delimited (b :: rest) := by
  intro c first
  cases first
  exact closing

theorem length_le_length_flatMap_cons {α : Type} (a : UInt8) (f : α → List UInt8) :
    ∀ xs : List α, xs.length ≤ (xs.flatMap fun x => a :: f x).length
  | [] => le_refl 0
  | x :: xs => by
    have rest := length_le_length_flatMap_cons a f xs
    simp only [List.flatMap_cons, List.length_cons, List.length_append]
    omega

theorem delimited_flatMap_comma {α : Type} (f : α → List UInt8) (xs : List α) {close : UInt8}
    (closing : close = 93 ∨ close = 125) (more : List UInt8) :
    Delimited ((xs.flatMap fun x => 44 :: f x) ++ close :: more) := by
  cases xs with
  | nil => exact Delimited.cons (by simpa using Or.inr closing)
  | cons x xs => exact Delimited.cons (by simp)

section Arrays

open Json.Source

variable {src : Source} {fuel : Nat} {item : Shape}

theorem decodeTextItems_item {first : Bool} {loop j k : Nat} {acc : List Json} {doc v : Json}
    {more : List UInt8} (next : src.nextItem first j = .ok (some (), k))
    (here : src.ahead k = textBytes (render doc) ++ more) (delimited : Delimited more)
    (reads : Reads src fuel item doc v) :
    decodeTextItems src fuel item (loop + 1) first acc j =
      decodeTextItems src fuel item loop false (v :: acc)
        (k + (textBytes (render doc)).length) := by
  rw [decodeTextItems, next]
  simp only [reads here delimited]

theorem decodeTextItems_rest {docs values : List Json} {loop j : Nat} {acc : List Json}
    {more : List UInt8} (each : List.Forall₂ (Reads src fuel item) docs values)
    (notFloat : ∀ d ∈ docs, ∀ x, d ≠ .number (.float x))
    (here : src.ahead j = (docs.flatMap fun d => 44 :: textBytes (render d)) ++ 93 :: more)
    (room : docs.length < loop) :
    decodeTextItems src fuel item loop false acc j =
      .ok (acc.reverse ++ values,
        j + (docs.flatMap fun d => 44 :: textBytes (render d)).length) := by
  obtain ⟨loop, rfl⟩ : ∃ l, loop = l + 1 := ⟨loop - 1, by omega⟩
  induction each generalizing loop j acc with
  | nil =>
    rw [decodeTextItems, nextItem_close here]
    simp
  | @cons doc v docs values reads _ ih =>
    obtain ⟨b, text, start, above, notClose, -⟩ :=
      head_textBytes_render (notFloat doc List.mem_cons_self)
    rw [List.flatMap_cons, List.append_assoc, List.cons_append] at here
    have itemHere := ahead_succ here
    rw [start, List.cons_append] at here
    obtain ⟨loop, rfl⟩ : ∃ l, loop = l + 1 := ⟨loop - 1, by simp at room; omega⟩
    rw [decodeTextItems_item (nextItem_comma here above notClose) itemHere
        (delimited_flatMap_comma _ docs (.inl rfl) more) reads,
      ih (fun d member => notFloat d (List.mem_cons_of_mem _ member)) (ahead_append itemHere) loop
        (by simp at room; omega)]
    simp only [List.reverse_cons, List.append_assoc, List.singleton_append, List.flatMap_cons,
      List.length_append, List.length_cons, Except.ok.injEq, Prod.mk.injEq, true_and]
    omega

theorem reads_list {docs values : List Json}
    (each : List.Forall₂ (Reads src fuel item) docs values)
    (notFloat : ∀ d ∈ docs, ∀ x, d ≠ .number (.float x)) :
    Reads src (fuel + 1) (.list item) (.array docs) (.array values) := by
  intro i more here _
  rw [textBytes_render_array, List.cons_append] at here
  have inside := ahead_succ here
  rw [List.append_assoc, List.singleton_append] at inside
  have closing := ahead_append inside
  have items : decodeTextItems src fuel item (src.bytes.size + 1) true [] (i + 1) =
      .ok (values, i + 1 + (textBytes (renderItems docs)).length) := by
    cases each with
    | nil =>
      rw [decodeTextItems, nextItem_close inside]
      rfl
    | @cons doc v docs values reads rest =>
      obtain ⟨b, text, start, above, notClose, -⟩ :=
        head_textBytes_render (notFloat doc List.mem_cons_self)
      rw [textBytes_renderItems_cons, List.append_assoc] at inside
      rw [textBytes_renderItems_cons]
      have opening : src.ahead (i + 1) =
          b :: (text ++ ((docs.flatMap fun d => 44 :: textBytes (render d)) ++ 93 :: more)) := by
        rw [inside, start, List.cons_append]
      have room : docs.length < src.bytes.size := by
        have length := length_ahead_le src (i + 1)
        rw [inside] at length
        have := length_le_length_flatMap_cons 44 (fun d => textBytes (render d)) docs
        simp only [List.length_cons, List.length_append] at length
        omega
      rw [decodeTextItems_item (nextItem_first opening above notClose) inside
          (delimited_flatMap_comma _ docs (.inl rfl) more) reads,
        decodeTextItems_rest rest (fun d member => notFloat d (List.mem_cons_of_mem _ member))
          (ahead_append inside) room]
      simp only [List.reverse_cons, List.reverse_nil, List.nil_append, List.singleton_append,
        List.length_append, Except.ok.injEq, Prod.mk.injEq, true_and]
      omega
  rw [textBytes_render_array, decodeText, skipBlank_of_ahead here (by decide),
    at?_of_ahead here]
  simp only [beq_self_eq_true, if_true, items]
  rw [closeArray_of_ahead closing]
  simp only [List.length_cons, List.length_append, List.length_nil, Except.ok.injEq,
    Prod.mk.injEq, true_and]
  omega

end Arrays


/-! ## Reading objects -/

section Objects

open Json.Source

variable {src : Source} {fuel : Nat} {fields : List (String × Shape × Option Json)}

theorem decodeTextFields_field {first : Bool} {loop j c : Nat} {acc : List (String × Json)}
    {key : String} {shape : Shape} {dflt : Option Json} {doc v : Json} {more : List UInt8}
    (next : src.nextKey first j = .ok (some key, c))
    (found : findField fields key = some (shape, dflt)) (fresh : key ∉ acc.map Prod.fst)
    (here : src.ahead c = 58 :: (textBytes (render doc) ++ more)) (delimited : Delimited more)
    (reads : Reads src fuel shape doc v) :
    decodeTextFields src fuel fields (loop + 1) first acc j =
      decodeTextFields src fuel fields loop false ((key, v) :: acc)
        (c + 1 + (textBytes (render doc)).length) := by
  have notSeen : (acc.lookup key).isSome = false := by
    rw [Json.lookup_eq_none fresh]
    rfl
  rw [decodeTextFields, next]
  simp only [found, notSeen, Bool.false_eq_true, if_false, colon_of_ahead here,
    reads (ahead_succ here) delimited]

theorem decodeTextFields_rest {entries : List (String × Json × Json)} {loop j : Nat}
    {acc : List (String × Json)} {more : List UInt8}
    (each : ∀ e ∈ entries, ∃ shape dflt, findField fields e.1 = some (shape, dflt) ∧
      Reads src fuel shape e.2.1 e.2.2)
    (notFloat : ∀ e ∈ entries, ∀ x, e.2.1 ≠ .number (.float x))
    (fresh : (acc.map Prod.fst ++ entries.map Prod.fst).Nodup)
    (here : src.ahead j = (entries.flatMap fun e => 44 :: fieldBytes e.1 e.2.1) ++ 125 :: more)
    (room : entries.length < loop) :
    decodeTextFields src fuel fields loop false acc j =
      .ok (acc.reverse ++ entries.map (fun e => (e.1, e.2.2)),
        j + (entries.flatMap fun e => 44 :: fieldBytes e.1 e.2.1).length) := by
  obtain ⟨loop, rfl⟩ : ∃ l, loop = l + 1 := ⟨loop - 1, by omega⟩
  induction entries generalizing loop j acc with
  | nil =>
    rw [decodeTextFields, nextKey_close here]
    simp
  | cons entry entries ih =>
    obtain ⟨key, doc, v⟩ := entry
    obtain ⟨shape, dflt, found, reads⟩ := each (key, doc, v) List.mem_cons_self
    rw [List.flatMap_cons, List.append_assoc, List.cons_append, fieldBytes,
      List.append_assoc] at here
    have valueHere := ahead_append (ahead_succ here)
    have fresh' : (((key, v) :: acc).map Prod.fst ++ entries.map Prod.fst).Nodup := by
      rw [List.map_cons] at fresh
      rw [List.map_cons, List.cons_append]
      exact List.perm_middle.nodup_iff.mp fresh
    have apart : key ∉ acc.map Prod.fst :=
      fun seen => (List.nodup_cons.mp fresh').1 (List.mem_append_left _ seen)
    obtain ⟨loop, rfl⟩ : ∃ l, loop = l + 1 := ⟨loop - 1, by simp at room; omega⟩
    rw [decodeTextFields_field (nextKey_comma here) found apart valueHere
        (delimited_flatMap_comma _ entries (.inr rfl) more) reads,
      ih (fun e member => each e (List.mem_cons_of_mem _ member))
        (fun e member => notFloat e (List.mem_cons_of_mem _ member))
        fresh' (ahead_append (ahead_succ valueHere)) loop (by simp at room; omega)]
    simp only [List.reverse_cons, List.append_assoc, List.singleton_append, List.map_cons,
      List.flatMap_cons, List.length_append, List.length_cons, fieldBytes, Except.ok.injEq,
      Prod.mk.injEq, true_and]
    omega


/-- An object is read field by field, each by the shape of the record's field its key names, and
the fields read, each given once, complete to the record's object. -/
theorem reads_record {name : String} {entries : List (String × Json × Json)}
    (distinct : (fields.map Prod.fst).Nodup)
    (keys : (entries.map Prod.fst).Perm (fields.map Prod.fst))
    (each : ∀ e ∈ entries, ∃ shape dflt, findField fields e.1 = some (shape, dflt) ∧
      Reads src fuel shape e.2.1 e.2.2)
    (notFloat : ∀ e ∈ entries, ∀ x, e.2.1 ≠ .number (.float x)) :
    Reads src (fuel + 1) (.record name fields) (.object (entries.map fun e => (e.1, e.2.1)))
      (mkObject (entries.map fun e => (e.1, e.2.2))) := by
  intro i more here _
  rw [textBytes_render_object, List.cons_append] at here
  have inside := ahead_succ here
  rw [List.append_assoc, List.singleton_append] at inside
  have closing := ahead_append inside
  have fieldsRead : decodeTextFields src fuel fields (src.bytes.size + 1) true [] (i + 1) =
      .ok (entries.map (fun e => (e.1, e.2.2)),
        i + 1 + (textBytes (renderFields (entries.map fun e => (e.1, e.2.1)))).length) := by
    cases entries with
    | nil =>
      rw [decodeTextFields, nextKey_close inside]
      rfl
    | cons entry entries =>
      obtain ⟨key, doc, v⟩ := entry
      obtain ⟨shape, dflt, found, reads⟩ := each (key, doc, v) List.mem_cons_self
      simp only [List.map_cons, textBytes_renderFields_cons, List.flatMap_map] at inside ⊢
      rw [fieldBytes, List.append_assoc, List.append_assoc] at inside
      have valueHere := ahead_append inside
      have distinctKeys : ([(key, v)].map Prod.fst ++ entries.map Prod.fst).Nodup := by
        simpa using keys.nodup_iff.mpr distinct
      have room : entries.length < src.bytes.size := by
        have length := length_ahead_le src (i + 1)
        rw [inside] at length
        have := length_le_length_flatMap_cons 44 (fun e => fieldBytes e.1 e.2.1) entries
        simp only [List.length_cons, List.length_append] at length
        omega
      rw [decodeTextFields_field (nextKey_first inside) found List.not_mem_nil valueHere
          (delimited_flatMap_comma _ entries (.inr rfl) more) reads,
        decodeTextFields_rest (fun e member => each e (List.mem_cons_of_mem _ member))
          (fun e member => notFloat e (List.mem_cons_of_mem _ member)) distinctKeys
          (ahead_append (ahead_succ valueHere)) room]
      simp only [List.reverse_cons, List.reverse_nil, List.nil_append, List.singleton_append,
        fieldBytes, List.length_append, List.length_cons, Except.ok.injEq, Prod.mk.injEq,
        true_and]
      omega
  have completed : completeFields fields (entries.map fun e => (e.1, e.2.2)) =
      .ok (mkObject (entries.map fun e => (e.1, e.2.2))) :=
    completeFields_perm distinct (by simpa [Function.comp_def] using keys)
  rw [textBytes_render_object, decodeText, skipBlank_of_ahead here (by decide),
    at?_of_ahead here]
  simp only
  rw [if_neg (by decide), if_pos (beq_self_eq_true _)]
  simp only [fieldsRead, completed]
  rw [closeObject_of_ahead closing]
  simp only [List.length_cons, List.length_append, List.length_nil, Except.ok.injEq,
    Prod.mk.injEq, true_and]
  omega

end Objects



/-! ## Documents written in order -/

section Building

theorem Written.list_map {α : Type} {item : Shape} {xs : List α} {doc view : α → Json}
    (each : ∀ x ∈ xs, Written item (doc x) (view x)) :
    Written (.list item) (.array (xs.map doc)) (.array (xs.map view)) := by
  refine .list (by simp) fun p member => ?_
  rw [List.zip_map', List.mem_map] at member
  obtain ⟨x, listed, rfl⟩ := member
  exact each x listed

theorem map_zip_zip_left {α β γ : Type} :
    ∀ {xs : List α} {ys : List β} {zs : List γ}, ys.length = zs.length →
      (xs.zip (ys.zip zs)).map (fun p => (p.1, p.2.1)) = xs.zip ys
  | [], _, _, _ => rfl
  | _ :: _, [], [], _ => rfl
  | x :: xs, y :: ys, z :: zs, same => by
    simp only [List.zip_cons_cons, List.map_cons, List.length_cons,
      Nat.add_right_cancel_iff] at same ⊢
    rw [map_zip_zip_left same]
  | _ :: _, [], _ :: _, same => by simp at same
  | _ :: _, _ :: _, [], same => by simp at same

theorem map_zip_zip_right {α β γ : Type} :
    ∀ {xs : List α} {ys : List β} {zs : List γ}, ys.length = zs.length →
      (xs.zip (ys.zip zs)).map (fun p => (p.1, p.2.2)) = xs.zip zs
  | [], _, _, _ => rfl
  | _ :: _, [], [], _ => rfl
  | x :: xs, y :: ys, z :: zs, same => by
    simp only [List.zip_cons_cons, List.map_cons, List.length_cons,
      Nat.add_right_cancel_iff] at same ⊢
    rw [map_zip_zip_right same]
  | _ :: _, [], _ :: _, same => by simp at same
  | _ :: _, _ :: _, [], same => by simp at same

theorem Written.inOrder {name : String} {fields : List (String × Shape × Option Json)}
    {docs values : List Json} (distinct : (fields.map Prod.fst).Nodup)
    (docLength : docs.length = fields.length) (length : values.length = fields.length)
    (each : ∀ p ∈ fields.zip (docs.zip values), Written p.1.2.1 p.2.1 p.2.2) :
    Written (.record name fields) (.object ((fields.map Prod.fst).zip docs))
      (mkObject ((fields.map Prod.fst).zip values)) := by
  have names : ((fields.map Prod.fst).zip (docs.zip values)).map Prod.fst = fields.map Prod.fst :=
    List.map_fst_zip (by simp [docLength, length])
  have entriesWritten : ∀ e ∈ (fields.map Prod.fst).zip (docs.zip values), ∀ field ∈ fields,
      field.1 = e.1 → Written field.2.1 e.2.1 e.2.2 := by
    intro e member field fieldMember named
    rw [List.zip_map_left, List.mem_map] at member
    obtain ⟨p, zipped, rfl⟩ := member
    have same : field = p.1 :=
      List.inj_on_of_nodup_map distinct fieldMember (List.of_mem_zip zipped).1 named
    subst same
    exact each p zipped
  have built := @Written.record name fields _ (by rw [names]) entriesWritten
  rwa [map_zip_zip_left (by omega), map_zip_zip_right (by omega)] at built

end Building

/-! ## Reading documents -/

section Documents

open Json.Source

variable {src : Source}

/-- Decoding by a shape reads whatever is written for a normal form of it, given more fuel than
the shape nests deep. -/
theorem Written.reads {s : Shape} {doc v : Json} (written : Written s doc v) :
    ∀ {depth fuel : Nat}, s.WellFormed depth → depth < fuel → Reads src fuel s doc v := by
  induction written with
  | text s =>
    intro depth fuel _ deep
    obtain ⟨fuel, rfl⟩ : ∃ f, fuel = f + 1 := ⟨fuel - 1, by omega⟩
    exact reads_text fuel s
  | flag b =>
    intro depth fuel _ deep
    obtain ⟨fuel, rfl⟩ : ∃ f, fuel = f + 1 := ⟨fuel - 1, by omega⟩
    exact reads_flag fuel b
  | integer kept =>
    intro depth fuel _ deep
    obtain ⟨fuel, rfl⟩ : ∃ f, fuel = f + 1 := ⟨fuel - 1, by omega⟩
    exact reads_integer fuel kept
  | ipAddress valid =>
    intro depth fuel _ deep
    obtain ⟨fuel, rfl⟩ : ∃ f, fuel = f + 1 := ⟨fuel - 1, by omega⟩
    exact reads_ipAddress fuel valid
  | list length each ih =>
    intro depth fuel formed deep
    cases formed with
    | @list depth _ inner =>
      obtain ⟨fuel, rfl⟩ : ∃ f, fuel = f + 1 := ⟨fuel - 1, by omega⟩
      have deeper : depth < fuel := by omega
      have related := List.forall₂_iff_zip.mpr ⟨length, fun member => each _ member⟩
      refine reads_list (List.forall₂_iff_zip.mpr ⟨length, fun member => ih _ member inner
        deeper⟩) fun d member => ?_
      obtain ⟨_, writtenItem⟩ := exists_of_forall₂ related d member
      exact writtenItem.not_float
  | null =>
    intro depth fuel _ deep
    obtain ⟨fuel, rfl⟩ : ∃ f, fuel = f + 1 := ⟨fuel - 1, by omega⟩
    exact reads_null fuel _
  | present written ih =>
    intro depth fuel formed deep
    cases formed with
    | optional inner =>
      obtain ⟨fuel, rfl⟩ : ∃ f, fuel = f + 1 := ⟨fuel - 1, by omega⟩
      exact reads_present fuel (ih inner (by omega)) written.not_float
        fun isNull => (isNull ▸ written).eq_null
  | record keys each ih =>
    intro depth fuel formed deep
    cases formed with
    | record distinct eachFormed _ =>
      obtain ⟨fuel, rfl⟩ : ∃ f, fuel = f + 1 := ⟨fuel - 1, by omega⟩
      refine reads_record distinct keys (fun e member => ?_) (fun e member => ?_)
      · obtain ⟨field, fieldMember, named⟩ :=
          List.mem_map.mp (keys.mem_iff.mp (List.mem_map_of_mem (f := Prod.fst) member))
        refine ⟨field.2.1, field.2.2, named ▸ findField_of_mem distinct fieldMember, ?_⟩
        exact ih e member field fieldMember named (eachFormed field fieldMember) (by omega)
      · obtain ⟨field, fieldMember, named⟩ :=
          List.mem_map.mp (keys.mem_iff.mp (List.mem_map_of_mem (f := Prod.fst) member))
        exact (each e member field fieldMember named).not_float

/-- The compact text of a document written for a normal form of a shape decodes, by the shape,
to the normal form. -/
theorem Shape.decodeDocument_render {s : Shape} {doc v : Json} {depth : Nat}
    (written : Written s doc v) (formed : s.WellFormed depth) (shallow : depth < nestingBound) :
    s.decodeDocument (render doc) = .ok v := by
  have whole : Source.ahead ⟨(render doc).toUTF8⟩ 0 = textBytes (render doc) ++ [] := by
    rw [Source.ahead, Json.toUTF8_data_toList, List.drop_zero, List.append_nil]
  rw [Shape.decodeDocument]
  simp only [written.reads formed shallow whole (fun _ first => by cases first),
    finish_of_ahead_nil (ahead_append whole)]

end Documents

end BalancerSync.Schema
