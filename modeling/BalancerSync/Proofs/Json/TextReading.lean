import Mathlib
import BalancerSync.Json.Text
import BalancerSync.Proofs.Net.AddressText

/-!
# Reading written text back

The document reader, run over text as the writer produces it, reads back what was written: a
quoted string gives the string (`readString_quote`), the digits of a whole number give the
number (`readNumber_natural`, `readNumber_negative`), and each bracket, comma and colon is
passed where it stands. Indices count bytes; what the text holds from an index on is
`Source.ahead`, and each lemma asks for the bytes written to stand there.
-/

namespace BalancerSync.Json

/-! ## Bytes of a text -/

/-- The UTF-8 bytes of a text. -/
def textBytes (t : String) : List UInt8 := t.toList.flatMap String.utf8EncodeChar

@[simp] theorem textBytes_append (a b : String) :
    textBytes (a ++ b) = textBytes a ++ textBytes b := by
  simp [textBytes]

theorem toUTF8_data_toList (t : String) : t.toUTF8.data.toList = textBytes t := by
  rw [String.toUTF8_eq_toByteArray, ← String.utf8Encode_toList, List.utf8Encode,
    List.data_toByteArray, List.toList_toArray, textBytes]

theorem byteArray_toList (bs : ByteArray) : bs.toList = bs.data.toList := by
  suffices general : ∀ i r, ByteArray.toList.loop bs i r = r.reverse ++ bs.data.toList.drop i by
    rw [ByteArray.toList]
    simpa using general 0 []
  intro i r
  fun_induction ByteArray.toList.loop bs i r with
  | case1 i r inside ih =>
    have within : i < bs.data.toList.length := by simpa using inside
    rw [ih, List.drop_eq_getElem_cons within]
    simp [ByteArray.get!, getElem!_pos bs.data i (by simpa using inside)]
  | case2 i r outside =>
    rw [List.drop_eq_nil_of_le (by simpa using outside), List.append_nil]

theorem fromUTF8?_textBytes (t : String) :
    String.fromUTF8? (ByteArray.mk (textBytes t).toArray) = some t := by
  have same : ByteArray.mk (textBytes t).toArray = t.toUTF8 := by
    rw [← toUTF8_data_toList, Array.toArray_toList]
  rw [same]
  simp only [String.fromUTF8?, String.toUTF8_eq_toByteArray, dif_pos t.isValidUTF8]
  rfl

namespace Source

/-! ## What the text holds from an index on -/

/-- The bytes of the text from an index on. -/
def ahead (src : Source) (i : Nat) : List UInt8 := src.bytes.data.toList.drop i

variable {src : Source} {i : Nat} {b : UInt8} {bs more : List UInt8}

theorem at?_eq_head? (src : Source) (i : Nat) : src.at? i = (src.ahead i).head? := by
  unfold at? ahead
  rw [List.head?_drop]
  split
  · next h => simp [h]; rfl
  · next h => simp; simpa using h

theorem atOrNull_eq (src : Source) (i : Nat) : src.atOrNull i = ((src.ahead i).head?).getD 0 := by
  rw [atOrNull, at?_eq_head?]

theorem at?_of_ahead (here : src.ahead i = b :: more) : src.at? i = some b := by
  rw [at?_eq_head?, here]
  rfl

theorem atOrNull_of_ahead (here : src.ahead i = b :: more) : src.atOrNull i = b := by
  rw [atOrNull_eq, here]
  rfl

theorem at?_of_ahead_nil (here : src.ahead i = []) : src.at? i = none := by
  rw [at?_eq_head?, here]
  rfl

theorem ahead_append (here : src.ahead i = bs ++ more) : src.ahead (i + bs.length) = more := by
  unfold ahead at here ⊢
  rw [← List.drop_drop, here, List.drop_left]

theorem ahead_succ (here : src.ahead i = b :: more) : src.ahead (i + 1) = more :=
  @ahead_append src i [b] more here

theorem length_ahead_le (src : Source) (i : Nat) : (src.ahead i).length ≤ src.bytes.size := by
  simp [ahead]

/-! ## Blank between tokens -/

theorem skipBlank_eq_self (bare : ∀ b ∈ (src.ahead i).head?, 32 < b) : src.skipBlank i = i := by
  unfold skipBlank
  rw [skipBlank.go, at?_eq_head?]
  cases next : (src.ahead i).head? with
  | none => rfl
  | some b =>
    have above := bare b next
    rw [UInt8.lt_iff_toNat_lt] at above
    simp at above
    have notBlank : (b == 32 || b == 10 || b == 9 || b == 13) = false := by
      simp [← UInt8.toNat_inj]
      omega
    simp only [notBlank, Bool.false_eq_true, if_false]

theorem skipBlank_of_ahead (here : src.ahead i = b :: more) (above : 32 < b) :
    src.skipBlank i = i :=
  skipBlank_eq_self (by rw [here]; simpa using above)

theorem ident_of_ahead : ∀ {word : List UInt8} {i : Nat},
    src.ahead i = word ++ more → src.ident word i = .ok (i + word.length)
  | [], i, _ => by rw [ident]; rfl
  | b :: rest, i, here => by
    rw [ident, at?_of_ahead here]
    simp only [beq_self_eq_true, if_true]
    rw [ident_of_ahead (ahead_succ here)]
    simp only [List.length_cons]
    congr 1
    omega

theorem length_ahead (src : Source) (i : Nat) : (src.ahead i).length = src.bytes.size - i := by
  simp [ahead]

/-! ## Strings -/

/-- The character `hex4` writes for a hexadecimal digit. -/
def hexDigitChar (d : Nat) : Char := if d < 10 then Char.ofNat (48 + d) else Char.ofNat (87 + d)

theorem hex4_eq (n : Nat) :
    hex4 n = String.ofList [hexDigitChar (n / 4096 % 16), hexDigitChar (n / 256 % 16),
      hexDigitChar (n / 16 % 16), hexDigitChar (n % 16)] := rfl

theorem hexDigitChar_byte {d : Nat} (digit : d < 16) :
    ∃ b, String.utf8EncodeChar (hexDigitChar d) = [b] ∧ hexValue b = some d := by
  have all : ∀ d : Fin 16,
      (String.utf8EncodeChar (hexDigitChar d)).map hexValue = [some d.val] := by decide
  exact List.map_eq_singleton_iff.mp (all ⟨d, digit⟩)

theorem hexEscape_of_ahead {j : Nat} {b0 b1 b2 b3 : UInt8} {d0 d1 d2 d3 : Nat}
    (here : src.ahead j = b0 :: b1 :: b2 :: b3 :: more) (v0 : hexValue b0 = some d0)
    (v1 : hexValue b1 = some d1) (v2 : hexValue b2 = some d2) (v3 : hexValue b3 = some d3) :
    src.hexEscape j = .ok (((d0 * 16 + d1) * 16 + d2) * 16 + d3, j + 4) := by
  have room : j + 4 ≤ src.bytes.size := by
    have length := congrArg List.length here
    rw [length_ahead] at length
    simp only [List.length_cons] at length
    omega
  have next1 := ahead_succ here
  have next2 := ahead_succ next1
  have next3 := ahead_succ next2
  rw [hexEscape, if_pos room]
  simp only [List.map_cons, List.map_nil, Nat.add_zero, atOrNull_of_ahead here,
    atOrNull_of_ahead next1, atOrNull_of_ahead next2, atOrNull_of_ahead next3, v0, v1, v2, v3]

theorem hexEscape_hex4 {j n : Nat} (small : n < 65536)
    (here : src.ahead j = textBytes (hex4 n) ++ more) : src.hexEscape j = .ok (n, j + 4) := by
  obtain ⟨b0, e0, v0⟩ := hexDigitChar_byte (d := n / 4096 % 16) (by omega)
  obtain ⟨b1, e1, v1⟩ := hexDigitChar_byte (d := n / 256 % 16) (by omega)
  obtain ⟨b2, e2, v2⟩ := hexDigitChar_byte (d := n / 16 % 16) (by omega)
  obtain ⟨b3, e3, v3⟩ := hexDigitChar_byte (d := n % 16) (by omega)
  rw [textBytes, hex4_eq, String.toList_ofList] at here
  simp only [List.flatMap_cons, List.flatMap_nil, e0, e1, e2, e3, List.cons_append,
    List.nil_append, List.append_nil] at here
  rw [hexEscape_of_ahead here v0 v1 v2 v3]
  congr 2
  omega

theorem length_textBytes_hex4 (n : Nat) : (textBytes (hex4 n)).length = 4 := by
  obtain ⟨b0, e0, -⟩ := hexDigitChar_byte (d := n / 4096 % 16) (Nat.mod_lt _ (by omega))
  obtain ⟨b1, e1, -⟩ := hexDigitChar_byte (d := n / 256 % 16) (Nat.mod_lt _ (by omega))
  obtain ⟨b2, e2, -⟩ := hexDigitChar_byte (d := n / 16 % 16) (Nat.mod_lt _ (by omega))
  obtain ⟨b3, e3, -⟩ := hexDigitChar_byte (d := n % 16) (Nat.mod_lt _ (by omega))
  simp [textBytes, hex4_eq, e0, e1, e2, e3]

theorem utf8_toNat (c : Char) : utf8 c.toNat = String.utf8EncodeChar c := by
  rw [utf8, byteArray_toList, toUTF8_data_toList, Char.ofNat_toNat, textBytes,
    String.toList_singleton, List.flatMap_singleton]

theorem unicodeEscape_control {j : Nat} {c : Char} (control : c.toNat < 0x20)
    (here : src.ahead j = textBytes (hex4 c.toNat) ++ more) :
    src.unicodeEscape j = .ok (String.utf8EncodeChar c, j + 4) := by
  have read := hexEscape_hex4 (by omega) here
  have notSurrogate : (0xDC00 ≤ c.toNat && c.toNat ≤ 0xDFFF) = false := by
    simp only [Bool.and_eq_false_iff, decide_eq_false_iff_not]
    omega
  have low : (c.toNat < 0xD800 || c.toNat > 0xDBFF) = true := by
    simp only [Bool.or_eq_true, decide_eq_true_eq]
    omega
  simp only [unicodeEscape, read, bind, Except.bind, notSurrogate, low, utf8_toNat]
  rfl

theorem readString_go_plain : ∀ {bs : List UInt8} {fuel j : Nat} {acc : List UInt8},
    (∀ b ∈ bs, b ≠ 34 ∧ b ≠ 92 ∧ 32 ≤ b) → src.ahead j = bs ++ more → bs.length ≤ fuel →
      readString.go src fuel acc j =
        readString.go src (fuel - bs.length) (bs.reverse ++ acc) (j + bs.length)
  | [], fuel, j, acc, _, _, _ => by simp
  | b :: bs, fuel + 1, j, acc, plain, here, room => by
    obtain ⟨notQuote, notBackslash, printable⟩ := plain b List.mem_cons_self
    rw [readString.go, at?_of_ahead here]
    split
    · next same => cases same
    · next same => exact absurd (Option.some.inj same) notQuote
    · next same => exact absurd (Option.some.inj same) notBackslash
    · next same =>
      cases Option.some.inj same
      rw [if_neg (UInt8.not_lt.mpr printable),
        readString_go_plain (fun x member => plain x (List.mem_cons_of_mem _ member))
          (ahead_succ here) (by simp at room; omega)]
      simp only [List.length_cons, List.reverse_cons, List.append_assoc, List.singleton_append]
      congr 1 <;> omega
theorem plain_of_high {b : UInt8} (high : 0x80 ≤ b) : b ≠ 34 ∧ b ≠ 92 ∧ 32 ≤ b := by
  simp only [ne_eq, ← UInt8.toNat_inj, UInt8.le_iff_toNat_le] at high ⊢
  simp at high ⊢
  omega

theorem plain_of_or {x k : UInt8} (high : 0x80 ≤ k) :
    (x ||| k) ≠ 34 ∧ (x ||| k) ≠ 92 ∧ 32 ≤ (x ||| k) :=
  plain_of_high (UInt8.le_trans high UInt8.right_le_or)

theorem utf8EncodeChar_plain {c : Char} (printable : 0x20 ≤ c.toNat) (notQuote : c ≠ '"')
    (notBackslash : c ≠ '\\') : ∀ b ∈ String.utf8EncodeChar c, b ≠ 34 ∧ b ≠ 92 ∧ 32 ≤ b := by
  have least := Char.utf8Size_pos c
  have most := Char.utf8Size_le_four c
  rcases (show c.utf8Size = 1 ∨ c.utf8Size = 2 ∨ c.utf8Size = 3 ∨ c.utf8Size = 4 by omega) with
    one | two | three | four
  · rw [String.utf8EncodeChar_eq_singleton one, List.forall_mem_singleton]
    have ascii := Char.utf8Size_eq_one_iff.mp one
    rw [UInt32.le_iff_toNat_le] at ascii
    have same : c.val.toUInt8.toNat = c.toNat := by
      rw [UInt32.toNat_toUInt8, Char.toNat_val]
      simp at ascii
      omega
    have codeQuote : c.toNat ≠ 34 := fun code => notQuote (Char.toNat_inj.mp code)
    have codeBackslash : c.toNat ≠ 92 := fun code => notBackslash (Char.toNat_inj.mp code)
    simp only [ne_eq, ← UInt8.toNat_inj, UInt8.le_iff_toNat_le, same]
    simp
    omega
  · rw [String.utf8EncodeChar_eq_cons_cons two]
    simp only [List.mem_cons, List.not_mem_nil, or_false]
    rintro b (rfl | rfl) <;> exact plain_of_or (by decide)
  · rw [String.utf8EncodeChar_eq_cons_cons_cons three]
    simp only [List.mem_cons, List.not_mem_nil, or_false]
    rintro b (rfl | rfl | rfl) <;> exact plain_of_or (by decide)
  · rw [String.utf8EncodeChar_eq_cons_cons_cons_cons four]
    simp only [List.mem_cons, List.not_mem_nil, or_false]
    rintro b (rfl | rfl | rfl | rfl) <;> exact plain_of_or (by decide)

/-- Reading what is written for one character of a string gives the character's bytes: an
escape takes one step of the reader, a character written as it stands one step a byte. -/
theorem readString_go_escapeChar (c : Char) :
    ∀ {fuel j : Nat} {acc : List UInt8}, src.ahead j = textBytes (escapeChar c) ++ more →
      (textBytes (escapeChar c)).length ≤ fuel →
      ∃ fuel', fuel - (textBytes (escapeChar c)).length ≤ fuel' ∧
        readString.go src fuel acc j =
          readString.go src fuel' ((String.utf8EncodeChar c).reverse ++ acc)
            (j + (textBytes (escapeChar c)).length) := by
  unfold escapeChar
  split
  case h_8 _ quote backslash _ _ _ _ _ =>
    split
    · next control =>
      intro fuel j acc here room
      have written : textBytes "\\u" = [92, 117] := rfl
      rw [textBytes_append, written, List.append_assoc, List.cons_append, List.cons_append,
        List.nil_append] at here
      rw [textBytes_append, written, List.length_append, length_textBytes_hex4] at room ⊢
      obtain ⟨fuel, rfl⟩ : ∃ n, fuel = n + 1 := ⟨fuel - 1, by simp at room; omega⟩
      have digits : src.ahead (j + 2) = textBytes (hex4 c.toNat) ++ more :=
        ahead_succ (ahead_succ here)
      refine ⟨fuel, by simp, ?_⟩
      rw [readString.go, at?_of_ahead here, at?_of_ahead (ahead_succ here),
        unicodeEscape_control control digits]
      rfl
    · next printable =>
      intro fuel j acc here room
      have bytes : textBytes (String.singleton c) = String.utf8EncodeChar c := by
        simp [textBytes]
      rw [bytes] at here room ⊢
      exact ⟨_, le_refl _, readString_go_plain
        (utf8EncodeChar_plain (by omega) quote backslash) here room⟩
  all_goals
    intro fuel j acc here room
    change src.ahead j = 92 :: _ :: more at here
    change 2 ≤ fuel at room
    obtain ⟨fuel, rfl⟩ : ∃ n, fuel = n + 1 := ⟨fuel - 1, by omega⟩
    refine ⟨fuel, by change fuel + 1 - 2 ≤ fuel; omega, ?_⟩
    rw [readString.go, at?_of_ahead here, at?_of_ahead (ahead_succ here)]
    rfl

/-- The characters of a string, written with their escapes up to the closing quote, read back
as the string's bytes appended to those already read. -/
theorem readString_go_escaped : ∀ (cs : List Char) {fuel j : Nat} {acc : List UInt8},
    src.ahead j = cs.flatMap (fun c => textBytes (escapeChar c)) ++ 34 :: more →
    (cs.flatMap fun c => textBytes (escapeChar c)).length < fuel →
    readString.go src fuel acc j =
      .ok ((String.fromUTF8?
          (ByteArray.mk (acc.reverse ++ cs.flatMap String.utf8EncodeChar).toArray)).getD "",
        j + (cs.flatMap fun c => textBytes (escapeChar c)).length + 1)
  | [], fuel, j, acc, here, room => by
    obtain ⟨fuel, rfl⟩ : ∃ n, fuel = n + 1 := ⟨fuel - 1, by simp at room; omega⟩
    simp only [List.flatMap_nil, List.nil_append] at here
    rw [readString.go, at?_of_ahead here]
    simp
  | c :: cs, fuel, j, acc, here, room => by
    rw [List.flatMap_cons, List.append_assoc] at here
    rw [List.flatMap_cons, List.length_append] at room
    have roomChar : (textBytes (escapeChar c)).length ≤ fuel := by omega
    obtain ⟨fuel', left, step⟩ := readString_go_escapeChar c here roomChar
    have room' : (cs.flatMap fun c => textBytes (escapeChar c)).length < fuel' := by omega
    rw [step, readString_go_escaped cs (ahead_append here) room']
    simp only [List.reverse_append, List.reverse_reverse, List.append_assoc, List.flatMap_cons,
      List.length_append]
    congr 2
    omega

theorem textBytes_quote (s : String) :
    textBytes (quote s) = 34 :: (s.toList.flatMap fun c => textBytes (escapeChar c)) ++ [34] := by
  have quoteByte : textBytes "\"" = [34] := rfl
  have body : textBytes (String.join (s.toList.map escapeChar)) =
      s.toList.flatMap fun c => textBytes (escapeChar c) := by
    simp [textBytes, String.toList_join, List.flatMap_assoc, List.flatMap_map]
  rw [quote, textBytes_append, textBytes_append, quoteByte, body]
  rfl

/-- A string as the writer quotes it reads back as the string, the reader standing past the
closing quote. -/
theorem readString_quote {s : String} (here : src.ahead i = textBytes (quote s) ++ more) :
    src.readString (i + 1) = .ok (s, i + (textBytes (quote s)).length) := by
  simp only [textBytes_quote, List.cons_append, List.append_assoc, List.nil_append] at here
  have body := ahead_succ here
  have room := length_ahead_le src (i + 1)
  rw [body, List.length_append, List.length_cons] at room
  rw [readString, readString_go_escaped s.toList body (by omega), List.reverse_nil,
    List.nil_append, ← textBytes, fromUTF8?_textBytes, textBytes_quote]
  simp only [Option.getD_some, List.length_cons, List.length_append, List.length_nil]
  congr 2
  omega


/-! ## Whole numbers -/

/-- What may follow a number as the writer leaves it: nothing, or a byte that is no digit, point
or exponent mark, so that the number ends there. -/
def EndsNumber (more : List UInt8) : Prop :=
  ∀ b ∈ more.head?, isDigit b = false ∧ b ≠ 46 ∧ b ≠ 101 ∧ b ≠ 69

theorem utf8EncodeChar_digitChar {d : Nat} (digit : d < 10) :
    String.utf8EncodeChar (Nat.digitChar d) = [UInt8.ofNat (48 + d)] ∧
      isDigit (UInt8.ofNat (48 + d)) = true ∧ (UInt8.ofNat (48 + d) - 48).toNat = d := by
  have all : ∀ d : Fin 10, String.utf8EncodeChar (Nat.digitChar d) = [UInt8.ofNat (48 + d)] ∧
      isDigit (UInt8.ofNat (48 + d)) = true ∧ (UInt8.ofNat (48 + d) - 48).toNat = d := by
    decide
  exact all ⟨d, digit⟩

theorem isDigit_atOrNull_of_ends (here : src.ahead i = more) (stop : EndsNumber more) :
    isDigit (src.atOrNull i) = false := by
  rw [atOrNull_eq, here]
  cases more with
  | nil => rfl
  | cons b rest => exact (stop b rfl).1

theorem readNumberTail_of_ends {positive : Bool} {sig : Nat} (here : src.ahead i = more)
    (stop : EndsNumber more) :
    readNumberTail src positive sig i =
      if positive then .ok (.natural sig, i)
      else if sig == 0 || sig > 2 ^ 63 then .ok (.float (-(Float.ofNat sig)), i)
      else .ok (.negative (-(Int.ofNat sig)), i) := by
  have notMark : ∀ b ∈ (src.ahead i).head?, b ≠ 46 ∧ b ≠ 101 ∧ b ≠ 69 := by
    rw [here]
    intro b first
    exact (stop b first).2
  rw [readNumberTail, atOrNull_eq]
  cases next : (src.ahead i).head? with
  | none => rfl
  | some b =>
    obtain ⟨notPoint, notLower, notUpper⟩ := notMark b next
    simp only [Option.getD_some, Nat.pow_eq]

theorem foldl_digits_ge : ∀ (cs : List Char) (sig : Nat),
    sig ≤ cs.foldl (fun acc c => acc * 10 + (Net.digitValue 10 c).getD 0) sig
  | [], sig => le_refl sig
  | c :: cs, sig => by
    rw [List.foldl_cons]
    exact le_trans (by omega) (foldl_digits_ge cs _)

theorem readNumber_go_digits {positive : Bool} :
    ∀ {cs : List Char} {fuel sig j : Nat}, (∀ c ∈ cs, ∃ d < 10, c = Nat.digitChar d) →
      src.ahead j = cs.flatMap String.utf8EncodeChar ++ more → EndsNumber more →
      cs.length ≤ fuel →
      cs.foldl (fun acc c => acc * 10 + (Net.digitValue 10 c).getD 0) sig ≤ maxU64 →
      readNumber.go src positive fuel sig j =
        readNumberTail src positive
          (cs.foldl (fun acc c => acc * 10 + (Net.digitValue 10 c).getD 0) sig) (j + cs.length)
  | [], 0, sig, j, _, _, _, _, _ => by rw [readNumber.go]; rfl
  | [], fuel + 1, sig, j, _, here, stop, _, _ => by
    simp only [List.flatMap_nil, List.nil_append] at here
    rw [readNumber.go, if_neg (by rw [isDigit_atOrNull_of_ends here stop]; decide)]
    rfl
  | c :: cs, fuel + 1, sig, j, digits, here, stop, room, bound => by
    obtain ⟨d, small, rfl⟩ := digits c List.mem_cons_self
    obtain ⟨encoded, isDigitByte, value⟩ := utf8EncodeChar_digitChar small
    rw [List.flatMap_cons, encoded, List.singleton_append, List.cons_append] at here
    have read : Net.digitValue 10 (Nat.digitChar d) = some d := Net.readable_ten.digit d small
    rw [List.foldl_cons, read, Option.getD_some] at bound ⊢
    have below : sig * 10 + d ≤ maxU64 := le_trans (foldl_digits_ge cs _) bound
    have noOverflow : ¬ (decide (sig ≥ maxU64 / 10) &&
        (decide (sig > maxU64 / 10) || decide (d > maxU64 % 10))) = true := by
      have largest : maxU64 = 18446744073709551615 := by norm_num [maxU64]
      rw [largest] at below ⊢
      simp only [Bool.and_eq_true, Bool.or_eq_true, decide_eq_true_eq]
      omega
    rw [readNumber.go, atOrNull_of_ahead here, if_pos isDigitByte]
    simp only [value]
    rw [if_neg noOverflow,
      readNumber_go_digits (fun x member => digits x (List.mem_cons_of_mem _ member))
        (ahead_succ here) stop (by simp at room; omega) bound]
    simp only [List.length_cons]
    congr 1
    omega


theorem length_flatMap_digits : ∀ {cs : List Char}, (∀ c ∈ cs, ∃ d < 10, c = Nat.digitChar d) →
    (cs.flatMap String.utf8EncodeChar).length = cs.length
  | [], _ => rfl
  | c :: cs, digits => by
    obtain ⟨d, small, rfl⟩ := digits c List.mem_cons_self
    rw [List.flatMap_cons, List.length_append, (utf8EncodeChar_digitChar small).1,
      length_flatMap_digits (fun x member => digits x (List.mem_cons_of_mem _ member))]
    simp [Nat.add_comm]

theorem textBytes_digitText (n : Nat) :
    textBytes (Decimal.digitText n) = (Nat.toDigits 10 n).flatMap String.utf8EncodeChar := by
  simp [textBytes, Decimal.digitText]

theorem readNumber_digits {positive : Bool} {n : Nat} (small : n ≤ maxU64)
    (here : src.ahead i = textBytes (Decimal.digitText n) ++ more) (stop : EndsNumber more) :
    src.readNumber positive i =
      readNumberTail src positive n (i + (textBytes (Decimal.digitText n)).length) := by
  have value := Net.foldl_toDigits Net.readable_ten n
  have digits := Net.mem_toDigits Net.readable_ten n
  rw [textBytes_digitText] at here ⊢
  obtain ⟨c, cs, written⟩ :=
    List.exists_cons_of_ne_nil (Nat.toDigits_ne_nil : Nat.toDigits 10 n ≠ [])
  rw [written] at here digits value ⊢
  have rest : ∀ x ∈ cs, ∃ d < 10, x = Nat.digitChar d :=
    fun x member => digits x (List.mem_cons_of_mem _ member)
  obtain ⟨d, digit, rfl⟩ := digits c List.mem_cons_self
  obtain ⟨encoded, isDigitByte, byteValue⟩ := utf8EncodeChar_digitChar digit
  rw [List.foldl_cons, Net.readable_ten.digit d digit, Option.getD_some, Nat.zero_mul,
    Nat.zero_add] at value
  rw [List.flatMap_cons, encoded, List.singleton_append, List.cons_append] at here
  rw [List.flatMap_cons, encoded, List.singleton_append, List.length_cons,
    length_flatMap_digits rest]
  by_cases zero : d = 0
  · subst zero
    have nothingAfter : cs = [] := by
      have isZero : n = 0 := Net.eq_zero_of_head_toDigits Net.readable_ten (by rw [written]; rfl)
      have same : Nat.toDigits 10 n = Nat.toDigits 10 0 := by rw [isZero]
      rw [written, Nat.toDigits_zero] at same
      exact (List.cons_eq_cons.mp same).2
    subst nothingAfter
    rw [← value]
    have zeroByte : UInt8.ofNat (48 + 0) = 48 := rfl
    rw [zeroByte, List.flatMap_nil, List.nil_append] at here
    rw [readNumber, at?_of_ahead here,
      if_neg (by rw [isDigit_atOrNull_of_ends (ahead_succ here) stop]; decide)]
    rfl
  · have notZero : UInt8.ofNat (48 + d) ≠ 48 := by
      intro same
      have := congrArg (fun b : UInt8 => (b - 48).toNat) same
      simp only [byteValue] at this
      exact zero this
    have room : cs.length ≤ src.bytes.size + 1 := by
      have length := congrArg List.length here
      rw [List.length_cons, List.length_append, length_flatMap_digits rest, length_ahead] at length
      omega
    rw [readNumber, at?_of_ahead here]
    split
    · next none => cases none
    · next zeroRead => exact absurd (Option.some.inj zeroRead) notZero
    · next b read =>
      cases Option.some.inj read
      rw [if_pos isDigitByte, byteValue, readNumber_go_digits rest (ahead_succ here) stop room
        (by rw [value]; exact small), value]
      congr 1
      omega

theorem readNumber_natural {n : Nat} (small : n ≤ maxU64)
    (here : src.ahead i = textBytes (Decimal.digitText n) ++ more) (stop : EndsNumber more) :
    src.readNumber true i = .ok (.natural n, i + (textBytes (Decimal.digitText n)).length) := by
  rw [readNumber_digits small here stop, readNumberTail_of_ends (ahead_append here) stop]
  rfl

theorem readNumber_negative {n : Int} (negative : n < 0) (large : -2 ^ 63 ≤ n)
    (here : src.ahead i = textBytes (Decimal.digitText n.natAbs) ++ more)
    (stop : EndsNumber more) :
    src.readNumber false i =
      .ok (.negative n, i + (textBytes (Decimal.digitText n.natAbs)).length) := by
  have small : n.natAbs ≤ maxU64 := by
    have largest : maxU64 = 18446744073709551615 := by norm_num [maxU64]
    rw [largest]
    omega
  have inRange : ¬ (n.natAbs == 0 || decide (n.natAbs > 2 ^ 63)) = true := by
    simp only [Bool.or_eq_true, beq_iff_eq, decide_eq_true_eq, not_or]
    omega
  have magnitude : (n.natAbs : Int) = -n := Int.ofNat_natAbs_of_nonpos negative.le
  rw [readNumber_digits small here stop, readNumberTail_of_ends (ahead_append here) stop,
    if_neg Bool.false_ne_true, if_neg inRange, Int.ofNat_eq_natCast, magnitude, neg_neg]


/-! ## Brackets, commas and colons -/

theorem nextItem_first (here : src.ahead i = b :: more) (above : 32 < b) (notClose : b ≠ 93) :
    src.nextItem true i = .ok (some (), i) := by
  rw [nextItem, skipBlank_of_ahead here above, at?_of_ahead here]
  split
  · next none => cases none
  · next close => exact absurd (Option.some.inj close) notClose
  · rfl
  · rfl

theorem nextItem_comma (here : src.ahead i = 44 :: b :: more) (above : 32 < b)
    (notClose : b ≠ 93) : src.nextItem false i = .ok (some (), i + 1) := by
  have next := ahead_succ here
  rw [nextItem, skipBlank_of_ahead here (by decide), at?_of_ahead here]
  simp only [Bool.false_eq_true, if_false]
  rw [skipBlank_of_ahead next above, at?_of_ahead next]
  simp only

theorem nextItem_close {first : Bool} (here : src.ahead i = 93 :: more) :
    src.nextItem first i = .ok (none, i) := by
  rw [nextItem, skipBlank_of_ahead here (by decide), at?_of_ahead here]
  simp only

theorem nextKey_first {key : String} (here : src.ahead i = textBytes (quote key) ++ more) :
    src.nextKey true i = .ok (some key, i + (textBytes (quote key)).length) := by
  have opening : src.ahead i = 34 :: ((textBytes (quote key)).tail ++ more) := by
    rw [here, textBytes_quote]
    rfl
  rw [nextKey, skipBlank_of_ahead opening (by decide), at?_of_ahead opening]
  simp
  rw [at?_of_ahead opening]
  simp only
  rw [readString_quote here]
  rfl

theorem nextKey_comma {key : String} (here : src.ahead i = 44 :: (textBytes (quote key) ++ more)) :
    src.nextKey false i = .ok (some key, i + 1 + (textBytes (quote key)).length) := by
  have keyHere := ahead_succ here
  have opening : src.ahead (i + 1) = 34 :: ((textBytes (quote key)).tail ++ more) := by
    rw [keyHere, textBytes_quote]
    rfl
  rw [nextKey, skipBlank_of_ahead here (by decide), at?_of_ahead here,
    skipBlank_of_ahead opening (by decide)]
  simp
  rw [at?_of_ahead opening]
  simp only
  rw [readString_quote keyHere]
  rfl

theorem nextKey_close {first : Bool} (here : src.ahead i = 125 :: more) :
    src.nextKey first i = .ok (none, i) := by
  rw [nextKey, skipBlank_of_ahead here (by decide), at?_of_ahead here]
  simp

theorem colon_of_ahead (here : src.ahead i = 58 :: more) : src.colon i = .ok (i + 1) := by
  rw [colon, skipBlank_of_ahead here (by decide), at?_of_ahead here]
  simp only

theorem closeArray_of_ahead (here : src.ahead i = 93 :: more) :
    src.closeArray i = .ok (i + 1) := by
  rw [closeArray, skipBlank_of_ahead here (by decide), at?_of_ahead here]
  simp only

theorem closeObject_of_ahead (here : src.ahead i = 125 :: more) :
    src.closeObject i = .ok (i + 1) := by
  rw [closeObject, skipBlank_of_ahead here (by decide), at?_of_ahead here]
  simp only

theorem finish_of_ahead_nil (here : src.ahead i = []) : src.finish i = .ok () := by
  rw [finish, skipBlank_eq_self (by rw [here]; simp), at?_of_ahead_nil here]

end Source

end BalancerSync.Json
