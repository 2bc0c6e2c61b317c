import BalancerSync.Text.PrintData

/-!
# Quoted display of texts

The quoted form in which error messages and debug views show a text: between double quotes,
with a backslash before `"` and `\`, the escapes `\0`, `\t`, `\r`, `\n`, and `\u{...}` (lowercase
hexadecimal, no padding) for every other character that is not printable or that extends the
grapheme before it.
-/

namespace BalancerSync.Text

/-- A code point lies in one of sorted, disjoint ranges; found by halving. -/
def inSortedRanges (ranges : Array (Nat × Nat)) (n : Nat) : Bool :=
  go ranges.size 0 ranges.size
where
  go : Nat → Nat → Nat → Bool
    | 0, _, _ => false
    | fuel + 1, lo, hi =>
      if lo < hi then
        let mid := (lo + hi) / 2
        match ranges[mid]? with
        | some (first, last) =>
          if n < first then go fuel lo mid
          else if last < n then go fuel (mid + 1) hi
          else true
        | none => false
      else false

/-- The character is shown as it is in a quoted display. -/
def isPrintable (c : Char) : Bool :=
  !inSortedRanges PrintData.unprintable c.toNat

/-- The character attaches to the grapheme before it. -/
def isGraphemeExtend (c : Char) : Bool :=
  inSortedRanges PrintData.graphemeExtend c.toNat

/-- Lowercase hexadecimal digits of a number, without padding. -/
def hexDigits (n : Nat) : String :=
  String.ofList (Nat.toDigits 16 n)

/-- A character as it stands inside a quoted display. -/
def quoteChar (c : Char) : String :=
  match c with
  | '\x00' => "\\0"
  | '\t' => "\\t"
  | '\r' => "\\r"
  | '\n' => "\\n"
  | '"' => "\\\""
  | '\\' => "\\\\"
  | _ =>
    if c.toNat ≥ 0x20 && c.toNat < 0x7F then String.singleton c
    else if isGraphemeExtend c || !isPrintable c then "\\u\x7b" ++ hexDigits c.toNat ++ "\x7d"
    else String.singleton c

/-- A text in double quotes, escaped for display. -/
def quoted (s : String) : String :=
  "\"" ++ String.join (s.toList.map quoteChar) ++ "\""

example : quoted "a\"b\\c\n" = "\"a\\\"b\\\\c\\n\"" := by decide

end BalancerSync.Text
