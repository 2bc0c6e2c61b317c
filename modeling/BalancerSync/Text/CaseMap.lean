import BalancerSync.Text.CaseData

/-!
# Full Unicode case mapping

Uppercasing and lowercasing of whole texts by the full Unicode mappings: a character may map to
several (`ß` uppercases to `SS`, `İ` lowercases to `i` and a combining dot), and a capital sigma
lowercases to the final form `ς` at the end of a word. The end of a word is the Unicode
`Final_Sigma` condition: a cased letter stands before the sigma, skipping case-ignorable
characters, and none stands after it.
-/

namespace BalancerSync.Text

open CaseData

/-- The image of a code point under one run of a simple mapping, when the run covers it. -/
def runImage? (run : Nat × Nat × Nat × Int) (n : Nat) : Option Nat :=
  let (first, last, stride, shift) := run
  if first ≤ n && n ≤ last && (n - first) % stride == 0 then
    some (Int.toNat (Int.ofNat n + shift))
  else
    none

/-- The image of a code point under a whole mapping: its special entry, else its run, else
itself. -/
def mapCodePoint (runs : Array (Nat × Nat × Nat × Int)) (special : Array (Nat × List Nat))
    (c : Char) : List Char :=
  match special.find? (fun entry => entry.1 == c.toNat) with
  | some (_, targets) => targets.map Char.ofNat
  | none =>
    match runs.findSome? (fun run => runImage? run c.toNat) with
    | some target => [Char.ofNat target]
    | none => [c]

/-- The characters that a character uppercases to. -/
def upperOf (c : Char) : List Char :=
  if c.toNat < 0x80 then [c.toUpper] else mapCodePoint upperRuns upperSpecial c

/-- The characters that a character lowercases to, outside the final-sigma rule. -/
def lowerOf (c : Char) : List Char :=
  if c.toNat < 0x80 then [c.toLower] else mapCodePoint lowerRuns lowerSpecial c

/-- A code point lies in one of a list of ranges. -/
def inRanges (ranges : Array (Nat × Nat)) (c : Char) : Bool :=
  ranges.any (fun range => range.1 ≤ c.toNat && c.toNat ≤ range.2)

/-- The character has the Unicode `Case_Ignorable` property. -/
def isCaseIgnorable (c : Char) : Bool := inRanges caseIgnorable c

/-- The character is cased and not case-ignorable. -/
def isCased (c : Char) : Bool := inRanges cased c

/-- Skipping case-ignorable characters, the first character left is cased. -/
def casedAfterIgnorable (cs : List Char) : Bool :=
  match cs.dropWhile isCaseIgnorable with
  | c :: _ => isCased c
  | [] => false

/-- Uppercases a text by the full mapping. -/
def toUpper (s : String) : String :=
  String.ofList (s.toList.flatMap upperOf)

/-- Lowercases a character list; `before` holds the characters already passed, nearest first. -/
def lowerChars : List Char → List Char → List Char
  | _, [] => []
  | before, c :: rest =>
    let image :=
      if c = 'Σ' then
        if casedAfterIgnorable before && !casedAfterIgnorable rest then ['ς'] else ['σ']
      else lowerOf c
    image ++ lowerChars (c :: before) rest

/-- Lowercases a text by the full mapping, with the final-sigma rule. -/
def toLower (s : String) : String :=
  String.ofList (lowerChars [] s.toList)

end BalancerSync.Text
