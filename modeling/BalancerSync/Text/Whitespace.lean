/-!
# Unicode white space

The characters that carry the Unicode `White_Space` property, and trimming a text by them.
Configuration values, pidfile contents and signal names are all compared after such a trim,
so the set is the full Unicode one and not the ASCII subset that `Char.isWhitespace` knows.
-/

namespace BalancerSync.Text

/-- A character has the Unicode `White_Space` property. -/
def isWhiteSpace (c : Char) : Bool :=
  let n := c.toNat
  (0x09 ≤ n && n ≤ 0x0D) || n == 0x20 || n == 0x85 || n == 0xA0 || n == 0x1680 ||
    (0x2000 ≤ n && n ≤ 0x200A) || n == 0x2028 || n == 0x2029 || n == 0x202F ||
    n == 0x205F || n == 0x3000

/-- Drops white space from the front of a character list. -/
def dropWhiteSpace (cs : List Char) : List Char :=
  cs.dropWhile isWhiteSpace

/-- Drops white space from both ends of a text. -/
def trim (s : String) : String :=
  String.ofList (dropWhiteSpace (dropWhiteSpace s.toList).reverse).reverse

/-- Drops white space from the front of a text. -/
def trimStart (s : String) : String :=
  String.ofList (dropWhiteSpace s.toList)

/-- Drops white space from the end of a text. -/
def trimEnd (s : String) : String :=
  String.ofList (dropWhiteSpace s.toList.reverse).reverse

example : trim " 　a b\n" = "a b" := by decide

end BalancerSync.Text
