/-!
# Blanks

The characters that count as blank space around and between words, and texts without them.
-/

namespace SuiteEngine.Text

/-- Whether `c` is blank: a space of any width, a tab, or a line or field separator. -/
def isBlank (c : Char) : Bool :=
  let n := c.toNat
  (9 ≤ n && n ≤ 13) || (28 ≤ n && n ≤ 32) || n == 0x85 || n == 0xA0 || n == 0x1680
    || (0x2000 ≤ n && n ≤ 0x200A) || n == 0x2028 || n == 0x2029 || n == 0x202F || n == 0x205F
    || n == 0x3000

/-- `cs` without the characters at both ends that satisfy `p`. -/
def trimList (p : Char → Bool) (cs : List Char) : List Char :=
  ((cs.dropWhile p).reverse.dropWhile p).reverse

/-- `s` without the characters at both ends that satisfy `p`. -/
def trimBy (p : Char → Bool) (s : String) : String :=
  String.ofList (trimList p s.toList)

/-- `s` without the characters at its start that satisfy `p`. -/
def trimLeftBy (p : Char → Bool) (s : String) : String :=
  String.ofList (s.toList.dropWhile p)

/-- `s` without the characters at its end that satisfy `p`. -/
def trimRightBy (p : Char → Bool) (s : String) : String :=
  String.ofList (s.toList.reverse.dropWhile p).reverse

/-- `s` without blanks at both ends. -/
def trim (s : String) : String := trimBy isBlank s

end SuiteEngine.Text
