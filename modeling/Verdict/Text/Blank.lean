/-!
# White space

The characters that the Unicode standard calls white space. They separate the tokens of an expression and are
trimmed off the names of variables given on the command line.
-/

namespace Verdict.Text

/-- Whether a character is white space: the five ASCII controls from tab to carriage return, the blank, and
the blanks and line ends beyond ASCII. -/
def isBlank (c : Char) : Bool :=
  let n := c.toNat
  (9 ≤ n && n ≤ 13) || n == 0x20 || n == 0x85 || n == 0xa0 || n == 0x1680 ||
    (0x2000 ≤ n && n ≤ 0x200a) || n == 0x2028 || n == 0x2029 || n == 0x202f || n == 0x205f || n == 0x3000

/-- A text without the white space at its two ends. -/
def trimBlanks (cs : List Char) : List Char :=
  ((cs.dropWhile isBlank).reverse.dropWhile isBlank).reverse

end Verdict.Text
