import Verdict.Text.Category
import Verdict.Text.Extend

/-!
# Quoted text

How a text is shown between double quotes where it stands inside something else. Quotes, backslashes and
the usual controls are escaped by a letter. What cannot be seen on its own (controls, blanks other than the plain
one, unassigned code points, marks that join the character before) is escaped by its number.
-/

namespace Verdict.Text

/-- The code points that are not shown as they are, the blank apart. -/
def hidden : CodeSet :=
  .unions [Category.control, Category.format, Category.privateUse, Category.surrogate, Category.unassigned,
    Category.lineSeparator, Category.paragraphSeparator, Category.spaceSeparator]

/-- Whether a character is shown as it is. -/
def isPrintable (c : Char) : Bool :=
  c = ' ' || !(hidden.contains c)

/-- An escape by number, such as `\u\x7ba0\x7d`. -/
def codeEscape (c : Char) : List Char :=
  ['\\', 'u', '{'] ++ Nat.toDigits 16 c.toNat ++ ['}']

/-- One character of a quoted text. -/
def quoteChar (c : Char) : List Char :=
  match c with
  | '\x00' => ['\\', '0']
  | '\t' => ['\\', 't']
  | '\r' => ['\\', 'r']
  | '\n' => ['\\', 'n']
  | '"' => ['\\', '"']
  | '\\' => ['\\', '\\']
  | _ =>
    if c.toNat < 128 then
      if 32 ≤ c.toNat ∧ c.toNat < 127 then [c] else codeEscape c
    else if graphemeExtend.contains c || !isPrintable c then codeEscape c
    else [c]

/-- A text between quotes, with its characters escaped where they have to be. -/
def quote (cs : List Char) : List Char :=
  '"' :: cs.flatMap quoteChar ++ ['"']

end Verdict.Text
