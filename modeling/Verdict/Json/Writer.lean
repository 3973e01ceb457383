import Verdict.Json.Basic

/-!
# Writing JSON

Two layouts of a JSON tree: without any blanks, and on lines of their own with two blanks for each level. Strings
escape the two characters that would end them or begin an escape, and the controls; all else is written as it is.
-/

namespace Verdict.Json

/-- A digit of a hexadecimal number. -/
def hexDigit (n : Nat) : Char := Nat.digitChar n

/-- One character of a string. -/
def escapeChar (c : Char) : List Char :=
  match c with
  | '"' => ['\\', '"']
  | '\\' => ['\\', '\\']
  | '\x08' => ['\\', 'b']
  | '\t' => ['\\', 't']
  | '\n' => ['\\', 'n']
  | '\x0c' => ['\\', 'f']
  | '\r' => ['\\', 'r']
  | _ =>
    if c.toNat < 32 then ['\\', 'u', '0', '0', hexDigit (c.toNat / 16), hexDigit (c.toNat % 16)] else [c]

/-- A string between its quotes. -/
def stringText (s : String) : List Char := '"' :: s.toList.flatMap escapeChar ++ ['"']

/-- A string whose text is not known is written as an empty one. -/
def unpairedText : List Char := ['"', '"']

def boolText (b : Bool) : List Char := (if b then "true" else "false").toList

mutual

/-- The text of a tree without blanks. -/
def write : Json → List Char
  | .null => "null".toList
  | .bool b => boolText b
  | .number n => n.text
  | .string s => stringText s
  | .unpaired => unpairedText
  | .array [] => ['[', ']']
  | .array (j :: js) => '[' :: write j ++ writeItems js
  | .object [] => ['{', '}']
  | .object ((key, j) :: js) => '{' :: stringText key ++ ':' :: write j ++ writeMembers js
termination_by structural j => j

/-- The items after the first, with the bracket at the end. -/
def writeItems : List Json → List Char
  | [] => [']']
  | j :: js => ',' :: write j ++ writeItems js
termination_by structural js => js

/-- The members after the first, with the brace at the end. -/
def writeMembers : List (String × Json) → List Char
  | [] => ['}']
  | (key, j) :: js => ',' :: stringText key ++ ':' :: write j ++ writeMembers js
termination_by structural js => js

end

/-- A new line with the blanks of a level. -/
def newline (level : Nat) : List Char := '\n' :: List.replicate (2 * level) ' '

mutual

/-- The text of a tree at a level, with each item and member on a line of its own. -/
def writePretty (level : Nat) : Json → List Char
  | .null => "null".toList
  | .bool b => boolText b
  | .number n => n.text
  | .string s => stringText s
  | .unpaired => unpairedText
  | .array [] => ['[', ']']
  | .array (j :: js) => '[' :: newline (level + 1) ++ writePretty (level + 1) j ++ prettyItems level js
  | .object [] => ['{', '}']
  | .object ((key, j) :: js) =>
    '{' :: newline (level + 1) ++ stringText key ++ ':' :: ' ' :: writePretty (level + 1) j ++
      prettyMembers level js
termination_by structural j => j

def prettyItems (level : Nat) : List Json → List Char
  | [] => newline level ++ [']']
  | j :: js => ',' :: newline (level + 1) ++ writePretty (level + 1) j ++ prettyItems level js
termination_by structural js => js

def prettyMembers (level : Nat) : List (String × Json) → List Char
  | [] => newline level ++ ['}']
  | (key, j) :: js =>
    ',' :: newline (level + 1) ++ stringText key ++ ':' :: ' ' :: writePretty (level + 1) j ++
      prettyMembers level js
termination_by structural js => js

end

/-- The text of a tree without blanks. -/
def compact (j : Json) : String := String.ofList (write j)

/-- The text of a tree with a line for each item and member. -/
def pretty (j : Json) : String := String.ofList (writePretty 0 j)

end Verdict.Json
