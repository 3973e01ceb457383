import Verdict.Json.Numeral

/-!
# JSON as it is written

The tree of a JSON text. Numbers stay numerals and an object keeps all its members in the order of the text, so
that nothing is decided here about ranges and repeated keys. A string that escapes half of a surrogate pair has
no text of its own, and no more has an object with such a key; they are kept apart, since a reader that skips them
does not mind.
-/

namespace Verdict

inductive Json where
  | null
  | bool (b : Bool)
  | number (n : Json.Numeral)
  | string (s : String)
  | unpaired
  | array (items : List Json)
  | object (members : List (String × Json))
deriving Inhabited

namespace Json

/-- The most arrays and objects that may lie in each other. -/
def maxNesting : Nat := 127

mutual

/-- Whether a tree can be taken in whole: at most `depth` arrays and objects lie in each other, every number has
a value and every string a text. -/
def isReadable (depth : Nat) : Json → Bool
  | .null | .bool _ | .string _ => true
  | .number n => n.value?.isSome
  | .unpaired => false
  | .array items =>
    match depth with
    | 0 => false
    | depth + 1 => areReadable depth items
  | .object members =>
    match depth with
    | 0 => false
    | depth + 1 => membersReadable depth members
termination_by structural j => j

def areReadable (depth : Nat) : List Json → Bool
  | [] => true
  | j :: js => isReadable depth j && areReadable depth js
termination_by structural js => js

def membersReadable (depth : Nat) : List (String × Json) → Bool
  | [] => true
  | (_, j) :: js => isReadable depth j && membersReadable depth js
termination_by structural js => js

end

/-- Every value that an object holds under a key, in the order of the text. -/
def valuesOf (key : String) (members : List (String × Json)) : List Json :=
  members.filterMap fun (k, j) => if k = key then some j else none

/-- What an object holds under a key that it may hold only once. -/
inductive Member where
  | missing
  | present (j : Json)
  | repeated

def member (key : String) (members : List (String × Json)) : Member :=
  match valuesOf key members with
  | [] => .missing
  | [j] => .present j
  | _ => .repeated

end Json

end Verdict
