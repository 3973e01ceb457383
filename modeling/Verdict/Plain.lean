import Verdict.Json.Basic
import Verdict.Fields

/-!
# Plain data

The data that files of variables hold and values are shown as to other programs: what JSON can say, with numbers
that have a value and objects whose members are in order.
-/

namespace Verdict

inductive Plain where
  | null
  | bool (b : Bool)
  | int (n : Json.WideInt)
  | float (x : Float)
  | string (s : String)
  | array (items : List Plain)
  | object (members : Fields Plain)
deriving Inhabited

namespace Plain

/-- What kind of data it is, in a word. -/
def kind : Plain → String
  | .null => "null"
  | .bool _ => "bool"
  | .int _ | .float _ => "number"
  | .string _ => "string"
  | .array _ => "array"
  | .object _ => "object"

mutual

/-- The JSON of plain data. A number that is not finite is null. -/
def toJson : Plain → Json
  | .null => .null
  | .bool b => .bool b
  | .int n => .number (.ofInt n.val)
  | .float x => ((Json.Numeral.ofFloat? x).map Json.number).getD .null
  | .string s => .string s
  | .array items => .array (itemsToJson items)
  | .object members => .object (membersToJson members)
termination_by structural p => p

def itemsToJson : List Plain → List Json
  | [] => []
  | p :: ps => toJson p :: itemsToJson ps
termination_by structural ps => ps

def membersToJson {bound : Option String} : Fields Plain bound → List (String × Json)
  | .nil => []
  | .cons key _ p ps => (key, toJson p) :: membersToJson ps
termination_by structural ps => ps

end

def ofNumber : Json.Number → Plain
  | .int n => .int n
  | .float x => .float x

mutual

/-- The plain data of a JSON tree that nests at most `depth` arrays and objects. Of two members with one key the
later one counts. -/
def ofJson? (depth : Nat) : Json → Option Plain
  | .null => some .null
  | .bool b => some (.bool b)
  | .number n => n.value?.map ofNumber
  | .string s => some (.string s)
  | .unpaired => none
  | .array items =>
    match depth with
    | 0 => none
    | depth + 1 => (itemsOfJson? depth items).map .array
  | .object members =>
    match depth with
    | 0 => none
    | depth + 1 => (membersOfJson? depth members).map fun ms => .object (Fields.ofList ms)
termination_by structural j => j

def itemsOfJson? (depth : Nat) : List Json → Option (List Plain)
  | [] => some []
  | j :: js => do
    let p ← ofJson? depth j
    let ps ← itemsOfJson? depth js
    return p :: ps
termination_by structural js => js

def membersOfJson? (depth : Nat) : List (String × Json) → Option (List (String × Plain))
  | [] => some []
  | (key, j) :: js => do
    let p ← ofJson? depth j
    let ps ← membersOfJson? depth js
    return (key, p) :: ps
termination_by structural js => js

end

end Plain

end Verdict
