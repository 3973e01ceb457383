import Verdict.Value.Equality
import Verdict.Json.Basic

/-!
# Values with their types in JSON

The stored form of a value is an object with its type and what it holds: `{"type":"int8","value":5}`, and only
`{"type":"null"}` for null. Reading takes the two members in any order, passes over other members and refuses
a member given twice, an integer outside the range of its type and a number too large for a double. A `float32` is
the nearest of its width, which is infinite for a number that is too large for it. Equal items of a stored set are
dropped.

A list of the two, `["int8",5]`, is read as well. Where the contents stand before the type, they are kept as a whole
until the type is known. What is kept has to be readable as a whole, and more ways to write a choice are allowed in it
than in the text itself.
-/

namespace Verdict.Value

/-- The name of the member that holds the type. -/
def typeKey : String := "type"

/-- The name of the member that holds the contents. -/
def contentKey : String := "value"

/-- An object of a type and contents. -/
def typed (type : ValueType) (content : Json) : Json :=
  .object [(typeKey, .string type.name), (contentKey, content)]

/-- The number of a floating-point value, or null where it is not finite. -/
def floatJson (n : Option Json.Numeral) : Json := (n.map Json.number).getD .null

mutual

/-- The stored form of a value. -/
def toTagged : Value → Json
  | .null => .object [(typeKey, .string ValueType.null.name)]
  | .bool b => typed .bool (.bool b)
  | .int n => typed (.int n.kind) (.number (.ofInt n.val))
  | .float32 x => typed .float32 (floatJson (Json.Numeral.ofFloat32? x))
  | .float64 x => typed .float64 (floatJson (Json.Numeral.ofFloat? x))
  | .string s => typed .string (.string s)
  | .array items => typed .array (.array (itemsToTagged items))
  | .set items => typed .set (.array (itemsToTagged items))
  | .map fields => typed .map (.object (fieldsToTagged fields))
  | .struct fields => typed .struct (.object (fieldsToTagged fields))
termination_by structural v => v

def itemsToTagged : List Value → List Json
  | [] => []
  | v :: vs => toTagged v :: itemsToTagged vs
termination_by structural vs => vs

def fieldsToTagged {bound : Option String} : Fields Value bound → List (String × Json)
  | .nil => []
  | .cons key _ v vs => (key, toTagged v) :: fieldsToTagged vs
termination_by structural vs => vs

end

/-! ## Reading -/

/-- Where a tree is read from: the text, or what was kept of it as a whole. -/
inductive Medium where
  | text
  | kept
deriving DecidableEq

/-- A choice among names: a string, or an object with the name as its only key and nothing under it. In what was kept
an empty object is nothing as well. The object costs a level of the `depth` that may nest. -/
def choice? (medium : Medium) : Nat → Json → Option String
  | _, .string s => some s
  | _ + 1, .object [(s, .null)] => some s
  | _ + 1, .object [(s, .object [])] => if medium = .kept then some s else none
  | _, _ => none

/-- A number as the place in a list. -/
def place? (n : Json.Numeral) : Option Nat :=
  match n.value? with
  | some (.int i) => if 0 ≤ i.val then some i.val.toNat else none
  | _ => none

/-- A choice that stands in front of what it is about: a string, and in what was kept also the number of its place
among all choices. -/
def label? (medium : Medium) (names : List String) : Json → Option String
  | .string s => some s
  | .number n => if medium = .kept then (place? n).bind (names[·]?) else none
  | _ => none

/-- Whether the contents stand before the type. They are then read before it is known what they are. -/
def contentFirst (members : List (String × Json)) : Bool :=
  match members.find? fun (key, _) => key = typeKey || key = contentKey with
  | some (key, _) => key = contentKey
  | none => false

/-- Where the contents in an object are read from. -/
def mediumOf (medium : Medium) (members : List (String × Json)) : Medium :=
  if contentFirst members then .kept else medium

/-- What a stored value says: its type, and its contents with where they are read from. -/
structure Parts where
  type : ValueType
  content : Option (Medium × Json)

/-- The parts of a stored value in which `depth` levels may nest. -/
def parts? (medium : Medium) (depth : Nat) : Json → Option Parts
  | .object members => do
    let .present tag := Json.member typeKey members | none
    let type ← (choice? medium depth tag).bind ValueType.ofName?
    match Json.member contentKey members with
    | .missing => some ⟨type, none⟩
    | .repeated => none
    | .present content =>
      if contentFirst members && !content.isReadable depth then none
      else some ⟨type, some (mediumOf medium members, content)⟩
  | .array [tag, content] => do
    let type ← (label? medium (ValueType.all.map ValueType.name) tag).bind ValueType.ofName?
    return ⟨type, some (medium, content)⟩
  | _ => none

/-- Contents that are a number. -/
def number? : Json → Option Json.Number
  | .number n => n.value?
  | _ => none

/-- A value that holds no others, from its contents. -/
def scalarOf? : ValueType → Json → Option Value
  | .null, .null => some .null
  | .bool, .bool b => some (.bool b)
  | .string, .string s => some (.string s)
  | .int kind, j =>
    match number? j with
    | some (.int n) => (Integer.ofInt? kind n.val).map .int
    | _ => none
  | .float32, j => (number? j).map fun
    | .int n => .float32 (Binary.ofInt32 n.val)
    | .float x => .float32 (Binary.narrow x)
  | .float64, j => (number? j).map fun
    | .int n => .float64 (Binary.ofInt n.val)
    | .float x => .float64 x
  | _, _ => none

/-- Fields that are all read in the same way. -/
def fieldsOf? (read : Json → Option Value) (members : List (String × Json)) : Option (Fields Value) :=
  (members.mapM fun member => (read member.2).map fun v => (member.1, v)).map Fields.ofList

/-- A value from its contents, given how the values in it are read. -/
def contentOf? (read : Json → Option Value) : ValueType → Json → Option Value
  | .array, .array items => (items.mapM read).map .array
  | .set, .array items => (items.mapM read).map ofItems
  | .map, .object members => (fieldsOf? read members).map .map
  | .struct, .object members => (fieldsOf? read members).map .struct
  | type, j => scalarOf? type j

/-- The value of a stored form that may nest `depth` levels. -/
def ofStored? : Nat → Medium → Json → Option Value
  | 0, _, _ => none
  | depth + 1, medium, j =>
    match parts? medium depth j with
    | some ⟨.null, none⟩ => some .null
    | some ⟨type, some (medium, content)⟩ =>
      match depth with
      | 0 => scalarOf? type content
      | depth + 1 => contentOf? (ofStored? depth medium) type content
    | _ => none

/-- The value of a stored form in a text that may nest `depth` levels. -/
def ofTagged? (depth : Nat) (j : Json) : Option Value := ofStored? depth .text j

end Verdict.Value
