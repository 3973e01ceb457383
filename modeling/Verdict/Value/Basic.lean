import Verdict.Number.Integer
import Verdict.Number.Binary
import Verdict.Fields

/-!
# Values

The values that expressions work on. Integers carry their width, floating-point numbers come in two widths, and
beside arrays there are sets, in which order and repetition do not count. Maps and structs hold named fields and
differ only in their type.
-/

namespace Verdict

inductive Value where
  | null
  | bool (b : Bool)
  | int (n : Integer)
  | float32 (x : Float32)
  | float64 (x : Float)
  | string (s : String)
  | array (items : List Value)
  | set (items : List Value)
  | map (fields : Fields Value)
  | struct (fields : Fields Value)
deriving Inhabited

/-- The types of values. -/
inductive ValueType where
  | null
  | bool
  | int (kind : IntKind)
  | float32
  | float64
  | string
  | array
  | set
  | map
  | struct
deriving DecidableEq, Repr, Inhabited

namespace ValueType

/-- The name of a type, as it stands in messages and in stored values. -/
def name : ValueType → String
  | .null => "null"
  | .bool => "bool"
  | .int kind => kind.name
  | .float32 => "float32"
  | .float64 => "float64"
  | .string => "string"
  | .array => "array"
  | .set => "set"
  | .map => "map"
  | .struct => "struct"

def all : List ValueType :=
  [.null, .bool] ++ IntKind.all.map .int ++ [.float32, .float64, .string, .array, .set, .map, .struct]

/-- The type of a name. -/
def ofName? (name : String) : Option ValueType := all.find? fun t => t.name = name

def isInteger : ValueType → Bool
  | .int _ => true
  | _ => false

def isNumeric : ValueType → Bool
  | .int _ | .float32 | .float64 => true
  | _ => false

end ValueType

namespace Value

def type : Value → ValueType
  | .null => .null
  | .bool _ => .bool
  | .int n => .int n.kind
  | .float32 _ => .float32
  | .float64 _ => .float64
  | .string _ => .string
  | .array _ => .array
  | .set _ => .set
  | .map _ => .map
  | .struct _ => .struct

def bool? : Value → Option Bool
  | .bool b => some b
  | _ => none

def string? : Value → Option String
  | .string s => some s
  | _ => none

/-- The number of an integer of any width. -/
def int? : Value → Option Int
  | .int n => some n.val
  | _ => none

/-- A number as a double: a single keeps its value, an integer is rounded to the nearest. -/
def float? : Value → Option Float
  | .int n => some (Binary.ofInt n.val)
  | .float32 x => some (Binary.widen x)
  | .float64 x => some x
  | _ => none

/-- The members of an array or a set. -/
def items? : Value → Option (List Value)
  | .array items | .set items => some items
  | _ => none

/-- The fields of a map or a struct. -/
def fields? : Value → Option (Fields Value)
  | .map fields | .struct fields => some fields
  | _ => none

/-- The field of a map or a struct. -/
def get? (v : Value) (name : String) : Option Value := v.fields?.bind (Fields.get? name)

/-- Sets a field of a map or a struct and gives the value that the field had before. Other values stay as
they are. -/
def setField (v : Value) (name : String) (x : Value) : Value × Option Value :=
  match v with
  | .map fields => (.map (Fields.insert name x fields), Fields.get? name fields)
  | .struct fields => (.struct (Fields.insert name x fields), Fields.get? name fields)
  | v => (v, none)

end Value

end Verdict
