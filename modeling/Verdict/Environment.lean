import Verdict.Eval.Error
import Verdict.Value.Plain
import Verdict.Text.Case

/-!
# Environments

What an expression is evaluated in: variables with their values, and functions. The two have separate names, and
the last setting of a name counts.
-/

namespace Verdict

/-- A function takes its arguments to a value, or refuses them with a message. -/
abbrev Function := List Value → Except String Value

structure Environment where
  bindings : Fields Value := .nil
  functions : Fields Function := .nil

namespace Environment

def empty : Environment := {}

def set (env : Environment) (name : String) (v : Value) : Environment :=
  { env with bindings := Fields.insert name v env.bindings }

def register (env : Environment) (name : String) (f : Function) : Environment :=
  { env with functions := Fields.insert name f env.functions }

def get? (env : Environment) (name : String) : Option Value := Fields.get? name env.bindings

def function? (env : Environment) (name : String) : Option Function := Fields.get? name env.functions

/-- The names of the variables, in order. -/
def keys (env : Environment) : List String := Fields.names env.bindings

/-- Takes over the variables and functions of another environment. -/
def merge (env other : Environment) : Environment where
  bindings := env.bindings.merge other.bindings
  functions := env.functions.merge other.functions

/-- The variables of plain data, which has to be an object. -/
def ofPlain (p : Plain) : Except String Environment :=
  match p with
  | .object members => .ok { bindings := Value.membersOfPlain members }
  | p => .error ("variables must be an object, got " ++ p.kind)

/-! ## Paths -/

/-- A name and fields with points between them. -/
def dotted (name : String) (fields : List String) : String := ".".intercalate (name :: fields)

/-- Follows fields from a value that has been reached on the path `reached`. -/
def follow (name : String) (reached : List String) (v : Value) : List String → Except EvalError Value
  | [] => .ok v
  | field :: rest =>
    match v.fields? with
    | none => .error (.notIndexable (dotted name reached) v.type)
    | some fields =>
      match Fields.get? field fields with
      | none => .error (.variableNotFound (dotted name (reached ++ [field])))
      | some next => follow name (reached ++ [field]) next rest

/-- The value of a variable, or of a field that a path leads to from it. -/
def resolve (env : Environment) (name : String) (path : List String) : Except EvalError Value :=
  match env.get? name with
  | none => .error (.variableNotFound name)
  | some v => follow name [] v path

/-! ## Functions that every command has -/

def argumentCount (args : List Value) : String := "expected 1 argument, got " ++ toString args.length

/-- A length as an `int64`. -/
def lengthValue (n : Nat) : Except String Value :=
  match Integer.ofInt? .int64 n with
  | some i => .ok (.int i)
  | none => .error "length does not fit int64"

/-- The number of characters of a string, of members of an array or a set, or of fields. -/
def len : Function
  | [.string s] => lengthValue s.length
  | [.array items] | [.set items] => lengthValue items.length
  | [.map fields] | [.struct fields] => lengthValue fields.toList.length
  | [other] => .error (other.type.name ++ " has no length")
  | args => .error (argumentCount args)

/-- A function on one string. -/
def onString (name : String) (f : String → String) : Function
  | [.string s] => .ok (.string (f s))
  | [other] => .error (name ++ " expects a string, got " ++ other.type.name)
  | args => .error (argumentCount args)

def withBuiltins (env : Environment) : Environment :=
  ((env.register "len" len).register "lower" (onString "lower" Text.toLower)).register "upper"
    (onString "upper" Text.toUpper)

end Environment

end Verdict
