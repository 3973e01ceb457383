import Verdict.Value.Basic
import Verdict.Number.Decimal
import Verdict.Text.Quoted

/-!
# Values as text

How a value is displayed. A string stands for itself, without quotes; inside an array, a set or a map it is
quoted, so that its ends can be seen. Names of fields are written as they are.
-/

namespace Verdict.Value

/-- The text of a value that holds no others, a string apart. -/
def scalarText : Value → List Char
  | .bool b => (if b then "true" else "false").toList
  | .int n => Decimal.displayInt n.val
  | .float32 x => Decimal.displayFloat32 x
  | .float64 x => Decimal.displayFloat x
  | _ => "null".toList

mutual

/-- The text of a value inside another one. -/
def nestedText : Value → List Char
  | .string s => Text.quote s.toList
  | .array [] => ['[', ']']
  | .array (x :: xs) => '[' :: nestedText x ++ itemsText xs ++ [']']
  | .set [] => ['{', '}']
  | .set (x :: xs) => '{' :: nestedText x ++ itemsText xs ++ ['}']
  | .map .nil | .struct .nil => ['{', '}']
  | .map (.cons k _ x xs) | .struct (.cons k _ x xs) =>
    '{' :: k.toList ++ ':' :: ' ' :: nestedText x ++ fieldsText xs ++ ['}']
  | v => scalarText v
termination_by structural v => v

/-- The items after the first. -/
def itemsText : List Value → List Char
  | [] => []
  | x :: xs => ',' :: ' ' :: nestedText x ++ itemsText xs
termination_by structural xs => xs

/-- The fields after the first. -/
def fieldsText {bound : Option String} : Fields Value bound → List Char
  | .nil => []
  | .cons k _ x xs => ',' :: ' ' :: k.toList ++ ':' :: ' ' :: nestedText x ++ fieldsText xs
termination_by structural xs => xs

end

/-- The text of a value on its own. -/
def text : Value → List Char
  | .string s => s.toList
  | v => nestedText v

/-- How a value is displayed. -/
def display (v : Value) : String := String.ofList v.text

end Verdict.Value
