import Verdict.Value.Basic
import Verdict.Expr.Operator
import Verdict.Pattern.Fault

/-!
# Why an evaluation fails

The causes for which an expression has no value, and how each is worded.
-/

namespace Verdict

/-- The operand of a logical operator. -/
inductive LogicalOperand where
  | left (op : BinaryOp)
  | right (op : BinaryOp)
  | negated
deriving DecidableEq, Repr

namespace LogicalOperand

def name : LogicalOperand → String
  | .left _ => "left operand"
  | .right _ => "right operand"
  | .negated => "operand"

def symbol : LogicalOperand → String
  | .left op | .right op => op.symbol
  | .negated => notSymbol

end LogicalOperand

inductive EvalError where
  /-- The operator is not defined for values of these types. -/
  | typeMismatch (op : BinaryOp) (left right : ValueType)
  /-- A logical operator has an operand that is not a boolean. -/
  | nonBoolean (operand : LogicalOperand) (found : ValueType)
  | divisionByZero
  | moduloByZero
  /-- The result does not fit the kind of the operands. -/
  | overflow (op : BinaryOp)
  /-- A variable or a field of one, by its full path, is not there. -/
  | variableNotFound (path : String)
  /-- A field is asked for of a value that has none. -/
  | notIndexable (path : String) (found : ValueType)
  | functionNotFound (name : String)
  /-- A function refused its arguments. -/
  | functionFailed (name message : String)
  /-- The right operand of `matches` is no pattern that can be looked for. -/
  | invalidPattern (pattern : String) (fault : PatternFault)
deriving DecidableEq, Repr

namespace EvalError

def message : EvalError → String
  | .typeMismatch op left right =>
    "Cannot apply '" ++ op.symbol ++ "' to " ++ left.name ++ " and " ++ right.name
  | .nonBoolean operand found =>
    operand.name ++ " of '" ++ operand.symbol ++ "' must be bool, got " ++ found.name
  | .divisionByZero => "Division by zero"
  | .moduloByZero => "Modulo by zero"
  | .overflow op => "Integer overflow in '" ++ op.symbol ++ "'"
  | .variableNotFound path => "Variable '" ++ path ++ "' not found"
  | .notIndexable path found => "Cannot access field of '" ++ path ++ "': " ++ found.name ++ " has no fields"
  | .functionNotFound name => "Function '" ++ name ++ "' not found"
  | .functionFailed name m => "Function '" ++ name ++ "' failed: " ++ m
  | .invalidPattern pattern fault => "Invalid pattern '" ++ pattern ++ "': " ++ fault.message

end EvalError

end Verdict
