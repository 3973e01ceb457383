import Verdict.Expr.Parser
import Verdict.Environment
import Verdict.Eval.Operation

/-!
# Evaluation

The value of an expression in an environment. Operands, items and arguments are evaluated from left to right, each
of them, also those of `&&` and `||`; the operation of a node comes after them, only that a function is looked up
before its arguments. The first failure is the result.
-/

namespace Verdict.Expr

/-- Calls a function, whose refusal is told under its name. -/
def callFunction (name : String) (f : Function) (args : List Value) : Except EvalError Value :=
  match f args with
  | .ok v => .ok v
  | .error message => .error (.functionFailed name message)

mutual

/-- The value of an expression. -/
def evaluate (env : Environment) : Expr → Except EvalError Value
  | .literal v => .ok v
  | .variable name path => env.resolve name path
  | .not operand => do
    let v ← evaluate env operand
    Operation.negate v
  | .binary op left right => do
    let a ← evaluate env left
    let b ← evaluate env right
    op.apply a b
  | .list items => do
    let vs ← evaluateAll env items
    return .array vs
  | .call function args =>
    match env.function? function with
    | none => .error (.functionNotFound function)
    | some f => do
      let vs ← evaluateAll env args
      callFunction function f vs
termination_by structural e => e

/-- The values of some expressions, from the first on. -/
def evaluateAll (env : Environment) : List Expr → Except EvalError (List Value)
  | [] => .ok []
  | e :: es => do
    let v ← evaluate env e
    let vs ← evaluateAll env es
    return v :: vs
termination_by structural es => es

end

end Verdict.Expr
