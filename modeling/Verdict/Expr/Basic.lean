import Verdict.Value.Basic
import Verdict.Expr.Operator

/-!
# Expressions

The tree of an expression, its height, and the variables it reads.
-/

namespace Verdict

inductive Expr where
  | literal (value : Value)
  | variable (name : String) (path : List String)
  | not (operand : Expr)
  | binary (op : BinaryOp) (left right : Expr)
  | list (items : List Expr)
  | call (function : String) (args : List Expr)
deriving Inhabited

namespace Expr

mutual

/-- The greatest number of nodes on a way from the root to a leaf. -/
def height : Expr → Nat
  | .literal _ | .variable _ _ => 1
  | .not operand => operand.height + 1
  | .binary _ left right => max left.height right.height + 1
  | .list items | .call _ items => heightOfAll items + 1
termination_by structural e => e

/-- The height of the tallest of some trees. -/
def heightOfAll : List Expr → Nat
  | [] => 0
  | e :: es => max e.height (heightOfAll es)
termination_by structural es => es

end

/-- Appends a name unless it is there. -/
def addName (names : List String) (name : String) : List String :=
  if names.contains name then names else names ++ [name]

mutual

/-- Appends the names of a tree's variables that are not among those given. -/
def addVariables (names : List String) : Expr → List String
  | .literal _ => names
  | .variable name _ => addName names name
  | .not operand => operand.addVariables names
  | .binary _ left right => right.addVariables (left.addVariables names)
  | .list items | .call _ items => addVariablesOfAll names items
termination_by structural e => e

def addVariablesOfAll (names : List String) : List Expr → List String
  | [] => names
  | e :: es => addVariablesOfAll (e.addVariables names) es
termination_by structural es => es

end

/-- The names of the variables of an expression, each once, in the order in which they first stand there. -/
def variableNames (e : Expr) : List String := e.addVariables []

end Expr

end Verdict
