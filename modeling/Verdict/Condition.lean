import Verdict.Expr.Tagged
import Verdict.Eval.Evaluate

/-!
# Conditions

An expression with the text it was read from and the names of the attributes it is said to read. It passes where
it evaluates to `true`, and nowhere else.
-/

namespace Verdict

structure Condition where
  source : String
  attributes : List String
  node : Expr
deriving Inhabited

namespace Condition

/-- The condition of a text, without attributes. -/
def parse (source : String) : Except ParseError Condition :=
  (Expr.parse source).map fun node => ⟨source, [], node⟩

def withAttributes (c : Condition) (attributes : List String) : Condition := { c with attributes }

def evaluate (c : Condition) (env : Environment) : Except EvalError Value := c.node.evaluate env

/-- Whether a result is the boolean `true`. -/
def isTrue : Except EvalError Value → Bool
  | .ok (.bool b) => b
  | _ => false

def isPass (c : Condition) (env : Environment) : Bool := isTrue (c.evaluate env)

/-! ## Stored conditions -/

/-- The stored form of a condition. -/
def toTagged (c : Condition) : Json :=
  .object [("source", .string c.source), ("attributes", Expr.strings c.attributes), ("node", c.node.toTagged)]

/-- The condition of a stored form that may nest `depth` levels. A list in place of an object holds the three parts
in that order. -/
def ofTagged? : Nat → Json → Option Condition
  | depth + 1, .object members => do
    let source ← Expr.part? "source" members Expr.string?
    let attributes ← Expr.listPart? "attributes" members Expr.strings?
    let node ← Expr.part? "node" members (Expr.ofTagged? depth)
    return ⟨source, attributes, node⟩
  | depth + 1, .array [source, attributes, node] => do
    return ⟨← Expr.string? source, ← Expr.strings? attributes, ← Expr.ofTagged? depth node⟩
  | _, _ => none

/-- The condition of a text in its stored form. -/
def ofJsonText? (text : String) : Option Condition := (Json.parse? text).bind (ofTagged? Json.maxNesting)

end Condition

end Verdict
