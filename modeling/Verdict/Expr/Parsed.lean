import Verdict.Expr.Basic
import Verdict.Expr.ParseError

/-!
# Trees with their heights

The parser keeps the height of a tree beside it, so that it need not be found again for each node above it. A node is
one higher than the highest of its parts, and refused if that is too high.
-/

namespace Verdict

namespace Parser

/-- The greatest height of a tree, and the greatest depth to which operands may lie in each other. -/
def maxDepth : Nat := 256

end Parser

/-- A node and the trees under it. -/
inductive Branch (τ : Type) where
  | not (operand : τ)
  | binary (op : BinaryOp) (left right : τ)
  | list (items : List τ)
  | call (function : String) (args : List τ)

/-- The expression of a node. -/
def Branch.expr : Branch Expr → Expr
  | .not operand => .not operand
  | .binary op left right => .binary op left right
  | .list items => .list items
  | .call function args => .call function args

def Branch.map {τ σ : Type} (f : τ → σ) : Branch τ → Branch σ
  | .not operand => .not (f operand)
  | .binary op left right => .binary op (f left) (f right)
  | .list items => .list (items.map f)
  | .call function args => .call function (args.map f)

/-- An expression with the height of its tree, which is within the limit. -/
structure Parsed where
  expr : Expr
  height : Nat
  height_eq : expr.height = height
  height_le : height ≤ Parser.maxDepth

namespace Parsed

/-- The greatest height of some trees, 0 if there are none. -/
def maxHeight : List Parsed → Nat
  | [] => 0
  | p :: ps => max p.height (maxHeight ps)

theorem heightOfAll_expr (ps : List Parsed) : Expr.heightOfAll (ps.map expr) = maxHeight ps := by
  induction ps with
  | nil => rfl
  | cons p ps ih => rw [List.map_cons, Expr.heightOfAll, p.height_eq, ih, maxHeight]

/-- The height of the trees under a node. -/
def heightUnder : Branch Parsed → Nat
  | .not operand => operand.height
  | .binary _ left right => max left.height right.height
  | .list items | .call _ items => maxHeight items

theorem height_branch (b : Branch Parsed) : (b.map expr).expr.height = heightUnder b + 1 := by
  cases b with
  | not operand => rw [Branch.map, Branch.expr, Expr.height, operand.height_eq, heightUnder]
  | binary op left right => rw [Branch.map, Branch.expr, Expr.height, left.height_eq, right.height_eq, heightUnder]
  | list items | call function items => rw [Branch.map, Branch.expr, Expr.height, heightOfAll_expr, heightUnder]

/-- A tree without parts. -/
def leaf (e : Expr) (h : e.height = 1) : Parsed := ⟨e, 1, h, by decide⟩

/-- A node one level above its parts, unless that is too high. -/
def node (b : Branch Parsed) : Except ParseError Parsed :=
  if h : heightUnder b + 1 ≤ Parser.maxDepth then .ok ⟨(b.map expr).expr, heightUnder b + 1, height_branch b, h⟩
  else .error (.tooDeep Parser.maxDepth)

end Parsed

end Verdict
