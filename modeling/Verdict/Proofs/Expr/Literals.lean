import Verdict.Expr.Basic

/-!
# Induction over expressions, and their literals
-/

namespace Verdict.Expr

/-- Induction with the hypothesis for every expression of a list. -/
theorem induction {P : Expr → Prop} (literal : ∀ v, P (.literal v)) (reference : ∀ name path, P (.variable name path))
    (negation : ∀ e, P e → P (.not e)) (operation : ∀ op l r, P l → P r → P (.binary op l r))
    (items : ∀ es, (∀ e ∈ es, P e) → P (.list es)) (application : ∀ f es, (∀ e ∈ es, P e) → P (.call f es)) (e : Expr) :
    P e :=
  @Expr.rec P (fun es => ∀ e ∈ es, P e) literal reference negation operation items application
    (fun _ he => absurd he List.not_mem_nil) (fun _ _ he hes => List.forall_mem_cons.mpr ⟨he, hes⟩) e

mutual

/-- The literals of an expression, in the order in which they stand there. -/
def literals : Expr → List Value
  | .literal v => [v]
  | .variable _ _ => []
  | .not operand => operand.literals
  | .binary _ left right => left.literals ++ right.literals
  | .list items | .call _ items => literalsOfAll items
termination_by structural e => e

def literalsOfAll : List Expr → List Value
  | [] => []
  | e :: es => e.literals ++ literalsOfAll es
termination_by structural es => es

end

theorem mem_literalsOfAll {es : List Expr} {v : Value} : v ∈ literalsOfAll es ↔ ∃ e ∈ es, v ∈ e.literals := by
  induction es with
  | nil => simp [literalsOfAll]
  | cons e es ih => simp [literalsOfAll, ih]

end Verdict.Expr
