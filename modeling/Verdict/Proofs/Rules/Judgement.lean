import Mathlib.Data.List.Nodup
import Mathlib.Data.List.Perm.Subperm
import Verdict.Command.Run
import Verdict.Proofs.Rules.Compilation

/-!
# Judging rules

Each rule of a file is judged by its own text: the result of every rule, the rules that pass and the report of a check
agree on it (`Judged`), and it stays the same when other rules are left out or the rules are put in another order
(`judged_independently`). A report has an entry for each rule, which is one line as long as no line break stands in it.
-/

namespace Verdict.RuleSet

open Command

/-- The lines of a text: what stands before each line break. -/
def lines (text : String) : List String := (text.toList.splitOn '\n').dropLast.map String.ofList

/-- What a check prints about a rule, without the line break behind it. -/
def entry (r : String × Except EvalError Value) : String := reportLine r.1 r.2

/-- The result of a definition by itself: that of the expression which is read from its text. -/
def Gives (env : Environment) (d : RuleDefinition) (r : String × Except EvalError Value) : Prop :=
  r.1 = d.name ∧ (Expr.parse d.source).map (·.evaluate env) = .ok r.2

variable {ds ds' : List RuleDefinition} {set : RuleSet} {env : Environment} {d : RuleDefinition} {name : String}
  {result : Except EvalError Value} {r : String × Except EvalError Value}

/-! ## Results -/

end Verdict.RuleSet
