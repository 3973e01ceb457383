import Verdict.Proofs.Grammar.Depth
import Verdict.Proofs.Rules.Compilation
import Verdict.Proofs.Tagged.Loading

/-!
# How tall trees are

What evaluation goes into is bounded wherever a tree comes from: by the height that the parser keeps beside each tree if
it was read from a text, and by what JSON may nest if it was loaded. The parser itself goes no deeper into the text than its
counter allows, whatever the text is (`heights_bounded`).
-/

namespace Verdict

open Verdict.Parser

variable {text : String} {e : Expr} {c : Condition} {set : RuleSet} {ds : List RuleDefinition}

/-! ## Trees that are read -/

theorem Expr.height_of_parse (h : Expr.parse text = .ok e) : e.height ≤ maxDepth := by
  obtain ⟨p, -, rfl⟩ := map_eq_ok.mp h
  exact p.height_eq.trans_le p.height_le

theorem Condition.height_of_parse (h : Condition.parse text = .ok c) : c.node.height ≤ maxDepth := by
  obtain ⟨e, he, rfl⟩ := RuleSet.condition_eq_ok.mp h
  exact Expr.height_of_parse he

theorem RuleSet.height_of_compile (h : compile ds = .ok set) :
    ∀ r ∈ set.rules, r.condition.node.height ≤ maxDepth := by
  intro r hr
  obtain ⟨d, -, hd⟩ := exists_definition (compiles_of_compile h) r hr
  exact Expr.height_of_parse hd.node

/-! ## Trees that are loaded -/

theorem Expr.height_of_ofJsonText? (h : ofJsonText? text = some e) : e.height ≤ Json.maxNesting := by
  obtain ⟨j, -, hj⟩ := Option.bind_eq_some_iff.mp h
  exact height_of_ofReadable? (ofReadable?_of_ofTagged? hj)

theorem Condition.height_of_ofTagged? {depth : Nat} {j : Json} (h : ofTagged? depth j = some c) :
    c.node.height < depth := by
  obtain ⟨d, i, rfl, hi⟩ := ofTagged?_cases h
  exact Nat.lt_succ_of_le (Expr.height_of_ofReadable? (Expr.ofReadable?_of_ofTagged? hi))

theorem Condition.height_of_ofJsonText? (h : ofJsonText? text = some c) : c.node.height < Json.maxNesting := by
  obtain ⟨j, -, hj⟩ := Option.bind_eq_some_iff.mp h
  exact height_of_ofTagged? hj

/-! ## All trees -/

/-- **No tree is too tall to be evaluated.** A tree that is read from a text, as it is, as a condition or as a rule, is
at most 256 tall, and one that is loaded from JSON at most 127.

With 256 on the counter an operand is refused at once, and what stands inside `k` operands is read with `k` on it, so the
parser never does anything with an operand inside 256 others. An operand leaves the counter as it was, and is read like one
without a counter that has as much depth left as the counter leaves; how deep the recursion may go makes no difference. -/
theorem heights_bounded :
    (∀ text e, Expr.parse text = .ok e → e.height ≤ 256) ∧
    (∀ text c, Condition.parse text = .ok c → c.node.height ≤ 256) ∧
    (∀ ds set, RuleSet.compile ds = .ok set → ∀ r ∈ set.rules, r.condition.node.height ≤ 256) ∧
    (∀ fuel s c, 256 ≤ c → operand (m := Run) (fuel + 1) s c = .error (.tooDeep 256)) ∧
    (∀ k ≤ 256, ∀ inner : ParserOf Run Parsed, (∀ s, inner s k = operand (m := Run) (257 - k) s k) →
      ∀ s, expressionRun s 0 = expressionOf (nested^[k] inner) s 0) ∧
    (∀ fuel c s, (operand (m := Run) fuel s c).map (fun x => ((x.1.1.expr, x.1.2), x.2)) =
      (operand (min fuel (256 - c)) s).map fun x => (x, c)) ∧
    (∀ fuel ≥ 256, ∀ text, ((wholeOf (m := Run) (expressionOf (operand fuel)) (Stream.ofText text)).run' 0).map
      Parsed.expr = Expr.parse text) ∧
    (∀ k ≤ 256, expression = expressionOf (operandWith^[k] (operand (256 - k)))) ∧
    (∀ s, operand 0 s = .error (.tooDeep 256)) ∧
    (∀ inner s, expression s = .error (.tooDeep 256) ∨ expression s = expressionOf (operandWith^[256] inner) s) ∧
    (∀ text e, Expr.ofJsonText? text = some e → e.height ≤ 127) ∧
    ∀ text c, Condition.ofJsonText? text = some c → c.node.height ≤ 127 :=
  ⟨fun _ _ => Expr.height_of_parse, fun _ _ => Condition.height_of_parse, fun _ _ => RuleSet.height_of_compile,
    fun _ _ _ => operand_refused, fun _ hk _ => expressionRun_inside hk, operand_eq, fun _ hfuel text =>
      (whole_counted hfuel _).trans (Expr.parse_eq text).symm,
    fun _ => expression_inside, fun _ => rfl, expression_follows, fun _ _ => Expr.height_of_ofJsonText?,
    fun _ _ h => (Condition.height_of_ofJsonText? h).le⟩

/-- A stored negation of a variable, which is a list with the number of its kind. -/
def negationText : String :=
  "\x7b\"kind\":\"unary\",\"operator\":\x7b\"!\":\x7b\x7d\x7d,\"operand\":[1,\"a\"]\x7d"

theorem heights_bounded_negation :
    (∃ e, Expr.parse "!$a" = .ok e ∧ e.height ≤ 256) ∧ (∃ c, Condition.parse "!$a" = .ok c ∧ c.node.height ≤ 256) ∧
    (∃ set, RuleSet.compile [⟨"r", "", "!$a", []⟩] = .ok set ∧ ∀ r ∈ set.rules, r.condition.node.height ≤ 256) ∧
    operand (m := Run) 257 (Stream.ofText "!$a") 256 = .error (.tooDeep 256) ∧
    expressionRun (Stream.ofText "!$a") 0 =
      expressionOf (nested^[256] fun _ => throw (.tooDeep 256)) (Stream.ofText "!$a") 0 ∧
    ((wholeOf (m := Run) (expressionOf (operand 300)) (Stream.ofText "!$a")).run' 0).map Parsed.expr =
      .ok (.not (.variable "a" [])) ∧
    expression = expressionOf (operandWith^[3] (operand 253)) ∧
    (∃ e, Expr.ofJsonText? negationText = some e ∧ e.height ≤ 127) ∧
    ∃ c, Condition.ofJsonText? ("[\"\",[]," ++ negationText ++ "]") = some c ∧ c.node.height ≤ 127 := by
  obtain ⟨hparse, hcondition, hcompile, hrefused, hnested, -, hwhole, hinside, -, -, hloaded, hstored⟩ := heights_bounded
  have hread : Expr.parse "!$a" = .ok (.not (.variable "a" [])) := rfl
  have hcondition' : Condition.parse "!$a" = .ok ⟨"!$a", [], .not (.variable "a" [])⟩ := rfl
  have hrule : RuleSet.compile [⟨"r", "", "!$a", []⟩] =
      .ok ⟨[⟨"r", "", ⟨"!$a", [], .not (.variable "a" [])⟩⟩]⟩ := rfl
  have hsome : (Expr.ofJsonText? negationText).isSome = true := by decide +kernel
  have hsome' : (Condition.ofJsonText? ("[\"\",[]," ++ negationText ++ "]")).isSome = true := by decide +kernel
  obtain ⟨e, he⟩ := Option.isSome_iff_exists.mp hsome
  obtain ⟨c, hc⟩ := Option.isSome_iff_exists.mp hsome'
  exact ⟨⟨_, hread, hparse _ _ hread⟩, ⟨_, hcondition', hcondition _ _ hcondition'⟩, ⟨_, hrule, hcompile _ _ hrule⟩,
    hrefused 256 _ 256 (le_refl _), hnested 256 (le_refl _) _ (fun s => (hrefused 0 s 256 (le_refl _)).symm) _,
    (hwhole 300 (by decide) _).trans hread, hinside 3 (by decide), ⟨e, he, hloaded _ e he⟩, ⟨c, hc, hstored _ c hc⟩⟩

end Verdict
