import Verdict.Proofs.Grammar.Acceptance
import Mathlib.Logic.Function.Iterate

/-!
# What the limit on the depth does

The parser of operands with more depth left does what the one with less does, or reads on where that one gives up:
`Parser.following` compares two runs in this way. So a text that is an expression of the grammar, however deep, is read
as its tree or refused for its depth (`parse_or_tooDeep`).
-/

namespace Verdict

namespace Parser

open Verdict.Grammar

/-! ## Giving up -/

/-- The first run gives up, or the two do the same. -/
def following : Simulation (Except ParseError) (Except ParseError) where
  toSameTrees := .equal _
  toSamePlaces := .equal
  Run r x y := x = .error (.tooDeep maxDepth) ∨ Agree Eq r x y
  done h := .inr (.ok h)
  bind hx hf := by
    rcases hx with rfl | hr | he
    · exact .inl rfl
    · exact hf _ _ hr
    · exact .inr (.error he)
  advance {s t} h := by
    obtain rfl : s = t := h
    exact .inr (.refl _)
  refuse _ h why := .inr (.error (congrArg why.error h))
  node h := by
    rw [h.eq]
    exact .inr (.refl _)

/-- The first parser gives up, or does what the second one does. -/
def Follows (p q : Parser Expr) : Prop := ∀ s, p s = .error (.tooDeep maxDepth) ∨ p s = q s

theorem same_iff_follows {p q : Parser Expr} : following.Same Eq p q ↔ Follows p q := by
  refine ⟨fun h s => (h s s rfl).imp_right fun hs => ?_, ?_⟩
  · exact (hs.mono (fun _ _ => id) fun x y hxy => Prod.ext hxy.1 hxy.2).eq
  · rintro h s _ rfl
    refine (h s).imp_right fun hs => ?_
    rw [hs]
    exact (Agree.refl _).mono (fun _ _ => id) fun x y hxy => hxy ▸ ⟨rfl, rfl⟩

/-! ## One more operand -/

theorem Follows.operandWith {p q : Parser Expr} (h : Follows p q) : Follows (operandWith p) (operandWith q) :=
  same_iff_follows.mp (same_iff_follows.mpr h).operandWith

theorem Follows.expressionOf {p q : Parser Expr} (h : Follows p q) : Follows (expressionOf p) (expressionOf q) :=
  same_iff_follows.mp (same_iff_follows.mpr h).expressionOf

theorem Follows.iterate {p q : Parser Expr} (h : Follows p q) :
    ∀ k : Nat, Follows (Parser.operandWith^[k] p) (Parser.operandWith^[k] q)
  | 0 => h
  | k + 1 => by
    rw [Function.iterate_succ', Function.comp_apply, Function.comp_apply]
    exact (h.iterate k).operandWith

theorem operand_add (n k : Nat) : operand (n + k) = operandWith^[k] (operand n) := operand_iterate n k

theorem operand_zero_follows (p : Parser Expr) : Follows (operand 0) p := fun _ => .inl rfl

theorem operand_follows {n m : Nat} (h : n ≤ m) : Follows (operand n) (operand m) := by
  obtain ⟨k, rfl⟩ := Nat.exists_eq_add_of_le' h
  have hn := operand_add 0 n
  rw [Nat.zero_add] at hn
  rw [hn, operand_add k n]
  exact (operand_zero_follows _).iterate n

theorem expression_inside {k : Nat} (hk : k ≤ maxDepth) :
    expression = expressionOf (operandWith^[k] (operand (maxDepth - k))) := by
  rw [← operand_add, Nat.sub_add_cancel hk]
  rfl

/-- Whatever an operand inside as many others as there may be were read as, the parser gives up or does without. -/
theorem expression_follows (inner : Parser Expr) :
    Follows expression (expressionOf (operandWith^[maxDepth] inner)) := by
  rw [expression_inside (le_refl _), Nat.sub_self]
  exact ((operand_zero_follows inner).iterate maxDepth).expressionOf

end Parser

/-! ## Texts -/

open Verdict.Parser Verdict.Grammar

theorem parse_or_tooDeep {text : String} {n : Nat} {e : Expr} (herror : ∀ w ∈ words text, w.kind ≠ .error)
    (h : Expression n (words text) e) :
    Expr.parse text = .ok e ∨ Expr.parse text = .error (.tooDeep maxDepth) := by
  obtain ⟨s', hpasses, hend, hfirst⟩ := Stream.passes_words herror
  have hreads : expressionOf (operand (max n maxDepth)) (Stream.ofText text) = within e.height (e, s') :=
    (operand_reads (max n maxDepth)).expressionOf.result (Stream.ofText_passes text).1 hpasses
      (ExpressionOf.mono (fun _ _ => Operand.mono (le_max_left ..)) h) (.inr hend)
  have hfollows := (operand_follows (le_max_right n maxDepth)).expressionOf (Stream.ofText text)
  rw [hreads] at hfollows
  rw [Expr.parse_eq, whole, wholeOf, if_neg hfirst, expression]
  rcases hfollows with hdeep | heq
  · rw [hdeep]
    exact .inr rfl
  · rw [heq]
    by_cases hh : e.height ≤ maxDepth
    · left
      rw [within_of_le hh]
      exact if_pos hend
    · right
      rw [within_of_lt (by omega)]
      rfl

end Verdict
