import Verdict.Expr.Parser
import Verdict.Proofs.Token.Words

/-!
# The value of a number

Every number that the lexer cuts off has a value (`numberValue?_isSome`): it is a whole number, or one with a point
and digits on both sides of it.
-/

namespace Verdict.Parser

open Verdict.Word

variable {whole ds : List Char}

theorem minus_split (negative : Bool) (hw : IsDigits whole) {cs digits : List Char} {n : Bool}
    (h : (match Decimal.signed negative (whole ++ cs) with
      | '-' :: ds => (true, ds)
      | ds => (false, ds)) = (n, digits)) : n = negative ∧ digits = whole ++ cs := by
  cases negative with
  | true =>
    cases h
    exact ⟨rfl, rfl⟩
  | false =>
    rw [Decimal.signed, if_neg Bool.false_ne_true] at h
    split at h
    · next heq => exact absurd (congrArg List.head? heq) (hw.head_ne rfl cs)
    · cases h
      exact ⟨rfl, rfl⟩

theorem numberValue?_whole (negative : Bool) (hw : IsDigits whole) :
    numberValue? (Decimal.signed negative whole) =
      match Integer.ofInt? .int64 (if negative then -Decimal.natOf whole else Decimal.natOf whole) with
      | some i => some (.int i)
      | none => some (.float64 (Binary.ofDecimal negative (Decimal.natOf whole) 0)) := by
  have htake : (whole ++ []).takeWhile Decimal.isDigit = whole := takeWhile_run hw.2 rfl
  have hdrop : (whole ++ []).dropWhile Decimal.isDigit = [] := dropWhile_run hw.2 rfl
  have hne : whole.isEmpty = false := by simpa using hw.1
  rw [← List.append_nil whole]
  unfold numberValue?
  split
  next n digits hsign =>
    obtain ⟨rfl, rfl⟩ := minus_split negative hw hsign
    dsimp only
    rw [htake, hdrop, hne, List.append_nil]
    rfl

theorem numberValue?_point (negative : Bool) (hw : IsDigits whole) (hd : IsDigits ds) :
    numberValue? (Decimal.signed negative (whole ++ '.' :: ds)) =
      some (.float64 (Binary.ofDecimal negative (Decimal.natOf (whole ++ ds)) (-ds.length))) := by
  have htake : (whole ++ '.' :: ds).takeWhile Decimal.isDigit = whole := takeWhile_run hw.2 rfl
  have hdrop : (whole ++ '.' :: ds).dropWhile Decimal.isDigit = '.' :: ds := dropWhile_run hw.2 rfl
  have hne : whole.isEmpty = false := by simpa using hw.1
  have hds : (ds.isEmpty || !ds.all Decimal.isDigit) = false := by
    simpa using ⟨hd.1, hd.2⟩
  unfold numberValue?
  split
  next n digits hsign =>
    obtain ⟨rfl, rfl⟩ := minus_split negative hw hsign
    dsimp only
    rw [htake, hdrop]
    simp only [hne, hds, Bool.false_eq_true, if_false]

theorem exists_signed {text : String} (h : IsNumeral text) : ∃ negative whole fraction,
    text.toList = Decimal.signed negative (whole ++ fraction) ∧ IsDigits whole ∧
      (fraction = [] ∨ ∃ ds, fraction = '.' :: ds ∧ IsDigits ds) := by
  obtain ⟨minus, whole, fraction, htext, rfl | rfl, hw, hf⟩ := h
  · exact ⟨false, whole, fraction, htext, hw, hf⟩
  · exact ⟨true, whole, fraction, htext, hw, hf⟩

theorem numberValue?_isSome {text : String} (h : IsNumeral text) : (numberValue? text.toList).isSome = true := by
  obtain ⟨negative, whole, fraction, htext, hw, hf⟩ := exists_signed h
  rw [htext]
  rcases hf with rfl | ⟨ds, rfl, hd⟩
  · rw [List.append_nil, numberValue?_whole negative hw]
    split <;> rfl
  · rw [numberValue?_point negative hw hd]
    rfl

end Verdict.Parser
