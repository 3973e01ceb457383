import Mathlib.Algebra.Group.Nat.Defs
import Mathlib.Data.List.Basic
import Verdict.Number.Decimal
import Verdict.Proofs.Token.Spelling

/-!
# Digits

The digits of a natural number and of an integer, and the number that a row of digits says.
-/

namespace Verdict.Decimal

open Verdict.Word

theorem isDigits_digitsOf (n : Nat) : IsDigits (digitsOf n) := by
  refine ⟨Nat.toDigits_ne_nil, fun d hd => ?_⟩
  have h := Nat.isDigit_of_mem_toDigits (by decide) (by decide) hd
  rw [isDigit_iff]
  simp only [Char.isDigit, Bool.and_eq_true, decide_eq_true_eq, ge_iff_le, UInt32.le_iff_toNat_le] at h
  exact h

theorem isDigits_zero : IsDigits ['0'] := ⟨List.cons_ne_nil _ _, List.all_eq_true.mp rfl⟩

theorem natOf_eq (ds : List Char) : natOf ds = Nat.ofDigitChars 10 ds 0 := by
  unfold natOf
  rw [Nat.ofDigitChars_eq_foldl]
  congr 1
  funext n d
  rw [Nat.mul_comm]
  rfl

theorem natOf_digitsOf (n : Nat) : natOf (digitsOf n) = n := by
  rw [natOf_eq]
  exact Nat.ofDigitChars_ten_toDigits

theorem natOf_zeros_append (n : Nat) (ds : List Char) : natOf (List.replicate n '0' ++ ds) = natOf ds := by
  rw [natOf_eq, natOf_eq, Nat.ofDigitChars_append, Nat.ofDigitChars_replicate_zero, Nat.mul_zero]

theorem natOf_append_zeros (ds : List Char) (n : Nat) : natOf (ds ++ List.replicate n '0') = natOf ds * 10 ^ n := by
  rw [natOf_eq, natOf_eq, Nat.ofDigitChars_append, Nat.ofDigitChars_replicate_zero, Nat.mul_comm]

theorem isDigits_append {whole ds : List Char} (hw : IsDigits whole) (hd : ∀ d ∈ ds, isDigit d = true) :
    IsDigits (whole ++ ds) := by
  refine ⟨by simp [hw.1], fun d h => ?_⟩
  rcases List.mem_append.mp h with h | h
  · exact hw.2 d h
  · exact hd d h

theorem isDigit_zeros {n : Nat} : ∀ d ∈ List.replicate n '0', isDigit d = true := by
  intro d hd
  rw [List.eq_of_mem_replicate hd]
  rfl

theorem digitChar_ne_zero : ∀ n < 10, 0 < n → Nat.digitChar n ≠ '0' := by
  decide

theorem head_digitsOf {n : Nat} (hn : 0 < n) : (digitsOf n).head? ≠ some '0' := by
  induction n using Nat.strong_induction_on with
  | _ n ih =>
    unfold digitsOf at ih ⊢
    rcases Nat.lt_or_ge n 10 with h | h
    · rw [Nat.toDigits_of_lt_base h]
      exact fun heq => digitChar_ne_zero n h hn (Option.some.inj heq)
    · rw [Nat.toDigits_of_base_le (by decide) h, List.head?_append_of_ne_nil _ Nat.toDigits_ne_nil]
      exact ih (n / 10) (Nat.div_lt_self hn (by decide)) (Nat.div_pos h (by decide))

/-! ## Integers -/

theorem mem_displayInt {n : Int} {c : Char} (h : c ∈ displayInt n) : c = '-' ∨ isDigit c = true := by
  cases n with
  | ofNat n => exact .inr ((isDigits_digitsOf n).2 c h)
  | negSucc n => exact (List.mem_cons.mp h).imp_right ((isDigits_digitsOf _).2 c)

theorem displayInt_ne_nil (n : Int) : displayInt n ≠ [] := by
  cases n with
  | ofNat n => exact (isDigits_digitsOf n).1
  | negSucc n => exact List.cons_ne_nil _ _

theorem digitsOf_ne_sign (n : Nat) (ds : List Char) : digitsOf n ≠ '-' :: ds := by
  intro h
  have hsign : '-' ∈ digitsOf n := h ▸ List.mem_cons_self
  exact absurd ((isDigits_digitsOf n).2 '-' hsign) (by decide)

theorem digitsOf_injective : Function.Injective digitsOf :=
  Function.LeftInverse.injective natOf_digitsOf

theorem displayInt_injective : Function.Injective displayInt := by
  intro m n h
  cases m with
  | ofNat m =>
    cases n with
    | ofNat n => rw [digitsOf_injective h]
    | negSucc n => exact absurd h (digitsOf_ne_sign m _)
  | negSucc m =>
    cases n with
    | ofNat n => exact absurd h.symm (digitsOf_ne_sign n _)
    | negSucc n => rw [Nat.succ.inj (digitsOf_injective (List.cons.inj h).2)]

end Verdict.Decimal
