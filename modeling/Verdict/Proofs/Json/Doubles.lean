import Verdict.Proofs.Json.Numerals
import Verdict.Proofs.Number.Magnitude
import Verdict.Proofs.Number.Scientific

/-!
# The floating-point numbers of numerals

The double of a numeral is finite (`isFinite_of_value?`): one that would be infinite is refused, and the steps in which
a number is scaled down stay far below what is infinite. The single of a numeral may be infinite, but it is a number
(`isNaN_toFloat32`).
-/

namespace Verdict

open Rounding Float.Model Float.Model.UnpackedFloat

/-! ## Operations on finite doubles -/

theorem Rounding.AtMost.isNaN_mul {u v : UnpackedFloat} {k k' : Int} (hu : AtMost k u) (hv : AtMost k' v) :
    (UnpackedFloat.mul Format.binary64 u v).isNaN = false := by
  cases u with
  | infinity s => exact hu.elim
  | notANumber => exact hu.elim
  | zero s =>
    cases v with
    | infinity s' => exact hv.elim
    | notANumber => exact hv.elim
    | zero s' => rfl
    | finite s' m' e' hm' => rfl
  | finite s m e hm =>
    cases v with
    | infinity s' => exact hv.elim
    | notANumber => exact hv.elim
    | zero s' => rfl
    | finite s' m' e' hm' => exact isNaN_roundWithAccuracy ..

namespace Binary

variable {x y : Float}

theorem isNaN_mul (hx : x.isFinite = true) (hy : y.isFinite = true) : (x * y).isNaN = false :=
  isNaN_unpack_pack (f := Format.binary64) ((atMost_of_isFinite hx).isNaN_mul (atMost_of_isFinite hy))

/-! ## Singles -/

theorem isNaN_convert {u : UnpackedFloat} (hu : u.isNaN = false) (f : Format) : (convert f u).isNaN = false := by
  cases u with
  | finite s m e hm => exact isNaN_roundWithAccuracy ..
  | _ => exact hu

/-- Narrowing gives a number for every number, if perhaps an infinite one. -/
theorem isNaN_narrow (hx : x.isNaN = false) : (narrow x).isNaN = false :=
  isNaN_unpack_pack (f := Format.binary32) (isNaN_convert hx .binary32)

theorem isNaN_ofInt32 (n : Int) : (ofInt32 n).isNaN = false := by
  refine isNaN_unpack_pack (f := Format.binary32) ?_
  show (UnpackedFloat.normalize Format.binary32 n 0 .positive).isNaN = false
  unfold UnpackedFloat.normalize
  split
  · exact isNaN_roundWithAccuracy ..
  · rfl
  · exact isNaN_roundWithAccuracy ..

end Binary

/-! ## Powers of ten -/

namespace Json.Numeral

open Binary

theorem toModel_powerOfTen {e : Nat} (he : e ≤ maxPower) : (powerOfTen e).toModel =
    .pack (roundWithAccuracy Format.binary64 .positive (1 <<< 53 * 10 ^ e) (-53 + 0) .exact) := by
  have hhigh : ¬ (e : Int) > 2 ^ Format.binary64.exponentBits := by
    show ¬ (e : Int) > 2 ^ 11
    unfold maxPower at he
    omega
  have hlow : ¬ (e : Int) < -((2 ^ Format.binary64.exponentBits : Int) + Nat.log2 1) := by
    show ¬ (e : Int) < -((2 ^ 11 : Int) + 0)
    omega
  show Float.Model.pack (UnpackedFloat.ofScientific Format.binary64 1 e) = _
  unfold UnpackedFloat.ofScientific
  rw [dif_neg (by decide), if_neg hhigh, if_neg hlow, if_pos (Int.natCast_nonneg e)]
  rfl

/-- The powers of ten that a number is multiplied or divided by are finite and not less than one. -/
theorem isDivisor_powerOfTen {e : Nat} (he : e ≤ maxPower) : IsDivisor (powerOfTen e).toModel.unpack := by
  rcases he.lt_or_eq with h | rfl
  · have hpos : 10 ^ e ≠ 0 := by positivity
    have hlog : (10 ^ e).log2 < 1023 := by
      refine (Nat.log2_lt hpos).mpr ?_
      calc 10 ^ e ≤ 10 ^ 307 := Nat.pow_le_pow_right (by decide) (Nat.le_of_lt_succ h)
        _ < 2 ^ 1023 := by decide +kernel
    have hbits : (1 <<< 53 * 10 ^ e).log2 = (10 ^ e).log2 + 53 := by
      rw [Nat.shiftLeft_eq, one_mul, mul_comm, ← Nat.shiftLeft_eq, log2_shiftLeft hpos]
    rw [toModel_powerOfTen he]
    have hne : 1 <<< 53 * 10 ^ e ≠ 0 := Nat.mul_ne_zero (by decide) hpos
    refine isDivisor_rounded hne ?_ ?_ (by omega) ?_ _ _ <;> rw [hbits] <;> omega
  · decide +kernel

/-! ## Numerals -/

variable {x : Float}

theorem absorb_le {n : Nat} (hn : n ≤ maxDigits) (ds : List Char) : (absorb n ds).1 ≤ maxDigits := by
  induction ds generalizing n with
  | nil => exact hn
  | cons d ds ih =>
    rw [absorb]
    split
    · next hle => exact ih hle
    · exact hn

theorem atMost_scaleDown {fuel e : Nat} {k : Int} (hx : AtMost k x.toModel.unpack) (hleast : -1074 ≤ k)
    (hmost : k + fuel ≤ 971) : AtMost (k + fuel) (scaleDown fuel x e).toModel.unpack := by
  induction fuel generalizing x e k with
  | zero => exact hx.mono (by omega)
  | succ fuel ih =>
    rw [scaleDown]
    split
    · next he => exact (atMost_div hx (isDivisor_powerOfTen he) hleast (by omega)).mono (by omega)
    · split
      · exact hx.mono (by omega)
      · have hstep := atMost_div hx (isDivisor_powerOfTen (le_refl maxPower)) hleast (by omega)
        exact (ih hstep (by omega) (by omega)).mono (by omega)

theorem isFinite_of_scale? {n : Nat} {e : Int} (hn : n ≤ maxDigits) (h : scale? n e = some x) : x.isFinite = true := by
  have hdigits : AtMost 12 (Binary.ofInt n).toModel.unpack := atMost_ofInt (Nat.lt_succ_of_le hn)
  unfold scale? at h
  dsimp only at h
  split at h
  · cases h
    have hmost : (12 : Int) + (4 : Nat) ≤ 971 := by decide
    exact isFinite_of_atMost (atMost_scaleDown hdigits (by decide) hmost)
  · split at h
    · next he =>
      split at h
      · cases h
      · next hinf =>
        cases h
        have hpower := isFinite_of_isDivisor (isDivisor_powerOfTen he)
        exact isFinite_of (Bool.eq_false_of_not_eq_true hinf) (isNaN_mul (isFinite_of_atMost hdigits) hpower)
    · split at h
      · cases h
        exact isFinite_of_atMost hdigits
      · cases h

theorem isFinite_of_float? {n : Numeral} (h : n.float? = some x) : x.isFinite = true := by
  unfold float? at h
  dsimp only at h
  obtain ⟨y, hy, rfl⟩ := Option.map_eq_some_iff.mp h
  have hfinite := isFinite_of_scale? (absorb_le (absorb_le (Nat.zero_le _) _) _) hy
  split
  · exact isFinite_neg hfinite
  · exact hfinite

/-- **The double of a numeral is finite.** -/
theorem isFinite_of_value? {n : Numeral} {w : Number} (h : n.value? = some w) : w.toFloat.isFinite = true := by
  have hfloat (h : n.float?.map Number.float = some w) : w.toFloat.isFinite = true := by
    obtain ⟨y, hy, rfl⟩ := Option.map_eq_some_iff.mp h
    exact isFinite_of_float? hy
  have hneg {m : Nat} (hm : m ≤ maxDigits) : (-Binary.ofInt m).isFinite = true :=
    isFinite_neg (isFinite_of_atMost (atMost_ofInt (Nat.lt_succ_of_le hm)))
  unfold value? at h
  dsimp only at h
  split at h
  · split at h
    · cases h
      exact hneg (Nat.zero_le _)
    · split at h
      · next i hi =>
        cases h
        exact isFinite_of_atMost (atMost_ofInt (by have := i.min_le; have := i.lt_max; omega))
      · split at h
        · next hle =>
          cases h
          exact hneg (of_decide_eq_true (Bool.and_eq_true_iff.mp hle).2)
        · exact hfloat h
  · exact hfloat h

end Json.Numeral

theorem Json.Numeral.isNaN_toFloat32 {n : Numeral} {w : Number} (h : n.value? = some w) : w.toFloat32.isNaN = false := by
  have hfinite := isFinite_of_value? h
  cases w with
  | int i => exact Binary.isNaN_ofInt32 i.val
  | float x => exact Binary.isNaN_narrow (isNaN_of_isFinite hfinite)

end Verdict
