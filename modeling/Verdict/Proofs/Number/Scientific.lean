import Verdict.Number.Binary
import Verdict.Proofs.Number.Packing

/-!
# Decimals of doubles

A decimal among the numbers that are rounded to a double is read as that double (`ofScientific_eq`), be it worked out
by a product or by a quotient.
-/

namespace Verdict.Rounding

open Float.Model Float.Model.UnpackedFloat

variable {m n : Nat} {e j : Int} {x : ℚ}

/-! ## The size of the number -/

theorem Within.two_zpow_le (hf : Fits m e) (hw : Within m e x) : (2 : ℚ) ^ (-1075 : Int) ≤ x := by
  have hm : (1 : ℚ) ≤ m := by exact_mod_cast hf.pos
  have hbelow := below_le_two m e
  have hle := hf.least_le
  calc (2 : ℚ) ^ (-1075 : Int) ≤ 2 ^ (e - 1) := zpow_le_zpow_right₀ (by norm_num) (by omega)
    _ = 2 * 2 ^ (e - 2) := by
      rw [two_zpow_split (e - 1) (e - 2), show e - 1 - (e - 2) = 1 by omega, zpow_one]
    _ ≤ (4 * m - below m e) * 2 ^ (e - 2) := mul_le_mul_of_nonneg_right (by linarith) (two_zpow_pos _).le
    _ ≤ x := hw.low

theorem digits_ne_zero (hf : Fits m e) (hw : Within m e (n * 10 ^ j)) : n ≠ 0 := by
  rintro rfl
  have hle := hw.two_zpow_le hf
  have hpos := two_zpow_pos (-1075)
  rw [Nat.cast_zero, zero_mul] at hle
  linarith

theorem exponent_le (hn : n ≠ 0) (hx : (n : ℚ) * 10 ^ j < 2 ^ (1024 : Int)) : j ≤ 2 ^ 11 := by
  by_contra hj
  have hn : (1 : ℚ) ≤ n := by exact_mod_cast Nat.pos_of_ne_zero hn
  have hpow : (2 : ℚ) ^ j ≤ 10 ^ j := zpow_le_zpow_left₀ (by omega) (by norm_num) (by norm_num)
  have hle : (2 : ℚ) ^ j ≤ n * 10 ^ j := hpow.trans (le_mul_of_one_le_left (by positivity) hn)
  have := two_zpow_lt_iff.mp (hle.trans_lt hx)
  omega

theorem le_exponent (hx : (2 : ℚ) ^ (-1075 : Int) ≤ n * 10 ^ j) : -((2 ^ 11 : Int) + n.log2) ≤ j := by
  by_contra hj
  have hn : (n : ℚ) < 2 ^ (n.log2 + 1) := by exact_mod_cast Nat.lt_log2_self
  have hpow : (10 : ℚ) ^ j ≤ 2 ^ j := by
    rw [← inv_le_inv₀ (by positivity) (by positivity), ← zpow_neg, ← zpow_neg]
    exact zpow_le_zpow_left₀ (by omega) (by norm_num) (by norm_num)
  have hlt : (n : ℚ) * 10 ^ j < 2 ^ ((n.log2 : Int) + 1 + j) := by
    rw [zpow_add₀ (by norm_num), ← Nat.cast_succ, zpow_natCast]
    exact mul_lt_mul hn hpow (by positivity) (by positivity)
  have := two_zpow_lt_iff.mp (hx.trans_lt hlt)
  omega

/-! ## Products and quotients -/

/-- The number is worked out to a mantissa that has all bits that are kept, and rounded from that. -/
def RoundedFrom (x : ℚ) (u : UnpackedFloat) : Prop :=
  ∃ q e' acc y, u = roundWithAccuracy Format.binary64 .positive q e' acc ∧ Marks (.ofMantissaAndAccuracy q acc) y ∧
    x = y * 2 ^ e' ∧ e' ≤ Format.binary64.targetExponent (totalExponent q e')

/-- A product has bits to spare, since the digits are put as far to the left as the mantissa is long. -/
theorem mul_rounded (hj : 0 ≤ j) (h₁ : 0 < n <<< 53) (h₂ : 0 < 10 ^ j.toNat) : RoundedFrom (n * 10 ^ j)
    (mul Format.binary64 (.finite .positive (n <<< 53) (-53) h₁) (.finite .positive (10 ^ j.toNat) 0 h₂)) := by
  refine ⟨_, _, _, _, rfl, marks_exact _, ?_, ?_⟩
  · rw [Nat.shiftLeft_eq]
    push_cast
    rw [show (10 : ℚ) ^ j = 10 ^ j.toNat by rw [← zpow_natCast, Int.toNat_of_nonneg hj]]
    norm_num
    ring
  · have hbits : 2 ^ 53 ≤ (n <<< 53) * 10 ^ j.toNat := by
      rw [Nat.shiftLeft_eq] at h₁ ⊢
      have hpow : 0 < n * 10 ^ j.toNat := Nat.mul_pos (by omega) h₂
      calc 2 ^ 53 ≤ (n * 10 ^ j.toNat) * 2 ^ 53 := Nat.le_mul_of_pos_left _ hpow
        _ = n * 2 ^ 53 * 10 ^ j.toNat := by ring
    have hlog := (Nat.le_log2 (by positivity)).mpr hbits
    rw [targetExponent_eq]
    unfold totalExponent
    omega

/-- The exponent that a quotient is worked out at leaves it as many bits as the mantissa has. -/
theorem quotient_bits {d t : Nat} (hd : 0 < d) (hn : 0 < n) (ht : (d.log2 : Int) + 53 ≤ n.log2 + t) :
    52 ≤ ((n <<< t) / d).log2 := by
  have hq : 2 ^ 52 ≤ (n <<< t) / d := by
    rw [Nat.le_div_iff_mul_le hd, Nat.shiftLeft_eq]
    calc 2 ^ 52 * d ≤ 2 ^ 52 * 2 ^ (d.log2 + 1) := Nat.mul_le_mul_left _ Nat.lt_log2_self.le
      _ = 2 ^ (d.log2 + 53) := by rw [← pow_add, show 52 + (d.log2 + 1) = d.log2 + 53 by omega]
      _ ≤ 2 ^ (n.log2 + t) := Nat.pow_le_pow_right (by decide) (by omega)
      _ = 2 ^ n.log2 * 2 ^ t := pow_add ..
      _ ≤ n * 2 ^ t := Nat.mul_le_mul_right _ (Nat.log2_self_le hn.ne')
  exact (Nat.le_log2 (Nat.pos_of_ne_zero fun h0 => by omega).ne').mpr hq

theorem div_rounded {d : Nat} (hd : 0 < d) (hn : 0 < n) : RoundedFrom ((n : ℚ) / d)
    (div Format.binary64 (.finite .positive n 0 hn) (.finite .positive d 0 hd)) := by
  obtain ⟨t, ht⟩ : ∃ t : Int, t = min (0 - 0) (Format.binary64.targetExponent (totalExponent n 0 - totalExponent d 0)) :=
    ⟨_, rfl⟩
  have hcore : divCore Format.binary64 n 0 d 0 = ((n <<< (0 - 0 - t).toNat) / d, t,
      accuracyOfFraction ((n <<< (0 - 0 - t).toNat) % d) d) := by
    rw [ht]
    rfl
  unfold UnpackedFloat.div
  dsimp only
  rw [hcore]
  dsimp only
  rw [targetExponent_eq] at ht
  unfold totalExponent at ht
  refine ⟨_, _, _, _, rfl, marks_quotient _ hd, ?_, ?_⟩
  · have hshift : (2 : ℚ) ^ t * 2 ^ (0 - 0 - t).toNat = 1 := by
      rw [← zpow_natCast, ← zpow_add₀ (by norm_num), show t + ((0 - 0 - t).toNat : Int) = 0 by omega, zpow_zero]
    rw [Nat.shiftLeft_eq]
    push_cast
    calc (n : ℚ) / d = n / d * (2 ^ t * 2 ^ (0 - 0 - t).toNat) := by rw [hshift, mul_one]
      _ = n * 2 ^ (0 - 0 - t).toNat / d * 2 ^ t := by ring
  · rw [targetExponent_eq]
    unfold totalExponent
    by_cases hleast : t ≤ -1074
    · omega
    · have hbits := quotient_bits (t := (0 - 0 - t).toNat) hd hn (by omega)
      omega

theorem ofScientific_rounded (hn : n ≠ 0) (hle : j ≤ 2 ^ 11) (hle' : -((2 ^ 11 : Int) + n.log2) ≤ j) :
    RoundedFrom (n * 10 ^ j) (UnpackedFloat.ofScientific Format.binary64 n j) := by
  unfold UnpackedFloat.ofScientific
  have hhigh : ¬ j > 2 ^ Format.binary64.exponentBits := by
    show ¬ j > 2 ^ 11
    omega
  have hlow : ¬ j < -((2 ^ Format.binary64.exponentBits : Int) + n.log2) := by
    show ¬ j < -((2 ^ 11 : Int) + n.log2)
    omega
  rw [dif_neg hn, if_neg hhigh, if_neg hlow]
  split
  · next hj => exact mul_rounded hj _ _
  · next hj =>
    have hpow : (n : ℚ) * 10 ^ j = n / ((10 ^ (-j).toNat : Nat) : ℚ) := by
      push_cast
      rw [← zpow_natCast, Int.toNat_of_nonneg (by omega), zpow_neg, div_inv_eq_mul]
    rw [hpow]
    exact div_rounded _ _

theorem RoundedFrom.eq_finite {u : UnpackedFloat} (h : RoundedFrom x u) (hc : Canonical m e) (hw : Within m e x) :
    u = .finite .positive m e hc.pos := by
  obtain ⟨q, e', acc, y, rfl, hmarks, hx, he'⟩ := h
  exact roundWithAccuracy_eq hc hw hmarks hx he' .positive

/-- **A decimal that is rounded to a double** is read as that double. -/
theorem ofScientific_eq (hf : Fits m e) (hw : Within m e (n * 10 ^ j)) :
    UnpackedFloat.ofScientific Format.binary64 n j = .finite .positive m e hf.pos := by
  have hne := digits_ne_zero hf hw
  have hmost := hf.le_most
  have hlt := (hw.lt_zpow hf.toCanonical).trans_le (zpow_le_zpow_right₀ (by norm_num) (by omega : 53 + e ≤ 1024))
  exact (ofScientific_rounded hne (exponent_le hne hlt) (le_exponent (hw.two_zpow_le hf))).eq_finite hf.toCanonical hw

/-! ## Decimals are numbers -/

theorem isNaN_neg (u : UnpackedFloat) : u.neg.isNaN = u.isNaN := by
  cases u <;> rfl

theorem isNaN_roundWithAccuracy (f : Format) (s : Sign) (m : Nat) (e : Int) (acc : Accuracy) :
    (roundWithAccuracy f s m e acc).isNaN = false := by
  unfold roundWithAccuracy
  dsimp only
  split <;> rfl

theorem isNaN_ofScientific (n : Nat) (j : Int) :
    (UnpackedFloat.ofScientific Format.binary64 n j).isNaN = false := by
  unfold UnpackedFloat.ofScientific
  split_ifs
  · rfl
  · rfl
  · rfl
  · exact isNaN_roundWithAccuracy ..
  · exact isNaN_roundWithAccuracy ..

theorem isNaN_ofDecimal (negative : Bool) (n : Nat) (j : Int) : (Binary.ofDecimal negative n j).isNaN = false := by
  have hpositive := isNaN_unpack_pack (f := Format.binary64) (isNaN_ofScientific n j)
  unfold Binary.ofDecimal
  dsimp only
  split
  · refine isNaN_unpack_pack (f := Format.binary64) ?_
    show (UnpackedFloat.unpack Format.binary64
      (UnpackedFloat.pack Format.binary64 (UnpackedFloat.ofScientific Format.binary64 n j))).neg.isNaN = false
    rwa [isNaN_neg]
  · exact hpositive

theorem isFinite_of_number {u : UnpackedFloat} (hinf : u.isInf = false) (hnan : u.isNaN = false) : u.isFinite = true := by
  cases u with
  | infinity s => cases hinf
  | notANumber => cases hnan
  | zero s => rfl
  | finite s m e hm => rfl

theorem isNaN_of_isFinite {u : UnpackedFloat} (h : u.isFinite = true) : u.isNaN = false := by
  cases u with
  | notANumber => cases h
  | _ => rfl

theorem not_isFinite_of_isInf {u : UnpackedFloat} (h : u.isInf = true) : ¬ u.isFinite = true := by
  cases u with
  | infinity s => exact nofun
  | _ => cases h

theorem parts?_of_not_finite {u : UnpackedFloat} (hu : ¬ u.isFinite = true) : Binary.parts? u = none := by
  cases u with
  | infinity s => rfl
  | notANumber => rfl
  | zero s => exact absurd rfl hu
  | finite s m e hm => exact absurd rfl hu

theorem isFinite_of {x : Float} (hinf : x.isInf = false) (hnan : x.isNaN = false) : x.isFinite = true :=
  isFinite_of_number hinf hnan

end Verdict.Rounding
