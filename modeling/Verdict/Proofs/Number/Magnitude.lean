import Verdict.Proofs.Number.Integers

/-!
# How great a double can be

A result is infinite only if its exponent is too great, and rounding makes the exponent greater by one at most. So
integers of 64 bits are finite doubles, finite singles are widened to finite doubles, and a number that is divided by
one that is not less than one stays finite; `AtMost` bounds the exponent through such operations. A number that is not
less than one is rounded to such a divisor (`isDivisor_rounded`).
-/

namespace Verdict.Rounding

open Float.Model Float.Model.UnpackedFloat

/-- A finite number with a mantissa of a double and an exponent that is not greater. -/
def AtMost (k : Int) : UnpackedFloat → Prop
  | .zero _ => True
  | .finite _ m e _ => m < 2 ^ 53 ∧ e ≤ k
  | .infinity _ | .notANumber => False

theorem AtMost.mono {u : UnpackedFloat} {k k' : Int} (h : AtMost k u) (hk : k ≤ k') : AtMost k' u := by
  cases u with
  | zero s => exact trivial
  | finite s m e hm => exact ⟨h.1, h.2.trans hk⟩
  | infinity s => exact h.elim
  | notANumber => exact h.elim

theorem AtMost.neg {u : UnpackedFloat} {k : Int} (h : AtMost k u) : AtMost k u.neg := by
  cases u with
  | zero s => exact trivial
  | finite s m e hm => exact h
  | infinity s => exact h.elim
  | notANumber => exact h.elim

/-! ## Rounding -/

theorem mantissa_shiftRight (em : ExtendedMantissa) (k : Nat) : (em >>> k).mantissa = em.mantissa / 2 ^ k := by
  induction k with
  | zero => exact (Nat.div_one _).symm
  | succ k ih =>
    show (em >>> k).mantissa / 2 = _
    rw [ih, Nat.div_div_eq_div_mul, pow_succ]

theorem roundedMantissa_le (em : ExtendedMantissa) : em.roundedMantissa ≤ em.mantissa + 1 := by
  obtain ⟨m, r, s⟩ := em
  have hmod := Nat.mod_lt m (show 0 < 2 by decide)
  cases r <;> cases s <;>
    simp only [ExtendedMantissa.roundedMantissa, ExtendedMantissa.accuracy, Accuracy.roundToNearestEven] <;> omega

section shift

variable (m : Nat) (e : Int) (acc : Accuracy)

theorem exponent_shiftToTargetExponent : (shiftToTargetExponent Format.binary64 m e acc).2 =
    max e (Format.binary64.targetExponent (totalExponent m e)) := by
  unfold shiftToTargetExponent shiftToExponent
  dsimp only
  omega

theorem mantissa_shiftToTargetExponent : (shiftToTargetExponent Format.binary64 m e acc).1.mantissa < 2 ^ 53 := by
  unfold shiftToTargetExponent shiftToExponent
  dsimp only
  rw [mantissa_shiftRight, mantissa_ofMantissaAndAccuracy, Nat.div_lt_iff_lt_mul (by positivity), ← pow_add]
  refine Nat.lt_log2_self.trans_le (Nat.pow_le_pow_right (by decide) ?_)
  rw [targetExponent_eq, totalExponent]
  omega

end shift

theorem atMost_roundWithAccuracy {k : Int} {m : Nat} {e : Int} (he : e ≤ k)
    (ht : Format.binary64.targetExponent (totalExponent m e) ≤ k) (s : Sign) (acc : Accuracy) :
    AtMost (k + 1) (roundWithAccuracy Format.binary64 s m e acc) := by
  have hexponent := exponent_shiftToTargetExponent m e acc
  have hmantissa := mantissa_shiftToTargetExponent m e acc
  have hleast : -1074 ≤ Format.binary64.targetExponent (totalExponent m e) := by
    rw [targetExponent_eq]
    exact le_max_right ..
  unfold roundWithAccuracy
  generalize shiftToTargetExponent Format.binary64 m e acc = shifted at hexponent hmantissa ⊢
  obtain ⟨em, e₁⟩ := shifted
  dsimp only at hexponent hmantissa ⊢
  have hrounded := roundedMantissa_le em
  have hexponent' := exponent_shiftToTargetExponent em.roundedMantissa e₁ .exact
  have hmantissa' := mantissa_shiftToTargetExponent em.roundedMantissa e₁ .exact
  have hlog : em.roundedMantissa.log2 ≤ 53 := by
    by_cases h0 : em.roundedMantissa = 0
    · rw [h0]
      decide
    · exact Nat.le_of_lt_succ ((Nat.log2_lt h0).mpr (by omega))
  rw [targetExponent_eq, totalExponent] at hexponent'
  split
  · exact trivial
  · refine ⟨hmantissa', ?_⟩
    rw [hexponent']
    omega

theorem atMost_round {k : Int} {m : Nat} {e : Int} (hm : m ≠ 0) (hleast : -1074 ≤ k) (he : e ≤ k)
    (ht : (m.log2 : Int) + e ≤ k + 52) (s : Sign) : AtMost (k + 1) (UnpackedFloat.round Format.binary64 s m e) := by
  unfold UnpackedFloat.round decreaseExponent
  dsimp only
  refine atMost_roundWithAccuracy (by omega) ?_ s _
  rw [targetExponent_eq, targetExponent_eq, totalExponent, totalExponent, log2_shiftLeft hm]
  omega

/-! ## Words -/

/-- What is packed with such an exponent is unpacked with one that is not greater, unless it is the least. -/
theorem atMost_packComponents {k : Int} (s : Sign) {e : BitVec 11} (he : e.toNat ≠ 2047) (m : BitVec 52)
    (hk : (e.toNat : Int) - 1075 ≤ k) (hleast : -1074 ≤ k) :
    AtMost k (UnpackedFloat.unpack Format.binary64 (packComponents Format.binary64 s e m)) := by
  have hones : e ≠ -1#11 := fun h => he (by rw [h]; decide)
  have hm := m.isLt
  rw [unpack_packComponents, if_neg hones]
  split
  · next h0 =>
    split
    · exact trivial
    · refine ⟨by omega, ?_⟩
      rw [h0]
      exact hleast
  · refine ⟨?_, hk⟩
    rw [toNat_implicit]
    show 2 ^ 52 + m.toNat < 2 ^ 53
    omega

/-- **A number with an exponent of a double stays finite** when it is packed. -/
theorem AtMost.unpack_pack {u : UnpackedFloat} {k : Int} (h : AtMost k u) (hleast : -1074 ≤ k) (hmost : k ≤ 971) :
    AtMost k (UnpackedFloat.unpack Format.binary64 (UnpackedFloat.pack Format.binary64 u)) := by
  have hzero : (0#11).toNat ≠ 2047 := by decide
  cases u with
  | infinity s => exact h.elim
  | notANumber => exact h.elim
  | zero s => exact atMost_packComponents s hzero 0 (by show (0 : Int) - 1075 ≤ k; omega) hleast
  | finite s m e hm =>
    obtain ⟨-, he⟩ := h
    have hbias : e + (Format.exponentBias Format.binary64 : Int) + (Format.binary64.mantissaBitsWithoutImplicit : Int) =
        e + 1075 := by
      show e + 1023 + 52 = e + 1075
      omega
    have hfits : ¬ 2 ^ Format.binary64.exponentBits ≤ (e + 1075).toNat + 1 := by
      show ¬ 2048 ≤ (e + 1075).toNat + 1
      omega
    unfold UnpackedFloat.pack
    dsimp only
    rw [hbias, if_neg hfits]
    split
    · have hexp : (BitVec.ofNat 11 (e + 1075).toNat).toNat = (e + 1075).toNat := by
        rw [BitVec.toNat_ofNat, Nat.mod_eq_of_lt (by omega)]
      refine atMost_packComponents s ?_ _ ?_ hleast
      · show (BitVec.ofNat 11 (e + 1075).toNat).toNat ≠ 2047
        omega
      · show ((BitVec.ofNat 11 (e + 1075).toNat).toNat : Int) - 1075 ≤ k
        omega
    · exact atMost_packComponents s hzero _ (by show (0 : Int) - 1075 ≤ k; omega) hleast

theorem bounds_of_unpack_single {b : BitVec Format.binary32.numBits} {s : Sign} {m : Nat} {e : Int} {hm : 0 < m}
    (h : UnpackedFloat.unpack Format.binary32 b = .finite s m e hm) : m < 2 ^ 24 ∧ e ≤ 104 := by
  rw [← packComponents_unpack b, unpack_packComponents] at h
  generalize unpackExponent b = exponent at h
  generalize unpackMantissa b = mantissa at h
  have hmantissa : mantissa.toNat < 2 ^ 23 := mantissa.isLt
  have hexponent : exponent.toNat < 256 := exponent.isLt
  by_cases hones : exponent = -1#_
  · rw [if_pos hones] at h
    split at h <;> cases h
  · have hne : exponent.toNat ≠ 255 := fun heq => hones (BitVec.eq_of_toNat_eq (heq.trans (by decide)))
    rw [if_neg hones] at h
    split at h
    · next hzero =>
      split at h
      · cases h
      · cases h
        rw [hzero]
        exact ⟨by omega, by decide⟩
    · cases h
      rw [toNat_implicit]
      refine ⟨by show 2 ^ 23 + mantissa.toNat < _; omega, ?_⟩
      show (exponent.toNat : Int) - (127 + 23) ≤ 104
      omega

/-! ## Quotients -/

theorem log2_quotient {m d t : Nat} (hm : 0 < m) (hd : 0 < d) (hq : (m <<< t) / d ≠ 0) :
    ((m <<< t) / d).log2 + d.log2 ≤ m.log2 + t := by
  have hlt : 2 ^ (((m <<< t) / d).log2 + d.log2) < 2 ^ (m.log2 + t + 1) :=
    calc 2 ^ (((m <<< t) / d).log2 + d.log2) = 2 ^ ((m <<< t) / d).log2 * 2 ^ d.log2 := pow_add ..
      _ ≤ (m <<< t) / d * d := Nat.mul_le_mul (Nat.log2_self_le hq) (Nat.log2_self_le hd.ne')
      _ ≤ m <<< t := Nat.div_mul_le_self ..
      _ < 2 ^ ((m <<< t).log2 + 1) := Nat.lt_log2_self
      _ = 2 ^ (m.log2 + t + 1) := by rw [log2_shiftLeft hm.ne']
  exact Nat.le_of_lt_succ ((Nat.pow_lt_pow_iff_right (by decide)).mp hlt)

/-- A number that is not less than one, whatever its sign. -/
inductive IsDivisor : UnpackedFloat → Prop
  | finite {s : Sign} {m : Nat} {e : Int} {hm : 0 < m} (h : 0 ≤ (m.log2 : Int) + e) : IsDivisor (.finite s m e hm)

instance (u : UnpackedFloat) : Decidable (IsDivisor u) :=
  match u with
  | .finite _ m e _ => decidable_of_iff (0 ≤ (m.log2 : Int) + e) ⟨.finite, fun | .finite h => h⟩
  | .zero _ | .infinity _ | .notANumber => .isFalse nofun

theorem AtMost.div {u v : UnpackedFloat} {k : Int} (hu : AtMost k u) (hv : IsDivisor v) (hleast : -1074 ≤ k) :
    AtMost (k + 1) (UnpackedFloat.div Format.binary64 u v) := by
  cases hv with
  | @finite s' d e' hd hv =>
    cases u with
    | infinity s => exact hu.elim
    | notANumber => exact hu.elim
    | zero s => exact trivial
    | finite s m e hm =>
      obtain ⟨hlt, he⟩ := hu
      have hlog : m.log2 < 53 := (Nat.log2_lt hm.ne').mpr hlt
      unfold UnpackedFloat.div divCore
      dsimp only
      generalize ht : min (e - e') (Format.binary64.targetExponent (totalExponent m e - totalExponent d e')) = t
      rw [targetExponent_eq, totalExponent, totalExponent] at ht
      refine atMost_roundWithAccuracy (by omega) ?_ _ _
      rw [targetExponent_eq, totalExponent]
      by_cases hq : (m <<< (e - e' - t).toNat) / d = 0
      · rw [hq]
        have hzero : Nat.log2 0 = 0 := rfl
        omega
      · have hle := log2_quotient hm hd hq
        omega

/-! ## Numbers that are not less than one -/

theorem le_roundedMantissa (em : ExtendedMantissa) : em.mantissa ≤ em.roundedMantissa := by
  obtain ⟨m, r, s⟩ := em
  cases r <;> cases s <;>
    simp only [ExtendedMantissa.roundedMantissa, ExtendedMantissa.accuracy, Accuracy.roundToNearestEven] <;> omega

section bits

variable {m : Nat} {e : Int}

theorem le_mantissa_shiftToTargetExponent (hm : m ≠ 0) (hone : 0 ≤ (m.log2 : Int) + e) (hbits : 52 ≤ m.log2)
    (acc : Accuracy) : 2 ^ 52 ≤ (shiftToTargetExponent Format.binary64 m e acc).1.mantissa := by
  unfold shiftToTargetExponent shiftToExponent
  dsimp only
  rw [mantissa_shiftRight, mantissa_ofMantissaAndAccuracy, Nat.le_div_iff_mul_le (by positivity), ← pow_add]
  refine (Nat.pow_le_pow_right (by decide) ?_).trans (Nat.log2_self_le hm)
  rw [targetExponent_eq, totalExponent]
  omega

theorem roundWithAccuracy_bits (hm : m ≠ 0) (hone : 0 ≤ (m.log2 : Int) + e) (hbits : 52 ≤ m.log2) (s : Sign)
    (acc : Accuracy) :
    ∃ m' e' hpos, roundWithAccuracy Format.binary64 s m e acc = .finite s m' e' hpos ∧ 2 ^ 52 ≤ m' ∧ -52 ≤ e' := by
  have hexponent := exponent_shiftToTargetExponent m e acc
  have hmantissa := le_mantissa_shiftToTargetExponent hm hone hbits acc
  unfold roundWithAccuracy
  generalize shiftToTargetExponent Format.binary64 m e acc = shifted at hexponent hmantissa ⊢
  obtain ⟨em, e₁⟩ := shifted
  dsimp only at hexponent hmantissa ⊢
  have hrounded : 2 ^ 52 ≤ em.roundedMantissa := hmantissa.trans (le_roundedMantissa em)
  have hpos : em.roundedMantissa ≠ 0 := by omega
  have hlog : 52 ≤ em.roundedMantissa.log2 := (Nat.le_log2 hpos).mpr hrounded
  have hexponent' := exponent_shiftToTargetExponent em.roundedMantissa e₁ .exact
  rw [targetExponent_eq, totalExponent] at hexponent
  have hleast : -52 ≤ e₁ := by omega
  have hmantissa' := le_mantissa_shiftToTargetExponent (e := e₁) hpos (by omega) hlog .exact
  refine ⟨_, _, ?_, dif_neg ?_, hmantissa', ?_⟩ <;> omega

/-- **A number that is not less than one** is rounded to one that is not, if it is not too great. -/
theorem isDivisor_rounded (hm : m ≠ 0) (hone : 0 ≤ (m.log2 : Int) + e) (hbits : 52 ≤ m.log2) (he : e ≤ 970)
    (hmost : (m.log2 : Int) + e < 1023) (s : Sign) (acc : Accuracy) :
    IsDivisor (UnpackedFloat.unpack Format.binary64
      (UnpackedFloat.pack Format.binary64 (roundWithAccuracy Format.binary64 s m e acc))) := by
  obtain ⟨m', e', hpos, heq, hm', he'⟩ := roundWithAccuracy_bits hm hone hbits s acc
  have hatMost : AtMost (970 + 1) (roundWithAccuracy Format.binary64 s m e acc) := by
    refine atMost_roundWithAccuracy he ?_ s acc
    rw [targetExponent_eq, totalExponent]
    omega
  rw [heq] at hatMost ⊢
  obtain ⟨hlt, hle⟩ := hatMost
  have hf : Fits m' e' := ⟨⟨hpos, hlt, by omega, .inl hm'⟩, hle⟩
  have hlog : 52 ≤ m'.log2 := (Nat.le_log2 hpos.ne').mpr hm'
  rw [unpack_pack s hf]
  exact .finite (by omega)

end bits

end Verdict.Rounding

namespace Verdict.Binary

open Verdict.Rounding Float.Model Float.Model.UnpackedFloat

variable {x y : Float} {k : Int}

theorem isFinite_of_atMost (h : AtMost k x.toModel.unpack) : x.isFinite = true := by
  unfold Float.isFinite Float.Model.isFinite
  generalize x.toModel.unpack = u at h ⊢
  cases u with
  | zero s => rfl
  | finite s m e hm => rfl
  | infinity s => exact h.elim
  | notANumber => exact h.elim

theorem atMost_of_isFinite (hx : x.isFinite = true) : AtMost 971 x.toModel.unpack := by
  rcases unpack_cases hx with ⟨s, hunpack, -⟩ | ⟨s, m, e, hf, hunpack, -⟩
  · rw [show x.toModel.unpack = .zero s from hunpack]
    exact trivial
  · rw [show x.toModel.unpack = .finite s m e hf.pos from hunpack]
    exact ⟨hf.lt, hf.le_most⟩

theorem isFinite_neg (hx : x.isFinite = true) : (-x).isFinite = true :=
  isFinite_of_atMost ((atMost_of_isFinite hx).neg.unpack_pack (by decide) (by decide))

theorem isFinite_of_isDivisor (h : IsDivisor x.toModel.unpack) : x.isFinite = true := by
  unfold Float.isFinite Float.Model.isFinite
  generalize x.toModel.unpack = u at h ⊢
  cases h with
  | finite => rfl

theorem atMost_div (hx : AtMost k x.toModel.unpack) (hy : IsDivisor y.toModel.unpack) (hleast : -1074 ≤ k)
    (hmost : k < 971) : AtMost (k + 1) (x / y).toModel.unpack :=
  (hx.div hy hleast).unpack_pack (by omega) (by omega)

theorem atMost_ofInt {n : Int} (hn : n.natAbs < 2 ^ 64) : AtMost 12 (ofInt n).toModel.unpack := by
  have hround (s : Sign) {m : Nat} (hpos : 0 < m) (hm : m < 2 ^ 64) : AtMost 12 (UnpackedFloat.round Format.binary64 s m 0) := by
    have hlog : m.log2 < 64 := (Nat.log2_lt hpos.ne').mpr hm
    exact atMost_round (k := 11) hpos.ne' (by omega) (by omega) (by omega) s
  refine AtMost.unpack_pack (k := 12) ?_ (by omega) (by omega)
  show AtMost 12 (UnpackedFloat.normalize Format.binary64 n 0 .positive)
  unfold UnpackedFloat.normalize
  rcases Int.lt_trichotomy n 0 with h | rfl | h
  · rw [Int.compare_eq_lt.mpr h]
    exact hround .negative (by omega) (by omega)
  · exact trivial
  · rw [Int.compare_eq_gt.mpr h]
    exact hround .positive (by omega) (by omega)

theorem isFinite_widen (x : Float32) : (widen x).isFinite = x.isFinite := by
  have hwiden : (widen x).toModel.unpack = UnpackedFloat.unpack Format.binary64
      (UnpackedFloat.pack Format.binary64 (convert Format.binary64 x.toModel.unpack)) := rfl
  have hfinite {u : UnpackedFloat} {k : Int} (hu : x.toModel.unpack = u) (hk : AtMost k (convert Format.binary64 u))
      (hleast : -1074 ≤ k) (hmost : k ≤ 971) : (widen x).isFinite = true := by
    refine isFinite_of_atMost (k := k) ?_
    rw [hwiden, hu]
    exact hk.unpack_pack hleast hmost
  show (widen x).isFinite = x.toModel.unpack.isFinite
  cases hu : x.toModel.unpack with
  | zero s => exact hfinite (k := 0) hu trivial (by decide) (by decide)
  | finite s m e hm =>
    obtain ⟨hlt, hle⟩ := bounds_of_unpack_single hu
    have hlog : m.log2 < 24 := (Nat.log2_lt hm.ne').mpr hlt
    exact hfinite hu (atMost_round (k := 104) hm.ne' (by decide) hle (by omega) s) (by decide) (by decide)
  | infinity s =>
    show (widen x).toModel.unpack.isFinite = false
    rw [hwiden, hu]
    cases s <;> rfl
  | notANumber =>
    show (widen x).toModel.unpack.isFinite = false
    rw [hwiden, hu]
    rfl

end Verdict.Binary
