import Verdict.Proofs.Number.Closest
import Verdict.Proofs.Number.Shortest

/-!
# Decimals are rounded

A decimal is read as the double nearest to it, of two equally near as that with the even mantissa, with the sign that is
written and as infinite from half a unit above the greatest double on (`ofDecimal_rounded`). Its digits are worked out to
all bits that are kept, so they are rounded but once. There is no other double of that kind (`isRounded_iff`), since between
two even mantissas there is an odd one.
-/

namespace Verdict.Binary

/-- Half a unit above the greatest double. -/
def overflow : ℚ := 2 ^ (1024 : Int) - 2 ^ (970 : Int)

/-- The double that a number of this sign and this size is rounded to. -/
structure IsRounded (negative : Bool) (size : ℚ) (x : Float) : Prop where
  finite (h : size < overflow) :
    ∃ p, parts? x.toModel.unpack = some p ∧ p.negative = negative ∧ p.IsNearest (withSign negative size)
  infinite (h : overflow ≤ size) : x = infinity negative

end Verdict.Binary

namespace Verdict.Rounding

open Float.Model Float.Model.UnpackedFloat Binary

variable {m n : Nat} {e j : Int} {x : ℚ} {u : UnpackedFloat}

/-! ## Numbers that are too great -/

theorem overflow_eq : overflow = (2 ^ 55 - 2) * 2 ^ (969 : Int) := by
  rw [overflow, two_zpow_split 1024 969, two_zpow_split 970 969, show (1024 - 969 : Int) = (55 : Nat) by omega,
    show (970 - 969 : Int) = 1 by omega, zpow_natCast, zpow_one, sub_mul]

theorem Within.lt_overflow (hf : Fits m e) (hw : Within m e x) : x < overflow := by
  have hquarter := two_zpow_pos (e - 2)
  have hlt : x < (2 ^ 55 - 2) * 2 ^ (e - 2) := by
    rcases (Nat.le_of_lt_succ hf.lt : m ≤ 2 ^ 53 - 1).eq_or_lt with rfl | hm
    · -- The greatest mantissa is odd, so the end of the range does not belong to it.
      refine lt_of_le_of_ne (hw.high.trans_eq ?_) fun heq => ?_
      · norm_num
      · refine absurd (hw.tie (.inr (heq.trans ?_))) (by decide)
        norm_num
    · have hmq : (m + 1 : ℚ) ≤ 2 ^ 53 - 1 := by
        have : m + 2 ≤ 2 ^ 53 := by omega
        have : (m + 2 : ℚ) ≤ 2 ^ 53 := by exact_mod_cast this
        linarith
      exact hw.high.trans_lt (mul_lt_mul_of_pos_right (by linarith) hquarter)
  have hmost := hf.le_most
  rw [overflow_eq]
  refine hlt.trans_le (mul_le_mul_of_nonneg_left (zpow_le_zpow_right₀ (by norm_num) (by omega)) (by norm_num))

theorem Within.overflow_le (hc : Canonical m e) (hw : Within m e x) (he : 972 ≤ e) : overflow ≤ x := by
  have hm : 2 ^ 52 ≤ m := hc.normal.resolve_right (by omega)
  have hlow : (2 ^ 54 - 1 : ℚ) ≤ 4 * m - below m e := by
    unfold below
    split
    · next hpower =>
      rw [hpower.1]
      norm_num
    · next hpower =>
      have hnext : 2 ^ 52 + 1 ≤ m := by omega
      have hnextq : (2 ^ 52 + 1 : ℚ) ≤ m := by exact_mod_cast hnext
      push_cast
      linarith
  calc overflow = (2 ^ 54 - 1) * 2 ^ (970 : Int) := by
        rw [overflow_eq, two_zpow_split 970 969, show (970 - 969 : Int) = 1 by omega, zpow_one]
        ring
    _ ≤ (2 ^ 54 - 1) * 2 ^ (e - 2) :=
        mul_le_mul_of_nonneg_left (zpow_le_zpow_right₀ (by norm_num) (by omega)) (by norm_num)
    _ ≤ (4 * m - below m e) * 2 ^ (e - 2) := mul_le_mul_of_nonneg_right hlow (two_zpow_pos _).le
    _ ≤ x := hw.low

theorem pack_infinite (s : Sign) (hpos : 0 < m) (he : 972 ≤ e) :
    UnpackedFloat.pack Format.binary64 (.finite s m e hpos) = UnpackedFloat.pack Format.binary64 (.infinity s) := by
  unfold UnpackedFloat.pack
  dsimp only
  refine if_pos ?_
  show 2048 ≤ (e + 1023 + 52).toNat + 1
  omega

theorem pack_ofScientific_infinite (h : overflow ≤ n * 10 ^ j) :
    UnpackedFloat.pack Format.binary64 (UnpackedFloat.ofScientific Format.binary64 n j) =
      UnpackedFloat.pack Format.binary64 (.infinity .positive) := by
  have hleast : (2 : ℚ) ^ (-1075 : Int) < n * 10 ^ j := by
    refine lt_of_lt_of_le ?_ h
    rw [overflow_eq]
    calc (2 : ℚ) ^ (-1075 : Int) < 2 ^ (969 : Int) := two_zpow_lt_iff.mpr (by omega)
      _ ≤ (2 ^ 55 - 2) * 2 ^ (969 : Int) := le_mul_of_one_le_left (two_zpow_pos _).le (by norm_num)
  have hn : n ≠ 0 := by
    rintro rfl
    rw [Nat.cast_zero, zero_mul] at hleast
    exact lt_asymm hleast (two_zpow_pos _)
  by_cases hj : j ≤ 2 ^ 11
  · obtain ⟨m, e, hc, hw⟩ := exists_canonical hleast
    rw [(ofScientific_rounded hn hj (le_exponent hleast.le)).eq_finite hc hw]
    refine pack_infinite .positive hc.pos ?_
    by_contra he
    exact absurd (hw.lt_overflow ⟨hc, by omega⟩) (not_lt.mpr h)
  · unfold UnpackedFloat.ofScientific
    rw [dif_neg hn, if_pos (not_le.mp hj)]

/-! ## Numbers that are too small -/

theorem RoundedFrom.eq_zero (h : RoundedFrom x u) (hle : x ≤ 2 ^ (-1075 : Int)) : u = .zero .positive := by
  obtain ⟨q, e', acc, y, rfl, hmarks, hx, he'⟩ := h
  have hq := mantissa_ofMantissaAndAccuracy q acc
  have hy : (q : ℚ) ≤ y := hq ▸ hmarks.mantissa_le
  have ht : Format.binary64.targetExponent (totalExponent q e') = -1074 := by
    rw [targetExponent_eq] at he' ⊢
    unfold totalExponent at he' ⊢
    rcases q.eq_zero_or_pos with rfl | hpos
    · have hlog : Nat.log2 0 = 0 := rfl
      omega
    · have hpow := (le_of_mantissa hpos.ne' hy hx).trans hle
      have hlog : (q.log2 : Int) + e' ≤ -1075 := by
        by_contra hlt
        exact absurd hpow (not_le.mpr (two_zpow_lt_iff.mpr (by omega)))
      omega
  rw [ht] at he'
  have hmarks' := hmarks.shiftRight (-1074 - e').toNat
  rw [units_eq hx he'] at hmarks'
  have hnonneg : 0 ≤ x := hx ▸ mul_nonneg (q.cast_nonneg.trans hy) (two_zpow_pos e').le
  have hnear : Near 0 (x / 2 ^ (-1074 : Int)) := by
    have hpos := two_zpow_pos (-1074)
    have hlow : 0 ≤ x / 2 ^ (-1074 : Int) := div_nonneg hnonneg hpos.le
    have hhigh : 2 * (x / 2 ^ (-1074 : Int)) ≤ 1 := by
      rw [← mul_div_assoc, div_le_one hpos, least_eq]
      linarith
    refine ⟨?_, ?_, fun _ => rfl⟩ <;> rw [Nat.cast_zero] <;> linarith
  unfold roundWithAccuracy
  rw [shiftToTargetExponent_eq acc ht he']
  dsimp only
  rw [hmarks'.roundedMantissa hnear]
  rfl

theorem ofScientific_zero (h : (n : ℚ) * 10 ^ j ≤ 2 ^ (-1075 : Int)) :
    UnpackedFloat.ofScientific Format.binary64 n j = .zero .positive := by
  by_cases hn : n = 0
  · unfold UnpackedFloat.ofScientific
    rw [dif_pos hn]
  · have hj := exponent_le hn (h.trans_lt (two_zpow_lt_iff.mpr (by omega)))
    by_cases hlow : -((2 ^ 11 : Int) + n.log2) ≤ j
    · exact (ofScientific_rounded hn hj hlow).eq_zero h
    · unfold UnpackedFloat.ofScientific
      rw [dif_neg hn, if_neg (not_lt.mpr hj), if_pos (not_le.mp hlow)]

/-! ## Decimals -/

section decimals

variable {v : UnpackedFloat} {p : Parts}

theorem parts_ofDecimal (negative : Bool) (hu : UnpackedFloat.ofScientific Format.binary64 n j = u)
    (hunpack : UnpackedFloat.unpack Format.binary64 (UnpackedFloat.pack Format.binary64 u) = u)
    (hv : v = if negative then u.neg else u)
    (hunpack' : UnpackedFloat.unpack Format.binary64 (UnpackedFloat.pack Format.binary64 v) = v)
    (hp : parts? v = some p) : parts? (ofDecimal negative n j).toModel.unpack = some p := by
  rw [ofDecimal_eq (congrArg _ hu) hunpack hv]
  show parts? (UnpackedFloat.unpack Format.binary64 (UnpackedFloat.pack Format.binary64 v)) = some p
  rw [hunpack', hp]

theorem parts_ofDecimal_zero (h : (n : ℚ) * 10 ^ j ≤ 2 ^ (-1075 : Int)) (negative : Bool) :
    parts? (ofDecimal negative n j).toModel.unpack = some ⟨negative, 0, 0⟩ := by
  cases negative with
  | false => exact parts_ofDecimal false (ofScientific_zero h) (unpack_pack_zero _) rfl (unpack_pack_zero .positive) rfl
  | true => exact parts_ofDecimal true (ofScientific_zero h) (unpack_pack_zero _) rfl (unpack_pack_zero .negative) rfl

theorem parts_ofDecimal_finite (hf : Fits m e) (hw : Within m e (n * 10 ^ j)) (negative : Bool) :
    parts? (ofDecimal negative n j).toModel.unpack = some ⟨negative, m, e⟩ := by
  have hread := ofScientific_eq hf hw
  cases negative with
  | false => exact parts_ofDecimal false hread (unpack_pack _ hf) rfl (unpack_pack .positive hf) rfl
  | true => exact parts_ofDecimal true hread (unpack_pack _ hf) rfl (unpack_pack .negative hf) rfl

theorem ofDecimal_infinite (h : overflow ≤ n * 10 ^ j) (negative : Bool) :
    ofDecimal negative n j = infinity negative := by
  refine ofDecimal_eq (pack_ofScientific_infinite h) ?_ ?_
  · show UnpackedFloat.unpack Format.binary64 (packedInfinity Format.binary64 .positive) = _
    rw [packedInfinity, unpack_packComponents]
    rfl
  · cases negative <;> rfl

/-- **Decimals are rounded correctly**, and once. -/
theorem ofDecimal_rounded (negative : Bool) (n : Nat) (j : Int) :
    IsRounded negative (n * 10 ^ j) (ofDecimal negative n j) := by
  refine ⟨fun hlt => ?_, fun hle => ofDecimal_infinite hle negative⟩
  rcases le_or_gt ((n : ℚ) * 10 ^ j) (2 ^ (-1075 : Int)) with hsmall | hlarge
  · exact ⟨_, parts_ofDecimal_zero hsmall negative, rfl, nearest_zero (by positivity) hsmall negative⟩
  · obtain ⟨m, e, hc, hw⟩ := exists_canonical hlarge
    have hmost : e ≤ 971 := by
      by_contra he
      exact absurd (hw.overflow_le hc (by omega)) (not_le.mpr hlt)
    exact ⟨_, parts_ofDecimal_finite ⟨hc, hmost⟩ hw negative, rfl, nearest_of_within hc hw negative⟩

end decimals

/-! ## One double -/

section unique

variable {m' : Nat} {e' : Int} {y z : Float} {p q : Parts} {negative : Bool} {size : ℚ}

/-- The number that parts are those of. -/
def unpacked (p : Parts) : UnpackedFloat :=
  let s : Sign := if p.negative then .negative else .positive
  if h : 0 < p.mantissa then .finite s p.mantissa p.exponent h else .zero s

theorem eq_unpacked {v : UnpackedFloat} (h : parts? v = some p) : v = unpacked p := by
  cases v with
  | zero s =>
    cases h
    cases s <;> rfl
  | finite s m e hm =>
    cases h
    rw [unpacked, dif_pos hm]
    cases s <;> rfl
  | infinity s => cases h
  | notANumber => cases h

theorem pack_unpack (hy : y.isFinite = true) : (⟨.pack y.toModel.unpack⟩ : Float) = y := by
  rcases unpack_cases (b := y.toModel.toBits.toBitVec) hy with ⟨s, hu, hpack⟩ | ⟨s, m, e, hf, hu, hpack⟩
  · rw [show y.toModel.unpack = _ from hu]
    exact float_eq_of_pack hpack
  · rw [show y.toModel.unpack = _ from hu]
    exact float_eq_of_pack hpack

theorem eq_of_parts (hy : parts? y.toModel.unpack = some p) (hz : parts? z.toModel.unpack = some p) : y = z := by
  have hfinite {x : Float} (hx : parts? x.toModel.unpack = some p) : x.isFinite = true := by
    by_contra hnot
    rw [parts?_of_not_finite hnot] at hx
    cases hx
  rw [← pack_unpack (hfinite hy), ← pack_unpack (hfinite hz), eq_unpacked hy, eq_unpacked hz]

theorem exists_float (hf : Fits m e) (negative : Bool) : ∃ y : Float, parts? y.toModel.unpack = some ⟨negative, m, e⟩ := by
  refine ⟨⟨.pack (.finite (if negative then .negative else .positive) m e hf.pos)⟩, ?_⟩
  show parts? (UnpackedFloat.unpack Format.binary64 (UnpackedFloat.pack Format.binary64 _)) = _
  rw [unpack_pack _ hf]
  cases negative <;> rfl

theorem parts_eq_of_number_eq (hm : m = 0 ∧ e = 0 ∨ Fits m e) (hm' : m' = 0 ∧ e' = 0 ∨ Fits m' e')
    (h : (m * 2 ^ e : ℚ) = m' * 2 ^ e') : m = m' ∧ e = e' := by
  have hpos {m : Nat} {e : Int} (hf : Fits m e) : (0 : ℚ) < m * 2 ^ e :=
    mul_pos (by exact_mod_cast hf.pos) (two_zpow_pos e)
  rcases hm with ⟨rfl, rfl⟩ | hf
  · rcases hm' with ⟨rfl, rfl⟩ | hf'
    · exact ⟨rfl, rfl⟩
    · rw [Nat.cast_zero, zero_mul] at h
      exact absurd h (hpos hf').ne
  · rcases hm' with ⟨rfl, rfl⟩ | hf'
    · rw [Nat.cast_zero, zero_mul] at h
      exact absurd h (hpos hf).ne'
    · exact hf.toCanonical.eq_of_number_eq hf'.toCanonical h

/-- Of two doubles with even mantissas that are as near to a number, neither is nearest: another one lies between. -/
theorem not_lt_of_nearest (hp : Parts.IsNearest ⟨negative, m, e⟩ (withSign negative size))
    (hm : m = 0 ∨ Fits m e) (hm' : m' = 0 ∨ Fits m' e') (heven : m % 2 = 0) (heven' : m' % 2 = 0)
    (hdist : |(m * 2 ^ e : ℚ) - size| = |(m' * 2 ^ e' : ℚ) - size|) : ¬ (m * 2 ^ e : ℚ) < m' * 2 ^ e' := by
  intro hlt
  have hc' : Canonical m' e' := by
    rcases hm' with rfl | hf'
    · have hnonneg : (0 : ℚ) ≤ m * 2 ^ e := mul_nonneg m.cast_nonneg (two_zpow_pos e).le
      rw [Nat.cast_zero, zero_mul] at hlt
      exact absurd hlt (not_lt.mpr hnonneg)
    · exact hf'.toCanonical
  obtain ⟨k, d, hf, hodd, hbelow, hle⟩ := exists_next hm heven hc' hlt
  have habove : (k * 2 ^ d : ℚ) < m' * 2 ^ e' := by
    refine lt_of_le_of_ne hle fun heq => ?_
    obtain ⟨rfl, -⟩ := hf.toCanonical.eq_of_number_eq hc' heq
    omega
  obtain ⟨y, hy⟩ := exists_float hf negative
  have hnear := hp.le y _ hy
  rw [Parts.number, Parts.number, abs_withSign_sub, abs_withSign_sub] at hnear
  dsimp only at hnear
  -- The number is half way between the two, so the one between them is nearer.
  have hmiddle : 2 * size = m * 2 ^ e + m' * 2 ^ e' := by
    rcases abs_eq_abs.mp hdist with heq | heq <;> linarith
  rw [abs_of_neg (by linarith : (m * 2 ^ e : ℚ) - size < 0)] at hnear
  exact absurd hnear (not_le.mpr (abs_lt.mpr ⟨by linarith, by linarith⟩))

/-- **A number is rounded to one double.** -/
theorem eq_of_isRounded (hy : IsRounded negative size y) (hz : IsRounded negative size z) : y = z := by
  rcases le_or_gt overflow size with hle | hlt
  · rw [hy.infinite hle, hz.infinite hle]
  obtain ⟨⟨_, m, e⟩, hyp, rfl, hp⟩ := hy.finite hlt
  obtain ⟨⟨negative, m', e'⟩, hzq, rfl, hq⟩ := hz.finite hlt
  have hm := fits_of_parts hyp
  have hm' := fits_of_parts hzq
  have hdist := le_antisymm (hp.le z _ hzq) (hq.le y _ hyp)
  have heven := hp.even z _ hzq hdist
  have heven' := hq.even y _ hyp hdist.symm
  simp only [Parts.number, withSign_inj, abs_withSign_sub] at hm hm' hdist heven heven'
  by_cases hnumber : (m * 2 ^ e : ℚ) = m' * 2 ^ e'
  · obtain ⟨rfl, rfl⟩ := parts_eq_of_number_eq hm hm' hnumber
    exact eq_of_parts hyp hzq
  · have heven := heven.resolve_left (Ne.symm hnumber)
    have heven' := heven'.resolve_left hnumber
    have hm := hm.imp_left And.left
    have hm' := hm'.imp_left And.left
    rcases lt_or_gt_of_ne hnumber with h | h
    · exact absurd h (not_lt_of_nearest hp hm hm' heven heven' hdist)
    · exact absurd h (not_lt_of_nearest hq hm' hm heven' heven hdist.symm)

theorem isRounded_iff (negative : Bool) (n : Nat) (j : Int) :
    IsRounded negative (n * 10 ^ j) y ↔ y = ofDecimal negative n j := by
  refine ⟨fun h => eq_of_isRounded h (ofDecimal_rounded negative n j), ?_⟩
  rintro rfl
  exact ofDecimal_rounded negative n j

end unique

end Verdict.Rounding
