import Mathlib.Algebra.Order.Field.Rat
import Mathlib.Algebra.Order.Field.Power
import Mathlib.Data.Rat.Cast.Order
import Mathlib.Tactic.Linarith
import Mathlib.Tactic.Ring
import Mathlib.Tactic.Positivity
import Mathlib.Tactic.NormNum

/-!
# Rounding to double width

A rational number that lies among those that a double stands for is rounded to that double
(`roundWithAccuracy_eq`). What rounding goes by is a mantissa with two more bits, which say where in its half unit
the number lies (`Marks`).
-/

namespace Verdict.Rounding

open Float.Model Float.Model.UnpackedFloat

/-! ## The two bits after the mantissa -/

/-- The mantissa and the bit after it, in half units. -/
def halves (em : ExtendedMantissa) : Nat := 2 * em.mantissa + em.roundBit.toNat

/-- The mantissa and its bits say in which half unit the number lies, and whether it is the lower end of that. -/
structure Marks (em : ExtendedMantissa) (y : ℚ) : Prop where
  le : (halves em : ℚ) ≤ 2 * y
  lt : 2 * y < halves em + 1
  exact_iff : em.stickyBit = false ↔ 2 * y = halves em

theorem Marks.mantissa_le {em : ExtendedMantissa} {y : ℚ} (h : Marks em y) : (em.mantissa : ℚ) ≤ y := by
  have hle := h.le
  have hn : 2 * em.mantissa ≤ halves em := Nat.le_add_right _ _
  have hq : (2 * em.mantissa : ℚ) ≤ halves em := by exact_mod_cast hn
  linarith

theorem Marks.lt_mantissa {em : ExtendedMantissa} {y : ℚ} (h : Marks em y) : y < em.mantissa + 1 := by
  have hlt := h.lt
  have hn : halves em ≤ 2 * em.mantissa + 1 := by
    have := Bool.toNat_le em.roundBit
    unfold halves
    omega
  have hq : (halves em : ℚ) ≤ 2 * em.mantissa + 1 := by exact_mod_cast hn
  linarith

theorem Marks.shiftRightOne {em : ExtendedMantissa} {y : ℚ} (h : Marks em y) : Marks em.shiftRightOne (y / 2) := by
  have hhalves : halves em.shiftRightOne = em.mantissa := by
    have hbit : (em.mantissa % 2 != 0).toNat = em.mantissa % 2 := by
      rcases Nat.mod_two_eq_zero_or_one em.mantissa with h0 | h0 <;> rw [h0] <;> rfl
    unfold halves ExtendedMantissa.shiftRightOne
    dsimp only
    rw [hbit]
    exact Nat.div_add_mod _ _
  have htwo : 2 * (y / 2) = y := by ring
  refine ⟨?_, ?_, ?_⟩
  · rw [hhalves, htwo]
    exact h.mantissa_le
  · rw [hhalves, htwo]
    exact h.lt_mantissa
  · rw [hhalves, htwo]
    have hbits : em.shiftRightOne.stickyBit = false ↔ em.roundBit = false ∧ em.stickyBit = false := by
      simp [ExtendedMantissa.shiftRightOne]
    rw [hbits, h.exact_iff]
    have hle := h.le
    unfold halves at hle ⊢
    constructor
    · rintro ⟨hround, heq⟩
      rw [hround] at heq
      push_cast [Bool.toNat_false] at heq
      linarith
    · rintro rfl
      cases hround : em.roundBit with
      | false =>
        refine ⟨rfl, ?_⟩
        push_cast [Bool.toNat_false]
        ring
      | true =>
        rw [hround] at hle
        push_cast [Bool.toNat_true] at hle
        linarith

theorem Marks.shiftRight {em : ExtendedMantissa} {y : ℚ} (h : Marks em y) (k : Nat) :
    Marks (em >>> k) (y / 2 ^ k) := by
  induction k with
  | zero =>
    rw [pow_zero, div_one]
    exact h
  | succ k ih =>
    have hstep := ih.shiftRightOne
    rw [div_div, ← pow_succ] at hstep
    exact hstep

/-- The numbers that are nearer to `n` than to any other integer, and those half a unit away if `n` is even. -/
structure Near (n : Nat) (y : ℚ) : Prop where
  low : 2 * (n : ℚ) - 1 ≤ 2 * y
  high : 2 * y ≤ 2 * n + 1
  tie : 2 * (n : ℚ) - 1 = 2 * y ∨ 2 * y = 2 * n + 1 → n % 2 = 0

theorem Marks.roundedMantissa {em : ExtendedMantissa} {y : ℚ} {n : Nat} (h : Marks em y) (hn : Near n y) :
    em.roundedMantissa = n := by
  obtain ⟨hle, hlt, hexact⟩ := h
  obtain ⟨hlow, hhigh, htie⟩ := hn
  obtain ⟨m, r, s⟩ := em
  unfold halves at hle hlt hexact
  have hlower : 2 * n ≤ 2 * m + r.toNat + 1 := by
    have hq : (2 * n : ℚ) < ((2 * m + r.toNat : Nat) : ℚ) + 1 + 1 := by linarith
    have : 2 * n < 2 * m + r.toNat + 1 + 1 := by exact_mod_cast hq
    omega
  have hupper : 2 * m + r.toNat ≤ 2 * n + 1 := by
    have hq : ((2 * m + r.toNat : Nat) : ℚ) ≤ 2 * n + 1 := by linarith
    exact_mod_cast hq
  cases r with
  | false =>
    -- No half unit more, so the mantissa is the nearest integer already.
    have hm : m = n := by simp only [Bool.toNat_false] at hlower hupper; omega
    cases s <;> exact hm
  | true =>
    simp only [Bool.toNat_true] at hlower hupper hexact hle hlt
    cases s with
    | true =>
      have hne : m ≠ n := by
        rintro rfl
        have heq : 2 * y = ((2 * m + 1 : Nat) : ℚ) := by
          push_cast at hle ⊢
          linarith
        exact absurd (hexact.mpr heq) (by decide)
      show m + 1 = n
      omega
    | false =>
      have heq := hexact.mp rfl
      push_cast at heq
      show m + m % 2 = n
      rcases (by omega : n = m ∨ n = m + 1) with rfl | rfl
      · have := htie (.inr heq)
        omega
      · have := htie (.inl (by push_cast; linarith))
        omega

theorem mantissa_ofMantissaAndAccuracy (m : Nat) (acc : Accuracy) :
    (ExtendedMantissa.ofMantissaAndAccuracy m acc).mantissa = m := by
  cases acc with
  | exact => rfl
  | inexact o => cases o <;> rfl

theorem marks_exact (m : Nat) : Marks (.ofMantissaAndAccuracy m .exact) m where
  le := by simp [halves, ExtendedMantissa.ofMantissaAndAccuracy]
  lt := by simp [halves, ExtendedMantissa.ofMantissaAndAccuracy]
  exact_iff := by simp [halves, ExtendedMantissa.ofMantissaAndAccuracy]

/-- A quotient of integers, marked by its whole part and by what its remainder says. -/
theorem marks_quotient (a : Nat) {b : Nat} (hb : 0 < b) :
    Marks (.ofMantissaAndAccuracy (a / b) (accuracyOfFraction (a % b) b)) ((a : ℚ) / b) := by
  have hbq : (0 : ℚ) < b := by exact_mod_cast hb
  have hdiv : (a : ℚ) / b = (a / b : Nat) + ((a % b : Nat) : ℚ) / b := by
    have hq : (a : ℚ) = b * (a / b : Nat) + (a % b : Nat) := by exact_mod_cast (Nat.div_add_mod a b).symm
    rw [hq, add_div, mul_div_cancel_left₀ _ hbq.ne']
  have hr : a % b < b := Nat.mod_lt _ hb
  rw [hdiv]
  generalize a / b = q
  generalize a % b = r at hr
  have hfrac : 2 * ((q : ℚ) + r / b) = 2 * q + 2 * r / b := by ring
  have hrq : (r : ℚ) < b := by exact_mod_cast hr
  have hlt : (2 : ℚ) * r / b < 2 := by
    rw [div_lt_iff₀ hbq]
    linarith
  unfold accuracyOfFraction
  split
  · next h0 =>
    subst h0
    have h := marks_exact q
    simpa using h
  · next h0 =>
    have hpos : (0 : ℚ) < 2 * r / b := by
      have : (0 : ℚ) < r := by exact_mod_cast Nat.pos_of_ne_zero h0
      positivity
    have hcompare : compare (2 * r) b = compare (2 * (r : ℚ) / b) 1 := by
      rcases Nat.lt_trichotomy (2 * r) b with h | h | h
      · rw [Nat.compare_eq_lt.mpr h, eq_comm, compare_lt_iff_lt, div_lt_one hbq]
        exact_mod_cast h
      · rw [Nat.compare_eq_eq.mpr h, eq_comm, compare_eq_iff_eq, div_eq_one_iff_eq hbq.ne']
        exact_mod_cast h
      · rw [Nat.compare_eq_gt.mpr h, eq_comm, compare_gt_iff_gt, one_lt_div hbq]
        exact_mod_cast h
    rw [hcompare]
    generalize (2 : ℚ) * r / b = f at hpos hlt hfrac
    rcases lt_trichotomy f 1 with h | h | h
    · rw [compare_lt_iff_lt.mpr h]
      refine ⟨?_, ?_, ?_⟩ <;> simp [halves, ExtendedMantissa.ofMantissaAndAccuracy, hfrac, hpos.le, h, hpos.ne']
    · rw [compare_eq_iff_eq.mpr h]
      refine ⟨?_, ?_, ?_⟩ <;> simp [halves, ExtendedMantissa.ofMantissaAndAccuracy, hfrac, h]
    · rw [compare_gt_iff_gt.mpr h]
      refine ⟨?_, ?_, ?_⟩ <;> simp [halves, ExtendedMantissa.ofMantissaAndAccuracy, hfrac, h.le, h.ne']
      linarith

/-! ## Doubles -/

/-- The mantissa and the exponent of a double: the mantissa is as long as it can be, unless the exponent is the least. -/
structure Canonical (m : Nat) (e : Int) : Prop where
  pos : 0 < m
  lt : m < 2 ^ 53
  least_le : -1074 ≤ e
  normal : 2 ^ 52 ≤ m ∨ e = -1074

/-- How far the numbers that are rounded to a double go below it, in quarters of a unit: below a power of two the
doubles lie closer. -/
def below (m : Nat) (e : Int) : Nat := if m = 2 ^ 52 ∧ -1074 < e then 1 else 2

/-- The numbers that are rounded to a double, as a range around it. -/
structure Within (m : Nat) (e : Int) (x : ℚ) : Prop where
  low : (4 * m - below m e : ℚ) * 2 ^ (e - 2) ≤ x
  high : x ≤ (4 * m + 2) * 2 ^ (e - 2)
  tie : x = (4 * m - below m e : ℚ) * 2 ^ (e - 2) ∨ x = (4 * m + 2) * 2 ^ (e - 2) → m % 2 = 0

theorem two_zpow_pos (e : Int) : (0 : ℚ) < 2 ^ e := zpow_pos (by norm_num) e

theorem two_zpow_split (e e' : Int) : (2 : ℚ) ^ e = 2 ^ (e - e') * 2 ^ e' := by
  rw [← zpow_add₀ (by norm_num)]
  congr 1
  omega

theorem two_zpow_lt_iff {e e' : Int} : (2 : ℚ) ^ e < 2 ^ e' ↔ e < e' := zpow_lt_zpow_iff_right₀ (by norm_num)

theorem units_eq {x y : ℚ} {e e' : Int} (hx : x = y * 2 ^ e') (h : e' ≤ e) : y / 2 ^ (e - e').toNat = x / 2 ^ e := by
  rw [hx, two_zpow_split e e', ← zpow_natCast, Int.toNat_of_nonneg (by omega),
    mul_div_mul_right _ _ (two_zpow_pos e').ne']

theorem targetExponent_eq (t : Int) : Format.binary64.targetExponent t = max (t - 53) (-1074) := rfl

theorem log2_canonical {m : Nat} {e : Int} (h : Canonical m e) :
    Format.binary64.targetExponent (totalExponent m e) = e := by
  have hm : m ≠ 0 := h.pos.ne'
  have hlt : m.log2 < 53 := (Nat.log2_lt hm).mpr h.lt
  have hle := h.least_le
  rw [targetExponent_eq]
  unfold totalExponent
  rcases h.normal with hn | rfl
  · have : 52 ≤ m.log2 := (Nat.le_log2 hm).mpr hn
    omega
  · omega

variable {m q : Nat} {e e' : Int} {x y : ℚ}

theorem lt_of_mantissa (hy : y < q + 1) (hx : x = y * 2 ^ e') : x < 2 ^ (q.log2 + 1 + e') := by
  have hq : (q : ℚ) + 1 ≤ 2 ^ (q.log2 + 1) := by exact_mod_cast Nat.lt_log2_self
  have hpow : (2 : ℚ) ^ ((q.log2 : Int) + 1 + e') = 2 ^ (q.log2 + 1) * 2 ^ e' := by
    rw [zpow_add₀ (by norm_num), ← zpow_natCast]
    push_cast
    rfl
  rw [hx, hpow]
  exact mul_lt_mul_of_pos_right (lt_of_lt_of_le hy hq) (two_zpow_pos e')

theorem le_of_mantissa (hq : q ≠ 0) (hy : (q : ℚ) ≤ y) (hx : x = y * 2 ^ e') : 2 ^ (q.log2 + e') ≤ x := by
  have hle : (2 : ℚ) ^ q.log2 ≤ q := by exact_mod_cast Nat.log2_self_le hq
  rw [hx, zpow_add₀ (by norm_num), zpow_natCast]
  exact mul_le_mul_of_nonneg_right (hle.trans hy) (two_zpow_pos e').le

theorem below_le_two (m : Nat) (e : Int) : (below m e : ℚ) ≤ 2 := by
  unfold below
  split <;> norm_num

theorem Within.quarters_lt (hw : Within m e x) {t : Int} {n : Nat} (hx : x < 2 ^ t) (ht : t = n + (e - 2)) :
    4 * m < 2 ^ n + 2 := by
  have hlow := hw.low
  rw [ht, zpow_add₀ (by norm_num), zpow_natCast] at hx
  have hquarter := two_zpow_pos (e - 2)
  have h : (4 * m - below m e : ℚ) < 2 ^ n := lt_of_mul_lt_mul_right (hlow.trans_lt hx) hquarter.le
  have hbelow := below_le_two m e
  have hq : (4 * m : ℚ) < 2 ^ n + 2 := by linarith
  exact_mod_cast hq

theorem Within.lt_zpow (hc : Canonical m e) (hw : Within m e x) : x < 2 ^ (53 + e) := by
  have hm : (4 * m + 2 : ℚ) < 2 ^ 55 := by
    have h : 4 * m + 2 < 2 ^ 55 := by have := hc.lt; omega
    exact_mod_cast h
  calc x ≤ (4 * m + 2) * 2 ^ (e - 2) := hw.high
    _ < 2 ^ 55 * 2 ^ (e - 2) := mul_lt_mul_of_pos_right hm (two_zpow_pos _)
    _ = 2 ^ (53 + e) := by
      rw [two_zpow_split (53 + e) (e - 2), show 53 + e - (e - 2) = (55 : Nat) by omega, zpow_natCast]

/-- The exponent that a number of the range is rounded at is that of the double, or the one before it at the lower
end of a power of two. -/
theorem target_of_within (hc : Canonical m e) (hw : Within m e x) (hle : (q : ℚ) ≤ y) (hlt : y < q + 1)
    (hx : x = y * 2 ^ e') (he' : e' ≤ Format.binary64.targetExponent (totalExponent q e')) :
    Format.binary64.targetExponent (totalExponent q e') = e ∨
      Format.binary64.targetExponent (totalExponent q e') = e - 1 ∧ m = 2 ^ 52 ∧ -1074 < e ∧ x < 2 ^ (52 + e) := by
  have hxlt := lt_of_mantissa hlt hx
  have hleast := hc.least_le
  have hnormal := hc.normal
  rw [targetExponent_eq] at he' ⊢
  unfold totalExponent at he' ⊢
  have hupper : (q.log2 : Int) + e' < 53 + e := by
    by_cases hq : q = 0
    · subst hq
      have : Nat.log2 0 = 0 := rfl
      omega
    · exact two_zpow_lt_iff.mp ((le_of_mantissa hq hle hx).trans_lt (hw.lt_zpow hc))
  by_cases heq : max ((q.log2 : Int) + 1 + e' - 53) (-1074) = e
  · exact .inl heq
  · have hlow : (q.log2 : Int) + 1 + e' ≤ 52 + e := by omega
    have hxlow : x < 2 ^ (52 + e) :=
      hxlt.trans_le (zpow_le_zpow_right₀ (by norm_num) hlow)
    have hm := hw.quarters_lt hxlow (n := 54) (by omega)
    -- A whole exponent lower there is no number of the range.
    have hnot : ¬ (q.log2 : Int) + 1 + e' ≤ 51 + e := by
      intro hlower
      have hm' := hw.quarters_lt (hxlt.trans_le (zpow_le_zpow_right₀ (by norm_num) hlower)) (n := 53) (by omega)
      omega
    exact .inr ⟨by omega, by omega, by omega, hxlow⟩

theorem Within.quarters (hw : Within m e x) : ∃ z : ℚ, x = z * 2 ^ (e - 2) ∧ 4 * m - below m e ≤ z ∧ z ≤ 4 * m + 2 ∧
    (z = 4 * m - below m e ∨ z = 4 * m + 2 → m % 2 = 0) := by
  have hquarter := two_zpow_pos (e - 2)
  have hz : x = x / 2 ^ (e - 2) * 2 ^ (e - 2) := (div_mul_cancel₀ _ hquarter.ne').symm
  refine ⟨x / 2 ^ (e - 2), hz, (le_div_iff₀ hquarter).mpr hw.low, (div_le_iff₀ hquarter).mpr hw.high, ?_⟩
  rintro (h | h)
  · exact hw.tie (.inl (h ▸ hz))
  · exact hw.tie (.inr (h ▸ hz))

theorem Within.near (hw : Within m e x) : Near m (x / 2 ^ e) := by
  obtain ⟨z, rfl, hlow, hhigh, htie⟩ := hw.quarters
  have hbelow := below_le_two m e
  have hz : z * 2 ^ (e - 2) / 2 ^ e = z / 4 := by
    rw [two_zpow_split e (e - 2), show e - (e - 2) = (2 : Nat) by omega, zpow_natCast,
      mul_div_mul_right _ _ (two_zpow_pos _).ne']
    norm_num
  rw [hz]
  refine ⟨by linarith, by linarith, ?_⟩
  rintro (h | h)
  · exact htie (.inl (by linarith))
  · exact htie (.inr (by linarith))

/-- Just below a power of two a number is nearest to that power, in the smaller units that it is rounded to there. -/
theorem Within.near_power (hw : Within m e x) (hm : m = 2 ^ 52) (he : -1074 < e) (hx : x < 2 ^ (52 + e)) :
    Near (2 ^ 53) (x / 2 ^ (e - 1)) := by
  obtain ⟨z, rfl, hlow, -⟩ := hw.quarters
  have hquarter := two_zpow_pos (e - 2)
  have hbelow : below m e = 1 := if_pos ⟨hm, he⟩
  have hz : z * 2 ^ (e - 2) / 2 ^ (e - 1) = z / 2 := by
    rw [two_zpow_split (e - 1) (e - 2), show e - 1 - (e - 2) = (1 : Nat) by omega, zpow_natCast,
      mul_div_mul_right _ _ hquarter.ne', pow_one]
  have hzlt : z < 2 ^ 54 := by
    rw [two_zpow_split (52 + e) (e - 2), show 52 + e - (e - 2) = (54 : Nat) by omega, zpow_natCast] at hx
    exact lt_of_mul_lt_mul_right hx hquarter.le
  rw [hbelow, hm] at hlow
  push_cast at hlow
  rw [hz]
  refine ⟨?_, ?_, fun _ => by decide⟩ <;> push_cast <;> linarith

theorem shiftToTargetExponent_eq {q : Nat} {e' t : Int} (acc : Accuracy)
    (ht : Format.binary64.targetExponent (totalExponent q e') = t) (he' : e' ≤ t) :
    shiftToTargetExponent Format.binary64 q e' acc =
      (ExtendedMantissa.ofMantissaAndAccuracy q acc >>> (t - e').toNat, t) := by
  unfold shiftToTargetExponent shiftToExponent
  rw [ht]
  dsimp only
  congr 1
  omega

theorem roundWithAccuracy_of {f : Format} {s : Sign} {q n m : Nat} {e' t e : Int} {acc : Accuracy}
    {em em' : ExtendedMantissa} (h₁ : shiftToTargetExponent f q e' acc = (em, t)) (hn : em.roundedMantissa = n)
    (h₂ : shiftToTargetExponent f n t .exact = (em', e)) (hm : em'.mantissa = m) (hpos : 0 < m) :
    roundWithAccuracy f s q e' acc = .finite s m e hpos := by
  unfold roundWithAccuracy
  rw [h₁]
  dsimp only
  rw [hn, h₂]
  subst hm
  exact dif_neg hpos.ne'

/-- **A number of the range is rounded to its double**, whatever mantissa and exponent it comes with, as long as
none of the bits that are kept has been dropped already. -/
theorem roundWithAccuracy_eq (hc : Canonical m e) (hw : Within m e x) {acc : Accuracy}
    (hy : Marks (.ofMantissaAndAccuracy q acc) y) (hx : x = y * 2 ^ e')
    (he' : e' ≤ Format.binary64.targetExponent (totalExponent q e')) (s : Sign) :
    roundWithAccuracy Format.binary64 s q e' acc = .finite s m e hc.pos := by
  have hq := mantissa_ofMantissaAndAccuracy q acc
  have hle : (q : ℚ) ≤ y := hq ▸ hy.mantissa_le
  have hlt : y < q + 1 := hq ▸ hy.lt_mantissa
  rcases target_of_within hc hw hle hlt hx he' with ht | ⟨ht, hm, he, hxlt⟩
  · rw [ht] at he'
    have hmarks := hy.shiftRight (e - e').toNat
    rw [units_eq hx he'] at hmarks
    have hfinal := shiftToTargetExponent_eq .exact (log2_canonical hc) (le_refl e)
    refine roundWithAccuracy_of (shiftToTargetExponent_eq acc ht he') (hmarks.roundedMantissa hw.near) hfinal ?_ hc.pos
    rw [Int.sub_self]
    rfl
  · rw [ht] at he'
    have hmarks := hy.shiftRight (e - 1 - e').toNat
    rw [units_eq hx he'] at hmarks
    have htarget : Format.binary64.targetExponent (totalExponent (2 ^ 53) (e - 1)) = e := by
      rw [targetExponent_eq]
      unfold totalExponent
      rw [Nat.log2_two_pow]
      omega
    have hfinal := shiftToTargetExponent_eq .exact htarget (by omega)
    refine roundWithAccuracy_of (shiftToTargetExponent_eq acc ht he')
      (hmarks.roundedMantissa (hw.near_power hm he hxlt)) hfinal ?_ hc.pos
    rw [show (e - (e - 1)).toNat = 1 by omega, hm]
    rfl

end Verdict.Rounding
