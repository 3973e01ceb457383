import Mathlib.Data.Int.Log
import Verdict.Proofs.Number.Integers

/-!
# The nearest double

A double is the one nearest to each number of its range, since the doubles next to it are twice as far away as its range
reaches (`Canonical.apart`), and of two equally near it is the one with the even mantissa (`nearest_of_within`). Each number
that is more than half the least double is in the range of one (`exists_canonical`), and zero is nearest to the smaller ones
(`nearest_zero`).
-/

namespace Verdict.Binary

open Rounding

/-! ## Numbers of doubles -/

/-- A number with a sign put to it. -/
def withSign (negative : Bool) (x : ℚ) : ℚ := if negative then -x else x

/-- The number that a finite double stands for. -/
def Parts.number (p : Parts) : ℚ := withSign p.negative (p.mantissa * 2 ^ p.exponent)

/-- The parts are those of a double nearest to the number: no finite double is nearer, and if another one is as near, the
mantissa is even. -/
structure Parts.IsNearest (p : Parts) (x : ℚ) : Prop where
  le (y : Float) (p' : Parts) (h : parts? y.toModel.unpack = some p') : |p.number - x| ≤ |p'.number - x|
  even (y : Float) (p' : Parts) (h : parts? y.toModel.unpack = some p') (heq : |p.number - x| = |p'.number - x|) :
    p'.number = p.number ∨ p.mantissa % 2 = 0

/-- The parts of a double: zero, or a mantissa and an exponent that belong together. -/
def Parts.IsProper (p : Parts) : Prop := p.mantissa = 0 ∨ Canonical p.mantissa p.exponent

section signs

variable {p : Parts} {x : ℚ}

theorem withSign_neg (negative : Bool) (x : ℚ) : withSign (!negative) x = -withSign negative x := by
  cases negative
  · rfl
  · exact (neg_neg x).symm

theorem withSign_inj {negative : Bool} {x y : ℚ} : withSign negative x = withSign negative y ↔ x = y := by
  cases negative with
  | false => exact Iff.rfl
  | true => exact neg_inj

theorem abs_withSign_sub (negative : Bool) (x y : ℚ) : |withSign negative x - withSign negative y| = |x - y| := by
  cases negative with
  | false => rfl
  | true => exact (congrArg abs (neg_sub_neg x y)).trans (abs_sub_comm y x)

theorem fits_of_parts {y : Float} (h : parts? y.toModel.unpack = some p) :
    p.mantissa = 0 ∧ p.exponent = 0 ∨ Fits p.mantissa p.exponent := by
  have hproper : Proper y.toModel.unpack := proper_unpack _
  generalize y.toModel.unpack = u at h hproper
  cases u with
  | zero s =>
    cases h
    exact .inl ⟨rfl, rfl⟩
  | finite s m e hm =>
    cases h
    exact .inr hproper
  | infinity s => cases h
  | notANumber => cases h

theorem isProper_of_parts {y : Float} (h : parts? y.toModel.unpack = some p) : p.IsProper :=
  (fits_of_parts h).imp And.left Fits.toCanonical

theorem Parts.isNearest_withSign {m : Nat} {e : Int} (negative : Bool)
    (h : ∀ p : Parts, p.IsProper → |(m * 2 ^ e : ℚ) - x| ≤ |p.number - x| ∧
      (|(m * 2 ^ e : ℚ) - x| = |p.number - x| → p.number = m * 2 ^ e ∨ m % 2 = 0)) :
    Parts.IsNearest ⟨negative, m, e⟩ (withSign negative x) := by
  have hside (p : Parts) : ∃ p' : Parts, (p.IsProper → p'.IsProper) ∧ p.number = withSign negative p'.number := by
    cases negative with
    | false => exact ⟨p, id, rfl⟩
    | true =>
      refine ⟨⟨!p.negative, p.mantissa, p.exponent⟩, id, ?_⟩
      rw [Parts.number, Parts.number, withSign_neg]
      exact (neg_neg _).symm
  constructor
  · intro y p' hp'
    obtain ⟨p, hp, heq⟩ := hside p'
    rw [heq, Parts.number, abs_withSign_sub, abs_withSign_sub]
    exact (h p (hp (isProper_of_parts hp'))).1
  · intro y p' hp' hequal
    obtain ⟨p, hp, heq⟩ := hside p'
    rw [heq, Parts.number, abs_withSign_sub, abs_withSign_sub] at hequal
    rw [heq, Parts.number]
    exact ((h p (hp (isProper_of_parts hp'))).2 hequal).imp (congrArg _) id

end signs

end Verdict.Binary

namespace Verdict.Rounding

open Binary

variable {m m' : Nat} {e e' : Int} {x : ℚ} {p : Parts}

/-! ## Neighbours -/

theorem quarters_eq (m : Nat) (e : Int) : (m * 2 ^ e : ℚ) = 4 * m * 2 ^ (e - 2) := by
  rw [two_zpow_split e (e - 2), show e - (e - 2) = (2 : Nat) by omega, zpow_natCast]
  ring

theorem number_cases (hp : p.IsProper) :
    p.number ≤ 0 ∨ Canonical p.mantissa p.exponent ∧ p.number = p.mantissa * 2 ^ p.exponent := by
  obtain ⟨negative, m, e⟩ := p
  have hpos : (0 : ℚ) ≤ m * 2 ^ e := mul_nonneg m.cast_nonneg (two_zpow_pos e).le
  cases negative with
  | true => exact .inl (neg_nonpos.mpr hpos)
  | false =>
    rcases hp with rfl | hc
    · exact .inl (by simp [Parts.number, withSign])
    · exact .inr ⟨hc, rfl⟩

theorem Canonical.next_le (hc : Canonical m e) (hc' : Canonical m' e') (h : e < e') :
    (4 * m + 4 : ℚ) * 2 ^ (e - 2) ≤ m' * 2 ^ e' := by
  have hm : (m + 1 : ℚ) ≤ 2 ^ 53 := by exact_mod_cast hc.lt
  have hm' : (2 ^ 52 : ℚ) ≤ m' := by
    have hleast := hc.least_le
    exact_mod_cast hc'.normal.resolve_right (by omega)
  have hpow : (8 : ℚ) * 2 ^ (e - 2) ≤ 2 ^ e' := by
    calc (8 : ℚ) * 2 ^ (e - 2) = 2 ^ (e + 1) := by
          rw [two_zpow_split (e + 1) (e - 2), show e + 1 - (e - 2) = (3 : Nat) by omega, zpow_natCast]
          norm_num
      _ ≤ 2 ^ e' := zpow_le_zpow_right₀ (by norm_num) (by omega)
  calc (4 * m + 4 : ℚ) * 2 ^ (e - 2) ≤ 2 ^ 55 * 2 ^ (e - 2) :=
        mul_le_mul_of_nonneg_right (by linarith) (two_zpow_pos _).le
    _ = 2 ^ 52 * (8 * 2 ^ (e - 2)) := by ring
    _ ≤ m' * 2 ^ e' := mul_le_mul hm' hpow (by positivity) (by positivity)

theorem Canonical.le_previous (hc : Canonical m e) (hc' : Canonical m' e') (h : e' < e) :
    (m' * 2 ^ e' : ℚ) ≤ (4 * m - 2 * below m e) * 2 ^ (e - 2) := by
  have hleast := hc'.least_le
  have hm' : (m' + 1 : ℚ) ≤ 2 ^ 53 := by exact_mod_cast hc'.lt
  have hm : 2 ^ 52 ≤ m := hc.normal.resolve_right (by omega)
  have hpow : (2 : ℚ) ^ e' ≤ 2 * 2 ^ (e - 2) := by
    rw [← zpow_one_add₀ (by norm_num)]
    exact zpow_le_zpow_right₀ (by norm_num) (by omega)
  have hbelow : (2 * (2 ^ 53 - 1) : ℚ) ≤ 4 * m - 2 * below m e := by
    unfold below
    split
    · next hpower =>
      rw [hpower.1]
      norm_num
    · next hpower =>
      have hnext : (2 ^ 52 + 1 : ℚ) ≤ m := by
        have : 2 ^ 52 + 1 ≤ m := by omega
        exact_mod_cast this
      push_cast
      linarith
  calc (m' * 2 ^ e' : ℚ) ≤ (2 ^ 53 - 1) * (2 * 2 ^ (e - 2)) :=
        mul_le_mul (by linarith) hpow (two_zpow_pos _).le (by norm_num)
    _ = 2 * (2 ^ 53 - 1) * 2 ^ (e - 2) := by ring
    _ ≤ (4 * m - 2 * below m e) * 2 ^ (e - 2) := mul_le_mul_of_nonneg_right hbelow (two_zpow_pos _).le

/-- **The doubles on either side of one** are twice as far away as its range reaches. -/
theorem Canonical.apart (hc : Canonical m e) (hp : p.IsProper) : p.number = m * 2 ^ e ∨
    (4 * m + 4) * 2 ^ (e - 2) ≤ p.number ∨ p.number ≤ (4 * m - 2 * below m e) * 2 ^ (e - 2) := by
  have hquarter := two_zpow_pos (e - 2)
  have hbelow := below_le_two m e
  rcases number_cases hp with hle | ⟨hc', heq⟩
  · have hm : (1 : ℚ) ≤ m := by exact_mod_cast hc.pos
    exact .inr (.inr (hle.trans (mul_nonneg (by linarith) hquarter.le)))
  rw [heq]
  generalize p.mantissa = m' at hc'
  generalize p.exponent = e' at hc'
  rcases lt_trichotomy e e' with he | rfl | he
  · exact .inr (.inl (hc.next_le hc' he))
  · rw [quarters_eq m' e]
    rcases lt_trichotomy m m' with hm | rfl | hm
    · have hm : (m + 1 : ℚ) ≤ m' := by exact_mod_cast hm
      exact .inr (.inl (mul_le_mul_of_nonneg_right (by linarith) hquarter.le))
    · exact .inl (quarters_eq m e).symm
    · have hm : (m' + 1 : ℚ) ≤ m := by exact_mod_cast hm
      exact .inr (.inr (mul_le_mul_of_nonneg_right (by linarith) hquarter.le))
  · exact .inr (.inr (hc.le_previous hc' he))

theorem Canonical.eq_of_number_eq (hc : Canonical m e) (hc' : Canonical m' e') (h : (m * 2 ^ e : ℚ) = m' * 2 ^ e') :
    m = m' ∧ e = e' := by
  have hlt {m m' : Nat} {e e' : Int} (hc : Canonical m e) (hc' : Canonical m' e') (he : e < e') :
      (m * 2 ^ e : ℚ) < m' * 2 ^ e' := by
    have hnext := hc.next_le hc' he
    rw [quarters_eq m e]
    exact (mul_lt_mul_of_pos_right (by linarith) (two_zpow_pos _)).trans_le hnext
  rcases lt_trichotomy e e' with he | rfl | he
  · exact absurd h (hlt hc hc' he).ne
  · exact ⟨by exact_mod_cast mul_right_cancel₀ (two_zpow_pos e).ne' h, rfl⟩
  · exact absurd h (hlt hc' hc he).ne'

/-! ## Nearest doubles -/

theorem Within.nearest (hc : Canonical m e) (hw : Within m e x) (hp : p.IsProper) :
    |(m * 2 ^ e : ℚ) - x| ≤ |p.number - x| ∧
      (|(m * 2 ^ e : ℚ) - x| = |p.number - x| → p.number = m * 2 ^ e ∨ m % 2 = 0) := by
  have hquarter := two_zpow_pos (e - 2)
  have hbelow := mul_pos (below_pos m e) hquarter
  have hbelow' := mul_le_mul_of_nonneg_right (below_le_two m e) hquarter.le
  have hlow := hw.low
  have hhigh := hw.high
  have htie := hw.tie
  have happart := hc.apart hp
  rw [quarters_eq] at happart ⊢
  rw [sub_mul] at hlow htie
  rw [add_mul] at hhigh htie
  rw [add_mul, sub_mul, mul_assoc 2] at happart
  generalize p.number = z at happart ⊢
  generalize (below m e : ℚ) * 2 ^ (e - 2) = b at *
  generalize (4 * m : ℚ) * 2 ^ (e - 2) = v at *
  generalize (2 : ℚ) ^ (e - 2) = u at *
  rcases happart with rfl | habove | hbelow
  · exact ⟨le_rfl, fun _ => .inl rfl⟩
  · -- At the same distance the number is at the upper end.
    rw [abs_of_nonneg (by linarith : 0 ≤ z - x)]
    refine ⟨abs_le.mpr ⟨by linarith, by linarith⟩, fun heq => .inr (htie (.inr ?_))⟩
    rcases abs_cases (v - x) with ⟨habs, -⟩ | ⟨habs, -⟩ <;> linarith
  · rw [abs_of_nonpos (by linarith : z - x ≤ 0)]
    refine ⟨abs_le.mpr ⟨by linarith, by linarith⟩, fun heq => .inr (htie (.inl ?_))⟩
    rcases abs_cases (v - x) with ⟨habs, -⟩ | ⟨habs, -⟩ <;> linarith

theorem nearest_of_within (hc : Canonical m e) (hw : Within m e x) (negative : Bool) :
    Parts.IsNearest ⟨negative, m, e⟩ (withSign negative x) :=
  Parts.isNearest_withSign negative fun _ hp => hw.nearest hc hp

theorem least_eq : (2 : ℚ) ^ (-1074 : Int) = 2 * 2 ^ (-1075 : Int) := by
  rw [two_zpow_split (-1074) (-1075), show (-1074 - -1075 : Int) = 1 by omega, zpow_one]

theorem least_le (hp : p.IsProper) : p.number ≤ 0 ∨ 2 ^ (-1074 : Int) ≤ p.number := by
  rcases number_cases hp with hle | ⟨hc, heq⟩
  · exact .inl hle
  · have hm : (1 : ℚ) ≤ p.mantissa := by exact_mod_cast hc.pos
    have hpow : (2 : ℚ) ^ (-1074 : Int) ≤ 2 ^ p.exponent := zpow_le_zpow_right₀ (by norm_num) hc.least_le
    exact .inr (heq ▸ hpow.trans (le_mul_of_one_le_left (two_zpow_pos _).le hm))

theorem nearest_zero (hx : 0 ≤ x) (hle : x ≤ 2 ^ (-1075 : Int)) (negative : Bool) :
    Parts.IsNearest ⟨negative, 0, 0⟩ (withSign negative x) := by
  have htwice := least_eq
  refine Parts.isNearest_withSign negative fun p hp => ⟨?_, fun _ => .inr rfl⟩
  rw [Nat.cast_zero, zero_mul, zero_sub, abs_neg, abs_of_nonneg hx]
  rcases least_le hp with hnonpos | hleast
  · rw [abs_of_nonpos (by linarith)]
    linarith
  · rw [abs_of_nonneg (by linarith)]
    linarith

theorem exists_next (hm : m = 0 ∨ Fits m e) (heven : m % 2 = 0) (hc' : Canonical m' e')
    (hlt : (m * 2 ^ e : ℚ) < m' * 2 ^ e') :
    ∃ k d, Fits k d ∧ k % 2 = 1 ∧ (m * 2 ^ e : ℚ) < k * 2 ^ d ∧ (k * 2 ^ d : ℚ) ≤ m' * 2 ^ e' := by
  have hproper : Parts.IsProper ⟨false, m', e'⟩ := .inr hc'
  rcases hm with rfl | hf
  · rw [Nat.cast_zero, zero_mul] at hlt ⊢
    refine ⟨1, -1074, ⟨⟨by decide, by decide, le_rfl, .inr rfl⟩, by decide⟩, rfl, ?_, ?_⟩
    · rw [Nat.cast_one, one_mul]
      exact two_zpow_pos _
    · rw [Nat.cast_one, one_mul]
      exact (least_le hproper).resolve_left (not_le.mpr hlt)
  · have hmost : m + 1 < 2 ^ 53 := by
      have := hf.lt
      omega
    have hnormal : 2 ^ 52 ≤ m + 1 ∨ e = -1074 := hf.normal.imp_left fun h => h.trans (Nat.le_succ m)
    refine ⟨m + 1, e, ⟨⟨Nat.succ_pos m, hmost, hf.least_le, hnormal⟩, hf.le_most⟩, by omega, ?_, ?_⟩
    · exact mul_lt_mul_of_pos_right (by exact_mod_cast Nat.lt_succ_self m) (two_zpow_pos e)
    · have hquarter := two_zpow_pos (e - 2)
      have hbelow := mul_pos (below_pos m e) hquarter
      rw [quarters_eq (m + 1) e]
      rcases hf.toCanonical.apart hproper with heq | habove | hunder
      · exact absurd heq hlt.ne'
      · have habove : (4 * m + 4 : ℚ) * 2 ^ (e - 2) ≤ m' * 2 ^ e' := habove
        push_cast
        linarith
      · have hunder : (m' * 2 ^ e' : ℚ) ≤ (4 * m - 2 * below m e) * 2 ^ (e - 2) := hunder
        rw [quarters_eq m e] at hlt
        linarith

/-! ## Numbers have doubles -/

theorem exists_nears {y : ℚ} (hy : 0 < y) : ∃ q, Nears q y := by
  have hden : (0 : ℚ) < y.den := by exact_mod_cast y.den_pos
  have hnum : ((y.num.toNat : Nat) : ℚ) / y.den = y := by
    rw [← Int.cast_natCast, Int.toNat_of_nonneg (Rat.num_nonneg.mpr hy.le)]
    exact Rat.num_div_den y
  exact ⟨_, hnum ▸ nears_nearestQuotient y.num.toNat y.den_pos⟩

theorem exists_normal {t : Int} (hle : 2 ^ t ≤ x) (hlt : x < 2 ^ (t + 1)) (ht : -1022 ≤ t) :
    ∃ m e, Canonical m e ∧ Within m e x := by
  have hunit := two_zpow_pos (t - 52)
  have hy : x = x / 2 ^ (t - 52) * 2 ^ (t - 52) := (div_mul_cancel₀ _ hunit.ne').symm
  obtain ⟨q, hq⟩ := exists_nears (div_pos ((two_zpow_pos t).trans_le hle) hunit)
  have hleast : 2 ^ 52 ≤ x / 2 ^ (t - 52) := by
    rw [le_div_iff₀ hunit]
    rw [two_zpow_split t (t - 52), show t - (t - 52) = (52 : Nat) by omega, zpow_natCast] at hle
    exact hle
  have hmost : x / 2 ^ (t - 52) < 2 ^ 53 := by
    rw [div_lt_iff₀ hunit]
    rw [two_zpow_split (t + 1) (t - 52), show t + 1 - (t - 52) = (53 : Nat) by omega, zpow_natCast] at hlt
    exact hlt
  have hq53 : q ≤ 2 ^ 53 := by
    have hlow := hq.low
    have : (q : ℚ) < 2 ^ 53 + 1 := by linarith
    exact Nat.le_of_lt_succ (by exact_mod_cast this)
  obtain ⟨m, e, hc, hw, -⟩ := hq.exists_within hleast hq53 (by omega : -1074 ≤ t - 52)
  exact ⟨m, e, hc, hy ▸ hw⟩

theorem exists_subnormal (hx : 2 ^ (-1075 : Int) < x) (hlt : x < 2 ^ (-1022 : Int)) :
    ∃ m e, Canonical m e ∧ Within m e x := by
  have hunit := two_zpow_pos (-1074)
  have hy : x = x / 2 ^ (-1074 : Int) * 2 ^ (-1074 : Int) := (div_mul_cancel₀ _ hunit.ne').symm
  obtain ⟨q, hlow, hhigh, htie⟩ := exists_nears (div_pos ((two_zpow_pos _).trans hx) hunit)
  have hleast : 1 < 2 * (x / 2 ^ (-1074 : Int)) := by
    rw [← mul_div_assoc, one_lt_div hunit, least_eq]
    linarith
  have hmost : x / 2 ^ (-1074 : Int) < 2 ^ 52 := by
    rw [div_lt_iff₀ hunit]
    rwa [two_zpow_split (-1022) (-1074), show (-1022 - -1074 : Int) = (52 : Nat) by omega, zpow_natCast] at hlt
  have hqpos : 0 < q := by
    have : (0 : ℚ) < q := by linarith
    exact_mod_cast this
  have hq53 : q < 2 ^ 53 := by
    have : (q : ℚ) < 2 ^ 53 := by linarith
    exact_mod_cast this
  have hbelow : below q (-1074) = 2 := if_neg fun h => absurd h.2 (lt_irrefl _)
  refine ⟨q, -1074, ⟨hqpos, hq53, le_rfl, .inr rfl⟩, .of_units hy ?_ (by linarith) ?_⟩
  · rw [hbelow, Nat.cast_ofNat]
    linarith
  · rw [hbelow, Nat.cast_ofNat]
    exact fun h => htie (h.imp (fun h => by linarith) fun h => by linarith)

/-- **Each number that is not too small** is in the range of a mantissa and an exponent, be that too great for a double. -/
theorem exists_canonical (hx : 2 ^ (-1075 : Int) < x) : ∃ m e, Canonical m e ∧ Within m e x := by
  rcases le_or_gt (2 ^ (-1022 : Int)) x with hle | hlt
  · have hpos : 0 < x := (two_zpow_pos _).trans hx
    refine exists_normal (Int.zpow_log_le_self (by decide) hpos) (Int.lt_zpow_succ_log_self (by decide) x) ?_
    exact (Int.zpow_le_iff_le_log (b := 2) (by decide) hpos).mp hle
  · exact exists_subnormal hx hlt

end Verdict.Rounding
