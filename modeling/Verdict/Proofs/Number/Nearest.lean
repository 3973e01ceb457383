import Verdict.Proofs.Number.Integers

/-!
# The number of an integer's double

What an integer is as a double is again an integer, that with 53 bits which is nearest to it (`Binary.nearest`). Integers
compare as doubles as these numbers do (`position_lt_iff`), so rounding can be spoken of without doubles.
-/

namespace Verdict.Binary

open Float.Model Rounding

section naturals

variable {a b n : Nat}

theorem position_natCast_lt_iff (ha : a < 2 ^ 100) (hb : b < 2 ^ 100) :
    position a < position b ↔ nearestNat a < nearestNat b := by
  have hzero : position (0 : Nat) = 0 := rfl
  rcases b.eq_zero_or_pos with rfl | hb0
  · refine iff_of_false (not_lt.mpr ?_) (Nat.not_lt_zero _)
    exact hzero ▸ position_nonneg ha
  obtain ⟨m', e', hf', hw', hvalue'⟩ := exists_nearest hb0 hb
  rw [position_natCast hf' hw' hb0.ne']
  rcases a.eq_zero_or_pos with rfl | ha0
  · rw [hzero]
    exact iff_of_true hf'.place_pos (nearestNat_pos hb0 hb)
  obtain ⟨m, e, hf, hw, hvalue⟩ := exists_nearest ha0 ha
  rw [position_natCast hf hw ha0.ne', ← Nat.cast_lt (α := ℚ), hvalue, hvalue']
  constructor
  · exact (within_self m e).lt_of_place_lt hf hf' (within_self m' e')
  · intro hlt
    by_contra hle
    rcases (not_lt.mp hle).eq_or_lt with heq | hgt
    · obtain ⟨rfl, rfl⟩ := hf'.eq_of_place_eq hf heq
      exact lt_irrefl _ hlt
    · exact lt_asymm hlt ((within_self m' e').lt_of_place_lt hf' hf (within_self m e) hgt)

theorem position_nearestNat (hn : n < 2 ^ 100) : position (nearestNat n) = position n := by
  rcases n.eq_zero_or_pos with rfl | hpos
  · rfl
  obtain ⟨m, e, hf, hw, hvalue⟩ := exists_nearest hpos hn
  have hself : Within m e (nearestNat n) := hvalue ▸ within_self m e
  rw [position_natCast hf hself (nearestNat_pos hpos hn).ne', position_natCast hf hw hpos.ne']

/-- Digits are read as the double that an integer is converted to. -/
theorem rank_ofDecimal (hpos : 0 < n) (hn : n < 2 ^ 100) : rank (ofDecimal false n 0) = some (position n) := by
  obtain ⟨m, e, hf, hw⟩ := exists_double hpos hn
  have hread : UnpackedFloat.ofScientific Format.binary64 n 0 = .finite .positive m e hf.pos :=
    ofScientific_eq hf (by rwa [zpow_zero, mul_one])
  rw [position_natCast hf hw hpos.ne']
  exact rankOf_pack hf hread

end naturals

variable {a b n : Int}

/-- The number of the double that an integer is rounded to. -/
def nearest (n : Int) : Int := n.sign * nearestNat n.natAbs

@[simp] theorem nearest_natCast (n : Nat) : nearest n = nearestNat n := by
  rcases n.eq_zero_or_pos with rfl | hpos
  · rfl
  · rw [nearest, Int.sign_natCast_of_ne_zero hpos.ne', Int.natAbs_natCast, one_mul]

@[simp] theorem nearest_neg (n : Int) : nearest (-n) = -nearest n := by
  rw [nearest, nearest, Int.sign_neg, Int.natAbs_neg, neg_mul]

/-- **Doubles of integers are in the order of their numbers.** -/
theorem position_lt_iff (ha : a.natAbs < 2 ^ 100) (hb : b.natAbs < 2 ^ 100) :
    position a < position b ↔ nearest a < nearest b := by
  have side {k : Nat} (hk : k < 2 ^ 100) : 0 < position k ↔ 0 < nearestNat k :=
    position_natCast_lt_iff (a := 0) (by decide) hk
  obtain ⟨j, hj⟩ := a.eq_nat_or_neg
  obtain ⟨k, hk⟩ := b.eq_nat_or_neg
  have hj100 : j < 2 ^ 100 := by omega
  have hk100 : k < 2 ^ 100 := by omega
  have hup := position_natCast_lt_iff hj100 hk100
  have hdown := position_natCast_lt_iff hk100 hj100
  have hjpos := side hj100
  have hkpos := side hk100
  have hj0 := position_nonneg hj100
  have hk0 := position_nonneg hk100
  rcases hj with rfl | rfl
  · rcases hk with rfl | rfl
    · rw [nearest_natCast, nearest_natCast]
      omega
    · rw [position_neg hk100, nearest_neg, nearest_natCast, nearest_natCast]
      omega
  · rcases hk with rfl | rfl
    · rw [position_neg hj100, nearest_neg, nearest_natCast, nearest_natCast]
      omega
    · rw [position_neg hj100, position_neg hk100, nearest_neg, nearest_neg, nearest_natCast, nearest_natCast]
      omega

theorem position_eq_iff (ha : a.natAbs < 2 ^ 100) (hb : b.natAbs < 2 ^ 100) :
    position a = position b ↔ nearest a = nearest b := by
  have hup := position_lt_iff ha hb
  have hdown := position_lt_iff hb ha
  omega

example : nearest 9007199254740993 = 9007199254740992 := by decide

end Verdict.Binary
