import Verdict.Proofs.Number.Order

/-!
# Integers as doubles

An integer is rounded to the double nearest to it, which is found on integers alone (`exists_nearest`). A greater integer
is never rounded to a smaller double (`position_mono`), and as long as integers need no more bits than a mantissa has,
different ones are different doubles (`position_lt`). Beyond that two integers can be one double.
-/

namespace Verdict

open Float.Model Float.Model.UnpackedFloat

namespace Rounding

variable {m m' n : Nat} {e e' : Int} {x x' y : ℚ}

/-! ## The ranges of two doubles -/

theorem below_pos (m : Nat) (e : Int) : (0 : ℚ) < below m e := by
  unfold below
  split <;> norm_num

theorem Within.of_units (hx : x = y * 2 ^ e) (hlow : 4 * m - below m e ≤ 4 * y) (hhigh : 4 * y ≤ 4 * m + 2)
    (htie : 4 * y = 4 * m - below m e ∨ 4 * y = 4 * m + 2 → m % 2 = 0) : Within m e x := by
  have hquarter := two_zpow_pos (e - 2)
  have hx' : x = 4 * y * 2 ^ (e - 2) := by
    rw [hx, two_zpow_split e (e - 2), show e - (e - 2) = (2 : Nat) by omega, zpow_natCast]
    ring
  refine ⟨?_, ?_, ?_⟩
  · rw [hx']
    exact mul_le_mul_of_nonneg_right hlow hquarter.le
  · rw [hx']
    exact mul_le_mul_of_nonneg_right hhigh hquarter.le
  · rw [hx', mul_left_inj' hquarter.ne', mul_left_inj' hquarter.ne']
    exact htie

theorem within_self (m : Nat) (e : Int) : Within m e (m * 2 ^ e) := by
  have hbelow := below_pos m e
  refine .of_units rfl (by linarith) (by linarith) ?_
  rintro (h | h) <;> linarith

theorem Within.lt_of_place_lt (hf : Fits m e) (hf' : Fits m' e') (hw : Within m e x) (hw' : Within m' e' x')
    (hplace : place m e < place m' e') : x < x' := by
  obtain ⟨z, rfl, -, hz, htie⟩ := hw.quarters
  obtain ⟨z', rfl, hz', -, htie'⟩ := hw'.quarters
  have hlt := hf.lt
  have hlt' := hf'.lt
  have hbelow := below_le_two m' e'
  have hquarter := two_zpow_pos (e - 2)
  unfold place at hplace
  by_cases he : e = e'
  · subst he
    refine mul_lt_mul_of_pos_right ?_ hquarter
    have hm : m + 1 ≤ m' := by omega
    have hmq : (m + 1 : ℚ) ≤ m' := by exact_mod_cast hm
    refine lt_of_le_of_ne (by linarith) fun heq => ?_
    -- The ranges of neighbours meet in the middle, which belongs to the one with the even mantissa.
    have hnext : m' ≤ m + 1 := by
      have : (m' : ℚ) ≤ m + 1 := by linarith
      exact_mod_cast this
    have hmq' : (m' : ℚ) = m + 1 := by exact_mod_cast le_antisymm hnext hm
    have heven := htie (.inr (by linarith))
    have heven' := htie' (.inl (by linarith))
    omega
  · have hm' : 2 ^ 52 ≤ m' := by
      have hle := hf.least_le
      rcases hf'.normal with h | h
      · exact h
      · omega
    have hmost : (m : ℚ) ≤ 2 ^ 53 - 1 := by
      have : m + 1 ≤ 2 ^ 53 := hlt
      have : (m + 1 : ℚ) ≤ 2 ^ 53 := by exact_mod_cast this
      linarith
    have hleast : (2 ^ 54 - 1 : ℚ) ≤ z' := by
      rcases hm'.eq_or_lt with rfl | hgt
      · have hone : below (2 ^ 52) e' = 1 := if_pos ⟨rfl, by have := hf.least_le; omega⟩
        rw [hone] at hz'
        push_cast at hz'
        linarith
      · have : (2 ^ 52 + 1 : ℚ) ≤ m' := by exact_mod_cast hgt
        linarith
    have hpow : (2 : ℚ) * 2 ^ (e - 2) ≤ 2 ^ (e' - 2) := by
      rw [← zpow_one_add₀ (by norm_num)]
      exact zpow_le_zpow_right₀ (by norm_num) (by omega)
    have hodd : z ≠ 2 * (2 ^ 54 - 1) := by
      intro heq
      have hmq : (m : ℚ) = 2 ^ 53 - 1 := by linarith
      have hm : m = 2 ^ 53 - 1 := by
        have : ((m + 1 : Nat) : ℚ) = (2 ^ 53 : Nat) := by push_cast; linarith
        have : m + 1 = 2 ^ 53 := by exact_mod_cast this
        omega
      have heven := htie (.inr (by linarith))
      omega
    have hzlt : z < 2 * (2 ^ 54 - 1) := lt_of_le_of_ne (by linarith) hodd
    calc z * 2 ^ (e - 2) < 2 * (2 ^ 54 - 1) * 2 ^ (e - 2) := mul_lt_mul_of_pos_right hzlt hquarter
      _ = (2 ^ 54 - 1) * (2 * 2 ^ (e - 2)) := by ring
      _ ≤ (2 ^ 54 - 1) * 2 ^ (e' - 2) := mul_le_mul_of_nonneg_left hpow (by norm_num)
      _ ≤ z' * 2 ^ (e' - 2) := mul_le_mul_of_nonneg_right hleast (two_zpow_pos _).le

theorem Within.place_le (hf : Fits m e) (hf' : Fits m' e') (hw : Within m e x) (hw' : Within m' e' x') (h : x ≤ x') :
    place m e ≤ place m' e' := by
  by_contra hlt
  exact absurd h (hw'.lt_of_place_lt hf' hf hw (not_le.mp hlt)).not_ge

/-! ## The double of an integer -/

theorem exists_exact (hpos : 0 < n) (hn : n ≤ 2 ^ 53) : ∃ m e, Fits m e ∧ (n : ℚ) = m * 2 ^ e := by
  rcases hn.eq_or_lt with rfl | hlt
  · refine ⟨2 ^ 52, 1, ⟨⟨by decide, by decide, by decide, .inl le_rfl⟩, by decide⟩, ?_⟩
    norm_num
  · have hk : n.log2 ≤ 52 := Nat.le_of_lt_succ ((Nat.log2_lt hpos.ne').mpr hlt)
    have hle := Nat.log2_self_le hpos.ne'
    have hlt' := Nat.lt_log2_self (n := n)
    generalize n.log2 = k at hk hle hlt'
    have hlow : 2 ^ 52 ≤ n * 2 ^ (52 - k) := by
      calc 2 ^ 52 = 2 ^ k * 2 ^ (52 - k) := by rw [← pow_add]; congr 1; omega
        _ ≤ n * 2 ^ (52 - k) := Nat.mul_le_mul_right _ hle
    have hhigh : n * 2 ^ (52 - k) < 2 ^ 53 := by
      calc n * 2 ^ (52 - k) < 2 ^ (k + 1) * 2 ^ (52 - k) := Nat.mul_lt_mul_of_pos_right hlt' (Nat.two_pow_pos _)
        _ = 2 ^ 53 := by rw [← pow_add]; congr 1; omega
    refine ⟨n * 2 ^ (52 - k), k - 52, ⟨⟨by omega, hhigh, by omega, .inl hlow⟩, by omega⟩, ?_⟩
    push_cast
    rw [mul_assoc, ← zpow_natCast, ← zpow_add₀ (by norm_num), show ((52 - k : Nat) : Int) + (k - 52) = 0 by omega,
      zpow_zero, mul_one]

/-- The natural number nearest to a quotient, of two equally near the even one. -/
def nearestQuotient (n unit : Nat) : Nat :=
  if 2 * (n % unit) < unit ∨ 2 * (n % unit) = unit ∧ n / unit % 2 = 0 then n / unit else n / unit + 1

/-- The natural number nearest to `n` of those that have at most 53 bits before the zeros at their end, and of two equally
near the one with more zeros. -/
def nearestNat (n : Nat) : Nat := nearestQuotient n (2 ^ (n.log2 - 52)) * 2 ^ (n.log2 - 52)

/-- `q` is the natural number nearest to `y`. -/
structure Nears (q : Nat) (y : ℚ) : Prop where
  low : 2 * q - 1 ≤ 2 * y
  high : 2 * y ≤ 2 * q + 1
  tie : 2 * y = 2 * q - 1 ∨ 2 * y = 2 * q + 1 → q % 2 = 0

theorem nearestQuotient_bounds (n : Nat) {unit q : Nat} (hunit : 0 < unit) (hq : nearestQuotient n unit = q) :
    2 * (q * unit) ≤ 2 * n + unit ∧ 2 * n ≤ 2 * (q * unit) + unit ∧
      (2 * (q * unit) = 2 * n + unit ∨ 2 * n = 2 * (q * unit) + unit → q % 2 = 0) := by
  have hsplit := Nat.div_add_mod' n unit
  have hlt := Nat.mod_lt n hunit
  subst hq
  unfold nearestQuotient
  split
  · omega
  · rw [Nat.add_mul, Nat.one_mul]
    omega

theorem nears_nearestQuotient (n : Nat) {unit : Nat} (hunit : 0 < unit) : Nears (nearestQuotient n unit) (n / unit) := by
  obtain ⟨q, hq⟩ : ∃ q, nearestQuotient n unit = q := ⟨_, rfl⟩
  obtain ⟨hlow, hhigh, htie⟩ := nearestQuotient_bounds n hunit hq
  have hpos : (0 : ℚ) < unit := by exact_mod_cast hunit
  have hlow' : (2 * (q * unit) : ℚ) ≤ 2 * n + unit := by exact_mod_cast hlow
  have hhigh' : (2 * n : ℚ) ≤ 2 * (q * unit) + unit := by exact_mod_cast hhigh
  have hn : (n : ℚ) = n / unit * unit := (div_mul_cancel₀ _ hpos.ne').symm
  rw [hq]
  refine ⟨le_of_mul_le_mul_right ?_ hpos, le_of_mul_le_mul_right ?_ hpos, fun h => htie (h.imp (fun h => ?_) fun h => ?_)⟩
  · linarith
  · linarith
  · have heq : (2 * (q * unit) : ℚ) = 2 * n + unit := by linear_combination (-unit : ℚ) * h - 2 * hn
    exact_mod_cast heq
  · have heq : (2 * n : ℚ) = 2 * (q * unit) + unit := by linear_combination (unit : ℚ) * h + 2 * hn
    exact_mod_cast heq

theorem nearestQuotient_cases (n unit : Nat) :
    nearestQuotient n unit = n / unit ∨ nearestQuotient n unit = n / unit + 1 := by
  unfold nearestQuotient
  split
  · exact .inl rfl
  · exact .inr rfl

theorem nearestNat_of_lt (hn : n < 2 ^ 53) : nearestNat n = n := by
  have hbits : n.log2 - 52 = 0 := by
    rcases n.eq_zero_or_pos with rfl | hpos
    · rfl
    · have := (Nat.log2_lt hpos.ne').mpr hn
      omega
  unfold nearestNat nearestQuotient
  rw [hbits, pow_zero, Nat.mod_one, Nat.div_one, mul_one, if_pos (.inl (by decide))]

/-- A number as long as a mantissa, in some unit, is in the range of the double that is nearest to it. -/
theorem Nears.exists_within {q : Nat} (h : Nears q y) (hy : 2 ^ 52 ≤ y) (hq : q ≤ 2 ^ 53) (he : -1074 ≤ e) :
    ∃ m e', Canonical m e' ∧ Within m e' (y * 2 ^ e) ∧ (m * 2 ^ e' : ℚ) = q * 2 ^ e ∧ e' ≤ e + 1 := by
  obtain ⟨hlow, hhigh, htie⟩ := h
  have hleast : 2 ^ 52 ≤ q := by
    have : (2 ^ 52 : ℚ) < q + 1 := by linarith
    have : 2 ^ 52 < q + 1 := by exact_mod_cast this
    omega
  rcases hq.eq_or_lt with rfl | hlt
  · -- All bits of the mantissa are set, so rounding up needs one bit more.
    have hone : below (2 ^ 52) (e + 1) = 1 := if_pos ⟨rfl, by omega⟩
    have hdouble : (2 : ℚ) ^ (e + 1) = 2 ^ e * 2 := zpow_add_one₀ (by norm_num) e
    have hx : y * 2 ^ e = y / 2 * 2 ^ (e + 1) := by
      rw [hdouble]
      ring
    push_cast at hlow hhigh
    refine ⟨2 ^ 52, e + 1, ⟨by omega, by omega, by omega, .inl le_rfl⟩, .of_units hx ?_ ?_ fun _ => rfl, ?_, le_rfl⟩
    · rw [hone]
      push_cast
      linarith
    · push_cast
      linarith
    · rw [hdouble]
      push_cast
      ring
  · have hbelow : (4 * q - below q e : ℚ) ≤ 4 * y ∧ (4 * y = 4 * q - below q e → q % 2 = 0) := by
      unfold below
      split
      · next hpower =>
        rw [hpower.1]
        push_cast
        exact ⟨by linarith, fun _ => by decide⟩
      · push_cast
        exact ⟨by linarith, fun h => htie (.inl (by linarith))⟩
    refine ⟨q, e, ⟨by omega, hlt, he, .inl hleast⟩, .of_units rfl hbelow.1 (by linarith) ?_, rfl, by omega⟩
    rintro (h | h)
    · exact hbelow.2 h
    · exact htie (.inr (by linarith))

/-- The integers that a double is found for: far more than any kind has. -/
theorem exists_nearest (hpos : 0 < n) (hn : n < 2 ^ 100) :
    ∃ m e, Fits m e ∧ Within m e n ∧ (nearestNat n : ℚ) = m * 2 ^ e := by
  rcases Nat.lt_or_ge n (2 ^ 53) with hsmall | hlarge
  · obtain ⟨m, e, hf, hexact⟩ := exists_exact hpos hsmall.le
    refine ⟨m, e, hf, hexact ▸ within_self m e, ?_⟩
    rw [nearestNat_of_lt hsmall, hexact]
  · have hbits : 53 ≤ n.log2 := (Nat.le_log2 (by omega)).mpr hlarge
    have hmost : n.log2 < 100 := (Nat.log2_lt (by omega)).mpr hn
    have hle : 2 ^ n.log2 ≤ n := Nat.log2_self_le (by omega)
    have hlt : n < 2 ^ (n.log2 + 1) := Nat.lt_log2_self
    obtain ⟨j, hj⟩ : ∃ j, n.log2 = 52 + j := ⟨n.log2 - 52, by omega⟩
    have hunit : 0 < 2 ^ j := Nat.two_pow_pos j
    have hunitq : (0 : ℚ) < 2 ^ j := by positivity
    rw [hj] at hle hlt
    have hquotient : n / 2 ^ j < 2 ^ 53 := by
      rw [Nat.div_lt_iff_lt_mul hunit, ← pow_add]
      exact hlt.trans_eq (by congr 1; omega)
    have hleast : (2 ^ 52 : ℚ) ≤ n / (2 ^ j : Nat) := by
      push_cast
      rw [le_div_iff₀ hunitq, ← pow_add]
      exact_mod_cast hle
    have hcases := nearestQuotient_cases n (2 ^ j)
    obtain ⟨m, e, hc, hw, hvalue, he⟩ :=
      (nears_nearestQuotient n hunit).exists_within hleast (by omega) (by omega : -1074 ≤ (j : Int))
    push_cast at hw
    rw [zpow_natCast, div_mul_cancel₀ _ hunitq.ne'] at hw
    refine ⟨m, e, ⟨hc, by omega⟩, hw, ?_⟩
    rw [nearestNat, hj, Nat.add_sub_cancel_left, hvalue, zpow_natCast]
    push_cast
    rfl

theorem nearestNat_pos (hpos : 0 < n) (hn : n < 2 ^ 100) : 0 < nearestNat n := by
  obtain ⟨m, e, hf, -, hvalue⟩ := exists_nearest hpos hn
  have hm : (0 : ℚ) < m := by exact_mod_cast hf.pos
  have hvaluePos : (0 : ℚ) < nearestNat n := hvalue ▸ mul_pos hm (two_zpow_pos e)
  exact_mod_cast hvaluePos

theorem exists_double (hpos : 0 < n) (hn : n < 2 ^ 100) : ∃ m e, Fits m e ∧ Within m e n := by
  obtain ⟨m, e, hf, hw, -⟩ := exists_nearest hpos hn
  exact ⟨m, e, hf, hw⟩

theorem log2_shiftLeft (hn : n ≠ 0) (k : Nat) : (n <<< k).log2 = n.log2 + k := by
  rw [Nat.shiftLeft_eq, Nat.log2_eq_iff (Nat.mul_pos (Nat.pos_of_ne_zero hn) (Nat.two_pow_pos k)).ne',
    show n.log2 + k + 1 = n.log2 + 1 + k by omega, pow_add, pow_add]
  exact ⟨Nat.mul_le_mul_right _ (Nat.log2_self_le hn), Nat.mul_lt_mul_of_pos_right Nat.lt_log2_self (Nat.two_pow_pos k)⟩

theorem round_eq (hf : Fits m e) (hw : Within m e n) (hn : n ≠ 0) (s : Sign) :
    UnpackedFloat.round Format.binary64 s n 0 = .finite s m e hf.pos := by
  unfold UnpackedFloat.round decreaseExponent
  dsimp only
  generalize ht : Format.binary64.targetExponent (totalExponent n 0) = t
  refine roundWithAccuracy_eq hf.toCanonical hw (marks_exact _) ?_ ?_ s
  · rw [Nat.shiftLeft_eq]
    push_cast
    rw [mul_assoc, ← zpow_natCast, ← zpow_add₀ (by norm_num), show ((0 - t).toNat : Int) + (0 - (0 - t).toNat) = 0 by omega,
      zpow_zero, mul_one]
  · rw [targetExponent_eq] at ht ⊢
    unfold totalExponent at ht ⊢
    rw [log2_shiftLeft hn]
    omega

end Rounding

namespace Binary

open Rounding

/-- The place of the double that an integer is rounded to. -/
def position (n : Int) : Int := (rank (ofInt n)).getD 0

section naturals

variable {m n : Nat} {e : Int}

theorem rankOf_pack {u : UnpackedFloat} {s : Sign} (hf : Fits m e) (hu : u = .finite s m e hf.pos) :
    rankOf (UnpackedFloat.unpack Format.binary64 (UnpackedFloat.pack Format.binary64 u)) =
      some (s.apply (place m e)) := by
  rw [hu, unpack_pack s hf]
  rfl

theorem rank_ofInt_natCast (hf : Fits m e) (hw : Within m e n) (hn : n ≠ 0) : rank (ofInt n) = some (place m e) := by
  have hint : UnpackedFloat.ofInt Format.binary64 n = .finite .positive m e hf.pos := by
    unfold UnpackedFloat.ofInt UnpackedFloat.normalize
    rw [Int.compare_eq_gt.mpr (by omega : (0 : Int) < n)]
    exact round_eq hf hw hn .positive
  exact rankOf_pack hf hint

theorem rank_ofInt_neg (hf : Fits m e) (hw : Within m e n) (hn : n ≠ 0) : rank (ofInt (-n)) = some (-place m e) := by
  have hint : UnpackedFloat.ofInt Format.binary64 (-n) = .finite .negative m e hf.pos := by
    unfold UnpackedFloat.ofInt UnpackedFloat.normalize
    rw [Int.compare_eq_lt.mpr (by omega : -(n : Int) < 0), neg_neg]
    exact round_eq hf hw hn .negative
  exact rankOf_pack hf hint

theorem exists_position (hn : n < 2 ^ 100) : ∃ p, 0 ≤ p ∧ rank (ofInt n) = some p ∧ rank (ofInt (-n)) = some (-p) := by
  rcases n.eq_zero_or_pos with rfl | hpos
  · exact ⟨0, le_rfl, rfl, rfl⟩
  · obtain ⟨m, e, hf, hw⟩ := exists_double hpos hn
    exact ⟨place m e, hf.place_pos.le, rank_ofInt_natCast hf hw hpos.ne', rank_ofInt_neg hf hw hpos.ne'⟩

theorem position_neg (hn : n < 2 ^ 100) : position (-n) = -position n := by
  obtain ⟨p, -, hp, hp'⟩ := exists_position hn
  rw [position, position, hp, hp', Option.getD_some, Option.getD_some]

theorem position_nonneg (hn : n < 2 ^ 100) : 0 ≤ position n := by
  obtain ⟨p, hle, hp, -⟩ := exists_position hn
  rwa [position, hp, Option.getD_some]

theorem position_natCast (hf : Fits m e) (hw : Within m e n) (hn : n ≠ 0) : position n = place m e := by
  rw [position, rank_ofInt_natCast hf hw hn, Option.getD_some]

theorem position_natCast_mono {a b : Nat} (h : a ≤ b) (hb : b < 2 ^ 100) : position a ≤ position b := by
  rcases a.eq_zero_or_pos with rfl | hpos
  · exact position_nonneg hb
  · obtain ⟨m, e, hf, hw⟩ := exists_double hpos (h.trans_lt hb)
    obtain ⟨m', e', hf', hw'⟩ := exists_double (hpos.trans_le h) hb
    rw [position_natCast hf hw hpos.ne', position_natCast hf' hw' (hpos.trans_le h).ne']
    exact hw.place_le hf hf' hw' (by exact_mod_cast h)

theorem position_natCast_lt {a b : Nat} (h : a < b) (hb : b ≤ 2 ^ 53) : position a < position b := by
  obtain ⟨m', e', hf', hb'⟩ := exists_exact (a.zero_le.trans_lt h) hb
  have hw' : Within m' e' b := hb' ▸ within_self m' e'
  have hplace' := position_natCast hf' hw' (a.zero_le.trans_lt h).ne'
  rcases a.eq_zero_or_pos with rfl | hpos
  · rw [hplace']
    exact hf'.place_pos
  · obtain ⟨m, e, hf, ha⟩ := exists_exact hpos (h.le.trans hb)
    have hw : Within m e a := ha ▸ within_self m e
    refine lt_of_le_of_ne (position_natCast_mono h.le (by omega)) fun heq => ?_
    rw [hplace', position_natCast hf hw hpos.ne'] at heq
    obtain ⟨rfl, rfl⟩ := hf.eq_of_place_eq hf' heq
    have hab : (a : ℚ) = b := ha.trans hb'.symm
    exact h.ne (by exact_mod_cast hab)

end naturals

variable {a b n : Int}

theorem rank_ofInt (hn : n.natAbs < 2 ^ 100) : rank (ofInt n) = some (position n) := by
  obtain ⟨k, rfl | rfl⟩ := n.eq_nat_or_neg
  · obtain ⟨p, -, hp, -⟩ := exists_position (by omega : k < 2 ^ 100)
    rw [position, hp, Option.getD_some]
  · obtain ⟨p, -, -, hp⟩ := exists_position (by omega : k < 2 ^ 100)
    rw [position, hp, Option.getD_some]

/-- **Rounding keeps the order of integers.** -/
theorem position_mono (h : a ≤ b) (ha : a.natAbs < 2 ^ 100) (hb : b.natAbs < 2 ^ 100) : position a ≤ position b := by
  obtain ⟨j, rfl | rfl⟩ := a.eq_nat_or_neg
  · obtain ⟨k, rfl⟩ := b.eq_ofNat_of_zero_le (by omega)
    exact position_natCast_mono (by omega) (by omega)
  · obtain ⟨k, rfl | rfl⟩ := b.eq_nat_or_neg
    · have hj := position_nonneg (by omega : j < 2 ^ 100)
      have hk := position_nonneg (by omega : k < 2 ^ 100)
      rw [position_neg (by omega)]
      omega
    · have := position_natCast_mono (by omega : k ≤ j) (by omega)
      rw [position_neg (by omega), position_neg (by omega)]
      omega

theorem position_lt (h : a < b) (ha : -2 ^ 53 ≤ a) (hb : b ≤ 2 ^ 53) : position a < position b := by
  obtain ⟨j, rfl | rfl⟩ := a.eq_nat_or_neg
  · obtain ⟨k, rfl⟩ := b.eq_ofNat_of_zero_le (by omega)
    exact position_natCast_lt (by omega) (by omega)
  · obtain ⟨k, rfl | rfl⟩ := b.eq_nat_or_neg
    · rw [position_neg (by omega)]
      rcases j.eq_zero_or_pos with rfl | hpos
      · exact position_natCast_lt (a := 0) (by omega) (by omega)
      · have hj : position (0 : Nat) < position j := position_natCast_lt hpos (by omega)
        have hk := position_nonneg (by omega : k < 2 ^ 100)
        have hzero : position (0 : Nat) = 0 := rfl
        omega
    · have := position_natCast_lt (by omega : k < j) (by omega)
      rw [position_neg (by omega), position_neg (by omega)]
      omega

/-- Different integers are one double only if both need more bits than a mantissa has. -/
theorem far_of_position_eq (hne : a ≠ b) (h : position a = position b) (ha : a.natAbs < 2 ^ 100)
    (hb : b.natAbs < 2 ^ 100) : 2 ^ 53 ≤ a.natAbs ∧ 2 ^ 53 ≤ b.natAbs := by
  have apart {m n : Int} (hlt : m < n) (hm : m.natAbs < 2 ^ 100) (hn : n.natAbs < 2 ^ 100)
      (hnear : m.natAbs < 2 ^ 53 ∨ n.natAbs < 2 ^ 53) : position m < position n := by
    rcases hnear with hnear | hnear
    · have hnext : position m < position (m + 1) := position_lt (by omega) (by omega) (by omega)
      have hmono := position_mono (by omega : m + 1 ≤ n) (by omega) hn
      omega
    · have hmono := position_mono (by omega : m ≤ n - 1) hm (by omega)
      have hnext : position (n - 1) < position n := position_lt (by omega) (by omega) (by omega)
      omega
  by_contra hnear
  rcases Int.lt_or_gt_of_ne hne with hlt | hlt
  · have := apart hlt ha hb (by omega)
    omega
  · have := apart hlt hb ha (by omega)
    omega

end Binary

end Verdict
