import Verdict.Number.Decimal
import Verdict.Proofs.Number.Scientific

/-!
# The shortest decimal is read back

Each grid of powers of ten is searched for a point among the numbers that are rounded to a double, and one of the
grids that are tried is fine enough to have one (`firstHit_some`). So the decimal that a double is displayed as is read
as the double (`reads_shortest`).
-/

namespace Verdict

open Float.Model Float.Model.UnpackedFloat Rounding

namespace Decimal

variable {m n : Nat} {e j : Int} {r : Range} {tie : Tie}

/-! ## Grids -/

/-- Units of the range as a multiple of the units that the grid is compared in. -/
def Range.factor (r : Range) (j : Int) : Nat := Nat.pow 2 r.scale.toNat * Nat.pow 10 (-j).toNat

/-- The width of the grid in the same units. -/
def Range.step (r : Range) (j : Int) : Nat := Nat.pow 2 (-r.scale).toNat * Nat.pow 10 j.toNat

theorem Range.factor_pos (r : Range) (j : Int) : 0 < r.factor j :=
  Nat.mul_pos (Nat.pow_pos (by decide)) (Nat.pow_pos (by decide))

theorem Range.step_pos (r : Range) (j : Int) : 0 < r.step j :=
  Nat.mul_pos (Nat.pow_pos (by decide)) (Nat.pow_pos (by decide))

/-- The last point of the grid that is not above the number. -/
def Range.point (r : Range) (j : Int) : Nat := r.value * r.factor j / r.step j

/-- Whether two bounds meet: the ends belong to the range or not. -/
def Range.meets (r : Range) (a b : Nat) : Bool := if r.closed then a ≤ b else a < b

theorem Range.le_of_meets {a b : Nat} (h : r.meets a b = true) : a ≤ b := by
  unfold Range.meets at h
  split at h
  · exact of_decide_eq_true h
  · exact (of_decide_eq_true h).le

theorem Range.meets_of_lt {a b : Nat} (h : a < b) : r.meets a b = true := by
  unfold Range.meets
  split
  · exact decide_eq_true h.le
  · exact decide_eq_true h

theorem Range.closed_of_meets {a b : Nat} (h : r.meets a b = true) (hab : a = b) : r.closed = true := by
  unfold Range.meets at h
  split at h
  · assumption
  · exact absurd hab (of_decide_eq_true h).ne

theorem zpow_toNat {b : ℚ} (hb : b ≠ 0) (k : Int) : b ^ k * b ^ (-k).toNat = b ^ k.toNat := by
  rw [← zpow_natCast, ← zpow_natCast, ← zpow_add₀ hb]
  congr 1
  omega

theorem Range.grid_eq (r : Range) (j : Int) : (10 : ℚ) ^ j * r.factor j = r.step j * 2 ^ r.scale := by
  have h10 := zpow_toNat (b := 10) (by norm_num) j
  have h2 := zpow_toNat (b := 2) (by norm_num) r.scale
  unfold Range.factor Range.step
  simp only [Nat.pow_eq]
  push_cast
  rw [← h10, ← h2]
  ring

theorem Range.onGrid_eq (r : Range) (tie : Tie) (j : Int) : r.onGrid tie j =
    if r.meets (r.low * r.factor j) (r.point j * r.step j) &&
        r.meets ((r.point j + 1) * r.step j) (r.high * r.factor j) then
      match compare (2 * (r.value * r.factor j - r.point j * r.step j)) (r.step j) with
      | .lt => some (r.point j)
      | .gt => some (r.point j + 1)
      | .eq => some (if tie = .even ∧ r.point j % 2 = 0 then r.point j else r.point j + 1)
    else if r.meets (r.low * r.factor j) (r.point j * r.step j) then some (r.point j)
    else if r.meets ((r.point j + 1) * r.step j) (r.high * r.factor j) then some (r.point j + 1)
    else none := rfl

/-- What is taken from a grid is the point below the number or the one above it, and meets that end of the range. -/
theorem Range.onGrid_some (h : r.onGrid tie j = some n) :
    n = r.point j ∧ r.meets (r.low * r.factor j) (n * r.step j) = true ∨
      n = r.point j + 1 ∧ r.meets (n * r.step j) (r.high * r.factor j) = true := by
  rw [Range.onGrid_eq] at h
  by_cases hb : r.meets (r.low * r.factor j) (r.point j * r.step j) = true
  · by_cases ha : r.meets ((r.point j + 1) * r.step j) (r.high * r.factor j) = true
    · have hn : n = r.point j ∨ n = r.point j + 1 := by
        rw [hb, ha, Bool.and_self, if_pos rfl] at h
        split at h
        · exact .inl (Option.some.inj h).symm
        · exact .inr (Option.some.inj h).symm
        · split at h
          · exact .inl (Option.some.inj h).symm
          · exact .inr (Option.some.inj h).symm
      rcases hn with rfl | rfl
      · exact .inl ⟨rfl, hb⟩
      · exact .inr ⟨rfl, ha⟩
    · rw [hb, Bool.true_and, if_neg ha, if_pos rfl] at h
      cases h
      exact .inl ⟨rfl, hb⟩
  · rw [Bool.eq_false_of_not_eq_true hb, Bool.false_and, if_neg Bool.false_ne_true, if_neg Bool.false_ne_true] at h
    split at h
    · next ha =>
      cases h
      exact .inr ⟨rfl, ha⟩
    · cases h

theorem Range.point_le (r : Range) (j : Int) : r.point j * r.step j ≤ r.value * r.factor j :=
  Nat.div_mul_le_self _ _

theorem Range.lt_next_point (r : Range) (j : Int) : r.value * r.factor j < (r.point j + 1) * r.step j := by
  rw [Nat.mul_comm (r.point j + 1)]
  exact Nat.lt_mul_div_succ _ (r.step_pos j)

theorem Range.onGrid_between (hlow : r.low < r.value) (hhigh : r.value < r.high) (h : r.onGrid tie j = some n) :
    r.low * r.factor j ≤ n * r.step j ∧ n * r.step j ≤ r.high * r.factor j ∧
      (n * r.step j = r.low * r.factor j ∨ n * r.step j = r.high * r.factor j → r.closed = true) := by
  have hlow' := Nat.mul_lt_mul_of_pos_right hlow (r.factor_pos j)
  have hhigh' := Nat.mul_lt_mul_of_pos_right hhigh (r.factor_pos j)
  rcases Range.onGrid_some h with ⟨rfl, hmeets⟩ | ⟨rfl, hmeets⟩
  · have hpoint := r.point_le j
    refine ⟨Range.le_of_meets hmeets, by omega, ?_⟩
    rintro (heq | heq)
    · exact Range.closed_of_meets hmeets heq.symm
    · omega
  · have hpoint := r.lt_next_point j
    refine ⟨by omega, Range.le_of_meets hmeets, ?_⟩
    rintro (heq | heq)
    · omega
    · exact Range.closed_of_meets hmeets heq

/-- A grid that is not wider than the range reaches below the number has a point. -/
theorem Range.onGrid_of_narrow (tie : Tie) (hlow : r.low < r.value) (hj : r.step j ≤ r.factor j) :
    ∃ n, r.onGrid tie j = some n := by
  have hmeets : r.meets (r.low * r.factor j) (r.point j * r.step j) = true := by
    apply Range.meets_of_lt
    have hnext := r.lt_next_point j
    rw [Nat.succ_mul] at hnext
    have hvalue : r.low * r.factor j + r.factor j ≤ r.value * r.factor j := by
      rw [← Nat.succ_mul]
      exact Nat.mul_le_mul_right _ hlow
    omega
  rw [Range.onGrid_eq, hmeets, Bool.true_and, if_pos rfl]
  split
  · split <;> exact ⟨_, rfl⟩
  · exact ⟨_, rfl⟩

theorem Range.firstHit_onGrid {fuel : Nat} {k : Int} (h : r.firstHit tie fuel k = some (n, j)) :
    r.onGrid tie j = some n := by
  induction fuel generalizing k with
  | zero => cases h
  | succ fuel ih =>
    unfold Range.firstHit at h
    split at h
    · next hn =>
      cases h
      exact hn
    · exact ih h

theorem Range.firstHit_some {fuel : Nat} {k : Int} {i : Nat} (hi : i < fuel) {n' : Nat}
    (h : r.onGrid tie (k - i) = some n') : ∃ n j, r.firstHit tie fuel k = some (n, j) := by
  induction fuel generalizing k i with
  | zero => omega
  | succ fuel ih =>
    unfold Range.firstHit
    cases hk : r.onGrid tie k with
    | some n => exact ⟨n, k, rfl⟩
    | none =>
      cases i with
      | zero =>
        rw [Nat.cast_zero, sub_zero, hk] at h
        cases h
      | succ i =>
        refine ih (i := i) (by omega) ?_
        rw [← h]
        congr 1
        push_cast
        omega

/-! ## Doubles -/

theorem around_low (hf : Fits m e) : ((Range.around .binary64 m e).low : ℚ) = 4 * m - below m e := by
  have hpos := hf.pos
  have hlow : (Range.around .binary64 m e).low = 4 * m - below m e := rfl
  have hbelow : below m e ≤ 4 * m := by
    unfold below
    split <;> omega
  rw [hlow, Nat.cast_sub hbelow]
  push_cast
  rfl

theorem around_low_lt (hf : Fits m e) :
    (Range.around .binary64 m e).low < (Range.around .binary64 m e).value := by
  have hpos := hf.pos
  unfold Range.around
  dsimp only
  split <;> omega

theorem around_lt_high (m : Nat) (e : Int) :
    (Range.around .binary64 m e).value < (Range.around .binary64 m e).high := by
  show 4 * m < 4 * m + 2
  omega

/-- To compare a point of a grid with a bound is to compare the numbers that they stand for. -/
theorem Range.compare_point (r : Range) (j : Int) (a n : Nat) :
    (a * r.factor j ≤ n * r.step j ↔ (a : ℚ) * 2 ^ r.scale ≤ n * 10 ^ j) ∧
      (n * r.step j ≤ a * r.factor j ↔ (n : ℚ) * 10 ^ j ≤ a * 2 ^ r.scale) := by
  have hfactor : (0 : ℚ) < r.factor j := by exact_mod_cast r.factor_pos j
  have hscale := two_zpow_pos r.scale
  have hbound : ((a * r.factor j : Nat) : ℚ) * 2 ^ r.scale = a * 2 ^ r.scale * r.factor j := by
    push_cast
    ring
  have hpoint : ((n * r.step j : Nat) : ℚ) * 2 ^ r.scale = n * 10 ^ j * r.factor j := by
    push_cast
    rw [mul_assoc, ← r.grid_eq]
    ring
  constructor
  · rw [← @Nat.cast_le ℚ, ← mul_le_mul_iff_of_pos_right hscale, hbound, hpoint, mul_le_mul_iff_of_pos_right hfactor]
  · rw [← @Nat.cast_le ℚ, ← mul_le_mul_iff_of_pos_right hscale, hbound, hpoint, mul_le_mul_iff_of_pos_right hfactor]

theorem within_of_onGrid (hf : Fits m e) (h : (Range.around .binary64 m e).onGrid tie j = some n) :
    Within m e (n * 10 ^ j) := by
  obtain ⟨hlow, hhigh, hends⟩ := Range.onGrid_between (around_low_lt hf) (around_lt_high m e) h
  have hclosed (hc : (Range.around .binary64 m e).closed = true) : m % 2 = 0 := of_decide_eq_true hc
  obtain ⟨hlow_iff, hlow_iff'⟩ := (Range.around .binary64 m e).compare_point j (Range.around .binary64 m e).low n
  obtain ⟨hhigh_iff', hhigh_iff⟩ := (Range.around .binary64 m e).compare_point j (Range.around .binary64 m e).high n
  rw [around_low hf] at hlow_iff hlow_iff'
  have hcast : ((Range.around .binary64 m e).high : ℚ) = 4 * m + 2 := by
    show ((4 * m + 2 : Nat) : ℚ) = _
    push_cast
    rfl
  rw [hcast] at hhigh_iff hhigh_iff'
  refine ⟨hlow_iff.mp hlow, hhigh_iff.mp hhigh, ?_⟩
  rintro (heq | heq)
  · exact hclosed (hends (.inl (le_antisymm (hlow_iff'.mpr heq.le) hlow)))
  · exact hclosed (hends (.inr (le_antisymm hhigh (hhigh_iff'.mpr heq.ge))))

/-! ## The last grid -/

theorem ten_zpow_le {l k : Int} (hk : 100000 * (k + 22) ≤ 30103 * l) (hl : -1100 ≤ l) (hl' : l ≤ 1100) :
    (10 : ℚ) ^ k ≤ 2 ^ (l - 55) := by
  rcases Int.le_total 0 k with hpos | hneg
  · obtain ⟨a, ha⟩ : ∃ a : Nat, (a : Int) = (k + 2) / 3 := ⟨((k + 2) / 3).toNat, by omega⟩
    calc (10 : ℚ) ^ k ≤ 10 ^ (3 * a : Int) := zpow_le_zpow_right₀ (by norm_num) (by omega)
      _ = (10 ^ 3) ^ a := by rw [zpow_mul, zpow_natCast]; norm_num
      _ ≤ (2 ^ 10) ^ a := pow_le_pow_left₀ (by norm_num) (by norm_num) a
      _ = 2 ^ (10 * a : Int) := by rw [zpow_mul, zpow_natCast]; norm_num
      _ ≤ 2 ^ (l - 55) := zpow_le_zpow_right₀ (by norm_num) (by omega)
  · obtain ⟨i, hi⟩ : ∃ i : Nat, (i : Int) = -k := ⟨(-k).toNat, by omega⟩
    have hpow : (2 : ℚ) ^ (55 - l) ≤ 10 ^ i := by
      calc (2 : ℚ) ^ (55 - l) ≤ 2 ^ ((93 * (i / 28) + 3 * (i % 28) : Nat) : Int) :=
            zpow_le_zpow_right₀ (by norm_num) (by omega)
        _ = (2 ^ 93) ^ (i / 28) * (2 ^ 3) ^ (i % 28) := by rw [zpow_natCast, pow_add, pow_mul, pow_mul]
        _ ≤ (10 ^ 28) ^ (i / 28) * 10 ^ (i % 28) :=
            mul_le_mul (pow_le_pow_left₀ (by norm_num) (by norm_num) _) (pow_le_pow_left₀ (by norm_num) (by norm_num) _)
              (by positivity) (by positivity)
        _ = 10 ^ i := by rw [← pow_mul, ← pow_add, Nat.div_add_mod]
    rw [← inv_le_inv₀ (by positivity) (by positivity), ← zpow_neg, ← zpow_neg, ← hi, zpow_natCast,
      show -(l - 55) = 55 - l by omega]
    exact hpow

/-- The last grid that is tried is not wider than a unit of the range. -/
theorem last_grid (hf : Fits m e) :
    (Range.around .binary64 m e).step ((Range.around .binary64 m e).topExponent - (24 : Nat)) ≤
      (Range.around .binary64 m e).factor ((Range.around .binary64 m e).topExponent - (24 : Nat)) := by
  have hpos := hf.pos
  have hlt := hf.lt
  have hle := hf.least_le
  have hle' := hf.le_most
  have hlog : (4 * m).log2 < 55 := (Nat.log2_lt (by omega)).mpr (by omega)
  have hlog' : 2 ≤ (4 * m).log2 := (Nat.le_log2 (by omega)).mpr (by omega)
  have htop : (Range.around .binary64 m e).topExponent = ((4 * m).log2 + 1 + (e - 2)) * 30103 / 100000 + 2 := rfl
  generalize hk : (Range.around .binary64 m e).topExponent - (24 : Nat) = k
  have hpow : (10 : ℚ) ^ k ≤ 2 ^ (e - 2) := by
    have h := ten_zpow_le (l := (4 * m).log2 + 1 + (e - 2)) (k := k) (by omega) (by omega) (by omega)
    exact h.trans (zpow_le_zpow_right₀ (by norm_num) (by omega))
  have hiff := ((Range.around .binary64 m e).compare_point k 1 1).2
  rw [Nat.one_mul, Nat.one_mul, Nat.cast_one, one_mul, one_mul] at hiff
  exact hiff.mpr hpow

/-- **The decimal of a double** lies among the numbers that are rounded to it. -/
theorem shortest_within (hf : Fits m e) (tie : Tie) (negative : Bool) : ∃ n j,
    shortest .binary64 tie ⟨negative, m, e⟩ = ⟨negative, n, j⟩ ∧ Within m e (n * 10 ^ j) := by
  obtain ⟨n', h'⟩ := Range.onGrid_of_narrow tie (around_low_lt hf) (last_grid hf)
  obtain ⟨n, j, h⟩ := Range.firstHit_some (show 24 < gridCount by decide) h'
  refine ⟨n, j, ?_, within_of_onGrid hf (Range.firstHit_onGrid h)⟩
  unfold shortest
  rw [if_neg hf.pos.ne']
  dsimp only
  rw [h]

end Decimal

/-! ## Reading the decimal -/

theorem float_eq_of_pack {x : Float} {u : UnpackedFloat}
    (h : UnpackedFloat.pack Format.binary64 u = x.toModel.toBits.toBitVec) : (⟨.pack u⟩ : Float) = x := by
  obtain ⟨⟨bits, hvalid⟩⟩ := x
  have hbits : UInt64.ofBitVec (UnpackedFloat.pack Format.binary64 u) = bits := by rw [h]
  unfold Float.Model.pack
  congr

theorem ofDecimal_eq {n : Nat} {j : Int} {negative : Bool} {u v : UnpackedFloat}
    (hu : UnpackedFloat.pack Format.binary64 (UnpackedFloat.ofScientific Format.binary64 n j) =
      UnpackedFloat.pack Format.binary64 u)
    (hunpack : UnpackedFloat.unpack Format.binary64 (UnpackedFloat.pack Format.binary64 u) = u)
    (hv : v = if negative then u.neg else u) : Binary.ofDecimal negative n j = ⟨.pack v⟩ := by
  have hpack : Float.Model.pack (UnpackedFloat.ofScientific Format.binary64 n j) = Float.Model.pack u := by
    unfold Float.Model.pack
    congr
  unfold Binary.ofDecimal
  dsimp only
  cases negative with
  | false =>
    rw [hv]
    exact congrArg (fun p => (⟨p⟩ : Float)) hpack
  | true =>
    rw [hv]
    show (⟨.pack (UnpackedFloat.unpack Format.binary64
      (UnpackedFloat.pack Format.binary64 (UnpackedFloat.ofScientific Format.binary64 n j))).neg⟩ : Float) = _
    rw [hu, hunpack]
    rfl

/-- A decimal is read as the number that it is taken from. -/
structure Reads (d : Decimal) (x : Float) : Prop where
  zero : d.digits = 0 → d.exponent = 0
  ofDecimal (k : Nat) : Binary.ofDecimal d.negative (d.digits * 10 ^ k) (d.exponent - k) = x

theorem reads_zero {x : Float} {s : Sign}
    (hpack : UnpackedFloat.pack Format.binary64 (.zero s) = x.toModel.toBits.toBitVec) :
    Reads ⟨Binary.isNegative s, 0, 0⟩ x where
  zero _ := rfl
  ofDecimal k := by
    dsimp only
    rw [Nat.zero_mul, ofDecimal_eq (u := .zero .positive) (v := .zero s) (congrArg _ (dif_pos rfl)) (unpack_pack_zero _) ?_]
    · exact float_eq_of_pack hpack
    · cases s <;> rfl

theorem reads_within {x : Float} {s : Sign} {m n : Nat} {e j : Int} (hf : Fits m e)
    (hpack : UnpackedFloat.pack Format.binary64 (.finite s m e hf.pos) = x.toModel.toBits.toBitVec)
    (hw : Within m e (n * 10 ^ j)) : Reads ⟨Binary.isNegative s, n, j⟩ x where
  zero h0 := absurd h0 (digits_ne_zero hf hw)
  ofDecimal k := by
    have hvalue : (n : ℚ) * 10 ^ j = ((n * 10 ^ k : Nat) : ℚ) * 10 ^ (j - k) := by
      push_cast
      rw [mul_assoc, ← zpow_natCast, ← zpow_add₀ (by norm_num), show (k : Int) + (j - k) = j by omega]
    rw [hvalue] at hw
    dsimp only
    rw [ofDecimal_eq (v := .finite s m e hf.pos) (congrArg _ (ofScientific_eq hf hw)) (unpack_pack _ hf) ?_]
    · exact float_eq_of_pack hpack
    · cases s <;> rfl

/-- **The shortest decimal of a finite double is read as that double**, with zeros put to its digits or without. -/
theorem reads_shortest {x : Float} (hx : x.isFinite = true) (tie : Decimal.Tie) :
    ∃ p, Binary.parts? x.toModel.unpack = some p ∧ Reads (Decimal.shortest .binary64 tie p) x := by
  rcases unpack_cases (b := x.toModel.toBits.toBitVec) hx with ⟨s, hu, hpack⟩ | ⟨s, m, e, hf, hu, hpack⟩
  · refine ⟨⟨Binary.isNegative s, 0, 0⟩, ?_, reads_zero hpack⟩
    rw [show x.toModel.unpack = _ from hu]
    rfl
  · refine ⟨⟨Binary.isNegative s, m, e⟩, ?_, ?_⟩
    · rw [show x.toModel.unpack = _ from hu]
      rfl
    · obtain ⟨n, j, hshortest, hw⟩ := Decimal.shortest_within hf tie (Binary.isNegative s)
      rw [hshortest]
      exact reads_within hf hpack hw

end Verdict
