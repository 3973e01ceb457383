import Mathlib.Algebra.Order.Ring.Int
import Mathlib.Algebra.Ring.Parity
import Verdict.Number.Integer

/-!
# The ranges of integers

An operation on two integers of a kind gives the exact result wherever that lies in the kind's range, and nothing
elsewhere. A remainder always does, and a power that is not worked out never does.
-/

namespace Verdict

theorem Integer.bounds (n : Integer) : -9223372036854775808 ≤ n.val ∧ n.val < 18446744073709551616 := by
  obtain ⟨kind, val, hmin, hmax⟩ := n
  cases kind <;> simp [IntKind.min, IntKind.max, IntKind.signed, IntKind.width] at hmin hmax <;> constructor <;>
    simp only <;> omega

/-- The number lies in the kind's range. -/
def IntKind.Holds (k : IntKind) (n : Int) : Prop := k.min ≤ n ∧ n ≤ k.max

instance (k : IntKind) (n : Int) : Decidable (k.Holds n) := inferInstanceAs (Decidable (_ ∧ _))

variable {k : IntKind} {a b n : Int} {e : Nat}

theorem Integer.holds (n : Integer) : n.kind.Holds n.val := ⟨n.min_le, n.le_max⟩

/-- A number in the kind's range, as an integer of the kind. -/
def IntKind.Holds.integer (h : k.Holds n) : Integer := ⟨k, n, h.1, h.2⟩

@[simp] theorem IntKind.Holds.integer_kind (h : k.Holds n) : h.integer.kind = k := rfl

@[simp] theorem IntKind.Holds.integer_val (h : k.Holds n) : h.integer.val = n := rfl

namespace IntKind

theorem holds_zero (k : IntKind) : k.Holds 0 := by
  cases k <;> decide

theorem holds_one (k : IntKind) : k.Holds 1 := by
  cases k <;> decide

theorem Holds.natAbs_lt (h : k.Holds n) : n.natAbs < 2 ^ 64 := by
  have hbounds := Integer.bounds ⟨k, n, h.1, h.2⟩
  simp only at hbounds
  omega

theorem tmod_between (a b : Int) : (0 ≤ a.tmod b ∧ a.tmod b ≤ a) ∨ (a ≤ a.tmod b ∧ a.tmod b ≤ 0) := by
  have hle : (a.tmod b).natAbs ≤ a.natAbs := Int.natAbs_tmod a b ▸ Nat.mod_le _ _
  rcases Int.le_total 0 a with ha | ha
  · have hpos := Int.tmod_nonneg b ha
    omega
  · have hneg : 0 ≤ (-a).tmod b := Int.tmod_nonneg b (by omega)
    rw [Int.neg_tmod] at hneg
    omega

theorem Holds.tmod (h : k.Holds a) (b : Int) : k.Holds (a.tmod b) := by
  obtain ⟨hmin, hmax⟩ := k.holds_zero
  obtain ⟨hlow, hhigh⟩ := h
  have hbetween := tmod_between a b
  constructor <;> omega

/-- The multiple of the divisor that the remainder leaves lies between zero and the dividend, too. -/
theorem Holds.tdiv_mul (h : k.Holds a) (b : Int) : k.Holds (a.tdiv b * b) := by
  obtain ⟨hmin, hmax⟩ := k.holds_zero
  obtain ⟨hlow, hhigh⟩ := h
  have hbetween := tmod_between a b
  have hsum := Int.tdiv_mul_add_tmod a b
  constructor <;> omega

theorem min_add_max (hone : k.Holds (-1)) : k.min + k.max = -1 := by
  cases k with
  | int8 | int16 | int32 | int64 => decide
  | uint8 | uint16 | uint32 | uint64 => exact absurd hone.1 (by decide)

/-- Only the least number has a negative that is not of the kind. -/
theorem Holds.neg_iff (h : k.Holds a) (hone : k.Holds (-1)) : k.Holds (-a) ↔ a ≠ k.min := by
  have hsum := min_add_max hone
  unfold Holds at *
  omega

theorem Holds.of_natAbs_lt (h : k.Holds a) (hone : k.Holds (-1)) (hlt : n.natAbs < a.natAbs) : k.Holds n := by
  have hsum := min_add_max hone
  unfold Holds at *
  omega

/-- The quotient of the least number by -1 is the only one that leaves the kind's range. -/
theorem Holds.tdiv_iff (ha : k.Holds a) (hb : k.Holds b) (hne : b ≠ 0) :
    k.Holds (a.tdiv b) ↔ ¬ (a = k.min ∧ b = -1) := by
  by_cases hone : b = -1
  · subst hone
    rw [Int.tdiv_neg, Int.tdiv_one, ha.neg_iff hb]
    simp
  · refine iff_of_true ?_ fun h => hone h.2
    obtain ⟨hmin, hmax⟩ := k.holds_zero
    rcases Int.lt_or_gt_of_ne hne with hneg | hpos
    · have hlow := hb.1
      have hsigned : k.Holds (-1) := ⟨by omega, by omega⟩
      by_cases hzero : a = 0
      · subst hzero
        rw [Int.zero_tdiv]
        exact k.holds_zero
      · refine ha.of_natAbs_lt hsigned ?_
        rw [Int.natAbs_tdiv]
        exact Nat.div_lt_self (by omega) (by omega)
    · -- The quotient lies between zero and the dividend.
      have hle := Int.natAbs_tdiv_le_natAbs a b
      obtain ⟨hlow, hhigh⟩ := ha
      rcases Int.le_total 0 a with h | h
      · have hquotient := Int.tdiv_nonneg h hpos.le
        constructor <;> omega
      · have hquotient : 0 ≤ (-a).tdiv b := Int.tdiv_nonneg (by omega) hpos.le
        rw [Int.neg_tdiv] at hquotient
        constructor <;> omega

theorem not_holds_pow (ha : 2 ≤ a.natAbs) (he : 64 < e) : ¬ k.Holds (a ^ e) := by
  intro h
  have hlt := h.natAbs_lt
  have hpow : 2 ^ 64 ≤ a.natAbs ^ e :=
    calc 2 ^ 64 ≤ 2 ^ e := Nat.pow_le_pow_right (by omega) he.le
      _ ≤ a.natAbs ^ e := Nat.pow_le_pow_left ha e
  rw [Int.natAbs_pow] at hlt
  omega

theorem Holds.pow (h : k.Holds a) (ha : a.natAbs ≤ 1) (e : Nat) : k.Holds (a ^ e) := by
  have hsize : (a ^ e).natAbs ≤ 1 := by
    rw [Int.natAbs_pow]
    exact pow_le_one₀ (Nat.zero_le _) ha
  obtain ⟨hmin, hone⟩ := k.holds_one
  obtain ⟨hlow, hhigh⟩ := h
  by_cases hneg : a = -1
  · constructor <;> omega
  · have hpos : 0 ≤ a ^ e := pow_nonneg (by omega) e
    obtain ⟨hzero, -⟩ := k.holds_zero
    constructor <;> omega

end IntKind

namespace Integer

theorem pow_small (ha : a.natAbs ≤ 1) (e : Nat) : (if e = 0 then 1 else if e % 2 = 0 then a * a else a) = a ^ e := by
  have hcases : a = 0 ∨ a = 1 ∨ a = -1 := by omega
  by_cases he : e = 0
  · rw [if_pos he, he, pow_zero]
  · rw [if_neg he]
    rcases hcases with rfl | rfl | rfl
    · rw [zero_pow he]
      split <;> rfl
    · rw [one_pow]
      split <;> rfl
    · rcases Nat.even_or_odd e with heven | hodd
      · rw [if_pos (Nat.even_iff.mp heven), heven.neg_one_pow]
        rfl
      · rw [if_neg (by rw [Nat.odd_iff.mp hodd]; decide), hodd.neg_one_pow]

theorem power?_eq (a : Int) (e : Nat) : power? a e = if a.natAbs ≤ 1 ∨ e ≤ 64 then some (a ^ e) else none := by
  unfold power?
  by_cases ha : a.natAbs ≤ 1
  · rw [if_pos ha, pow_small ha, if_pos (.inl ha)]
  · rw [if_neg ha]
    by_cases he : e ≤ 64
    · rw [if_pos he, if_pos (.inr he)]
      rfl
    · rw [if_neg he, if_neg (by omega)]

/-! ## What is given, and when -/

section checked

variable {m : Integer}

theorem ofInt?_of_holds (h : k.Holds n) : ofInt? k n = some h.integer := dif_pos h

theorem ofInt?_of_not_holds (h : ¬ k.Holds n) : ofInt? k n = none := dif_neg h

theorem ofInt?_eq_none_iff : ofInt? k n = none ↔ ¬ k.Holds n := by
  refine ⟨fun hnone h => ?_, ofInt?_of_not_holds⟩
  rw [ofInt?_of_holds h] at hnone
  cases hnone

theorem kind_of_ofInt? (h : ofInt? k n = some m) : m.kind = k := by
  unfold ofInt? at h
  split at h
  · cases h
    rfl
  · cases h

theorem mod?_eq (ha : k.Holds a) (b : Int) :
    mod? k a b = if k.Holds (a.tdiv b) then some (ha.tmod b).integer else none := by
  rw [mod?, ofInt?_of_holds (ha.tmod b)]
  rfl

theorem mod?_eq_none_iff (ha : k.Holds a) : mod? k a b = none ↔ ¬ k.Holds (a.tdiv b) := by
  rw [mod?_eq ha, ite_eq_right_iff]
  exact imp_congr_right fun _ => iff_of_false nofun id

theorem kind_of_mod? (h : mod? k a b = some m) : m.kind = k := by
  unfold mod? at h
  split at h
  · exact kind_of_ofInt? h
  · cases h

/-- The exact power is given where it fits, although large powers are not worked out. -/
theorem pow?_eq (k : IntKind) (a b : Int) :
    pow? k a b = if 0 ≤ b ∧ b ≤ maxExponent then ofInt? k (a ^ b.toNat) else none := by
  rw [pow?, power?_eq]
  by_cases h : a.natAbs ≤ 1 ∨ b.toNat ≤ 64
  · rw [if_pos h, Option.bind_some]
  · rw [if_neg h, Option.bind_none, ofInt?_of_not_holds (IntKind.not_holds_pow (by omega) (by omega))]

theorem pow?_eq_none_iff : pow? k a b = none ↔ ¬ ((0 ≤ b ∧ b ≤ maxExponent) ∧ k.Holds (a ^ b.toNat)) := by
  rw [pow?_eq]
  by_cases h : 0 ≤ b ∧ b ≤ maxExponent
  · rw [if_pos h, ofInt?_eq_none_iff, and_iff_right h]
  · rw [if_neg h]
    exact ⟨fun _ hall => h hall.1, fun _ => rfl⟩

theorem kind_of_pow? (h : pow? k a b = some m) : m.kind = k := by
  rw [pow?_eq] at h
  split at h
  · exact kind_of_ofInt? h
  · cases h

theorem shl?_eq_none_iff : shl? k a b = none ↔ ¬ (0 ≤ b ∧ b < k.width) := by
  rw [shl?, ite_eq_right_iff]
  exact imp_congr_right fun _ => iff_of_false nofun id

theorem kind_of_shl? (h : shl? k a b = some m) : m.kind = k := by
  unfold shl? at h
  split at h
  · cases h
    rfl
  · cases h

theorem shr?_eq_none_iff : shr? k a b = none ↔ ¬ (0 ≤ b ∧ b < k.width) := by
  rw [shr?, ite_eq_right_iff]
  exact imp_congr_right fun _ => iff_of_false nofun id

theorem kind_of_shr? (h : shr? k a b = some m) : m.kind = k := by
  unfold shr? at h
  split at h
  · cases h
    rfl
  · cases h

end checked

end Integer

end Verdict
