import Verdict.Proofs.Evaluation.Steps
import Verdict.Proofs.Operation.Typing

/-!
# Integer arithmetic

Two integers of one kind are calculated with as numbers, and the result is the exact one or an overflow
(`arithmetic_exact`). A quotient and the remainder beside it give the dividend back, without an overflow on the way.
Powers and remainders are refused in a few more cases than need be (`power_and_remainder_exact`).
-/

namespace Verdict.Operation

/-- The outcome for the number `x`: that number, in the kind, where it lies in the kind's range, and an overflow where it
does not. -/
structure Exact (op : BinaryOp) (k : IntKind) (x : Int) (o : Outcome) : Prop where
  fits (h : k.Holds x) : o = .ok (.int h.integer)
  overflow (h : ¬ k.Holds x) : o = .error (.overflow op)

variable {op : BinaryOp} {k : IntKind} {m n : Integer} {x : Int} {o : Outcome}

theorem exact_fitting (op : BinaryOp) (k : IntKind) (x : Int) : Exact op k x (fitting op (Integer.ofInt? k x)) where
  fits h := by rw [Integer.ofInt?_of_holds h, fitting]
  overflow h := by rw [Integer.ofInt?_of_not_holds h, fitting]

theorem Exact.eq_ok (h : Exact op k x o) {q : Value} (hq : o = .ok q) : ∃ hx : k.Holds x, q = .int hx.integer := by
  by_cases hx : k.Holds x
  · refine ⟨hx, ?_⟩
    rw [h.fits hx] at hq
    exact (Except.ok.inj hq).symm
  · rw [h.overflow hx] at hq
    cases hq

/-! ## The operators one by one -/

theorem exact_of_fitting (hkind : m.kind = n.kind) (hexp : op = .pow → 0 ≤ n.val)
    (happly : op.apply (.int m) (.int n) = numeric op (.int m) (.int n))
    (hfitting : onIntegers op m.kind m.val n.val = fitting op (Integer.ofInt? m.kind x)) :
    Exact op m.kind x (op.apply (.int m) (.int n)) := by
  rw [happly, numeric_integers hkind hexp, hfitting]
  exact exact_fitting op m.kind x

theorem add_exact (hkind : m.kind = n.kind) :
    Exact .add m.kind (m.val + n.val) (BinaryOp.add.apply (.int m) (.int n)) :=
  exact_of_fitting hkind (by simp) rfl rfl

theorem sub_exact (hkind : m.kind = n.kind) :
    Exact .sub m.kind (m.val - n.val) (BinaryOp.sub.apply (.int m) (.int n)) :=
  exact_of_fitting hkind (by simp) rfl rfl

theorem mul_exact (hkind : m.kind = n.kind) :
    Exact .mul m.kind (m.val * n.val) (BinaryOp.mul.apply (.int m) (.int n)) :=
  exact_of_fitting hkind (by simp) rfl rfl

theorem div_exact (hkind : m.kind = n.kind) (hn : n.val ≠ 0) :
    Exact .div m.kind (m.val.tdiv n.val) (BinaryOp.div.apply (.int m) (.int n)) :=
  exact_of_fitting hkind (by simp) rfl (if_neg hn)

theorem div_eq_divisionByZero_iff (hkind : m.kind = n.kind) :
    BinaryOp.div.apply (.int m) (.int n) = .error .divisionByZero ↔ n.val = 0 := by
  by_cases hn : n.val = 0
  · rw [BinaryOp.apply, numeric_integers hkind (by simp), onIntegers, if_pos hn]
    exact iff_of_true rfl hn
  · refine iff_of_false (fun h => ?_) hn
    by_cases hq : m.kind.Holds (m.val.tdiv n.val)
    · cases h.symm.trans ((div_exact hkind hn).fits hq)
    · cases h.symm.trans ((div_exact hkind hn).overflow hq)

theorem mod_eq (hkind : m.kind = n.kind) (hn : n.val ≠ 0) :
    BinaryOp.mod.apply (.int m) (.int n) =
      if m.kind.Holds (m.val.tdiv n.val) then .ok (.int (m.holds.tmod n.val).integer) else .error (.overflow .mod) := by
  rw [BinaryOp.apply, numeric_integers hkind (by simp), onIntegers, if_neg hn, Integer.mod?_eq m.holds]
  by_cases hq : m.kind.Holds (m.val.tdiv n.val)
  · rw [if_pos hq, if_pos hq, fitting]
  · rw [if_neg hq, if_neg hq, fitting]

theorem pow_exact (hkind : m.kind = n.kind) (hn : 0 ≤ n.val) (hmax : n.val ≤ Integer.maxExponent) :
    Exact .pow m.kind (m.val ^ n.val.toNat) (BinaryOp.pow.apply (.int m) (.int n)) := by
  refine exact_of_fitting hkind (fun _ => hn) rfl ?_
  rw [onIntegers, Integer.pow?_eq, if_pos ⟨hn, hmax⟩]

theorem pow_eq_overflow (hkind : m.kind = n.kind) (hmax : Integer.maxExponent < n.val) :
    BinaryOp.pow.apply (.int m) (.int n) = .error (.overflow .pow) := by
  have hlarge : Integer.maxExponent = 4294967295 := rfl
  rw [BinaryOp.apply, numeric_integers hkind fun _ => by omega, onIntegers, Integer.pow?_eq, if_neg (by omega), fitting]

/-! ## Quotient and remainder -/

theorem remainder_bounds (a : Int) {b : Int} (hb : b ≠ 0) :
    (a.tmod b).natAbs < b.natAbs ∧ (a.tmod b = 0 ∨ (a.tmod b).sign = a.sign) := by
  constructor
  · rw [Int.natAbs_tmod]
    exact Nat.mod_lt _ (by omega)
  · by_cases h : b ∣ a
    · exact .inl (Int.tmod_eq_zero_of_dvd h)
    · exact .inr ((Int.sign_tmod a b).trans (if_neg h))

theorem quotient_and_remainder (hkind : m.kind = n.kind) {q : Value}
    (hq : BinaryOp.div.apply (.int m) (.int n) = .ok q) :
    ∃ p r : Integer, BinaryOp.mod.apply (.int m) (.int n) = .ok (.int r) ∧
      BinaryOp.mul.apply q (.int n) = .ok (.int p) ∧ BinaryOp.add.apply (.int p) (.int r) = .ok (.int m) ∧
      r.val.natAbs < n.val.natAbs ∧ (r.val = 0 ∨ r.val.sign = m.val.sign) := by
  have hn : n.val ≠ 0 := by
    intro hzero
    rw [(div_eq_divisionByZero_iff hkind).mpr hzero] at hq
    cases hq
  obtain ⟨hholds, rfl⟩ := (div_exact hkind hn).eq_ok hq
  have hproduct := m.holds.tdiv_mul n.val
  have hremainder := m.holds.tmod n.val
  refine ⟨hproduct.integer, hremainder.integer, ?_, ?_, ?_, remainder_bounds m.val hn⟩
  · rw [mod_eq hkind hn, if_pos hholds]
  · exact (mul_exact (m := hholds.integer) hkind).fits hproduct
  · have hsum : m.val.tdiv n.val * n.val + m.val.tmod n.val = m.val := Int.tdiv_mul_add_tmod ..
    have hexact := add_exact (m := hproduct.integer) (n := hremainder.integer) rfl
    rw [Exact.fits hexact (hsum.symm ▸ m.holds)]
    simp [IntKind.Holds.integer, hsum]

/-- **Integer arithmetic is exact or refused.** A sum, a difference, a product or a quotient of two integers of one kind
is the exact one, or an overflow where that does not fit; only a quotient by zero is refused as such. And wherever a
quotient has a value, the remainder has one, smaller than the divisor and of the dividend's sign, and the two with the
divisor make up the dividend. -/
theorem arithmetic_exact (hkind : m.kind = n.kind) :
    Exact .add m.kind (m.val + n.val) (BinaryOp.add.apply (.int m) (.int n)) ∧
    Exact .sub m.kind (m.val - n.val) (BinaryOp.sub.apply (.int m) (.int n)) ∧
    Exact .mul m.kind (m.val * n.val) (BinaryOp.mul.apply (.int m) (.int n)) ∧
    (BinaryOp.div.apply (.int m) (.int n) = .error .divisionByZero ↔ n.val = 0) ∧
    (n.val ≠ 0 → Exact .div m.kind (m.val.tdiv n.val) (BinaryOp.div.apply (.int m) (.int n))) ∧
    ∀ (env : Environment) (a b : Expr) (q : Value), a.evaluate env = .ok (.int m) → b.evaluate env = .ok (.int n) →
      (Expr.binary .div a b).evaluate env = .ok q →
      ∃ p r : Integer, (Expr.binary .mod a b).evaluate env = .ok (.int r) ∧
        (Expr.binary .mul (.binary .div a b) b).evaluate env = .ok (.int p) ∧
        (Expr.binary .add (.binary .mul (.binary .div a b) b) (.binary .mod a b)).evaluate env = .ok (.int m) ∧
        r.val.natAbs < n.val.natAbs ∧ (r.val = 0 ∨ r.val.sign = m.val.sign) := by
  refine ⟨add_exact hkind, sub_exact hkind, mul_exact hkind, div_eq_divisionByZero_iff hkind, div_exact hkind, ?_⟩
  intro env a b q ha hb hdiv
  have hq : BinaryOp.div.apply (.int m) (.int n) = .ok q := (Expr.evaluate_binary .div ha hb).symm.trans hdiv
  obtain ⟨p, r, hr, hp, hsum, hbounds⟩ := quotient_and_remainder hkind hq
  have hmod : (Expr.binary .mod a b).evaluate env = .ok (.int r) := (Expr.evaluate_binary .mod ha hb).trans hr
  have hmul : (Expr.binary .mul (.binary .div a b) b).evaluate env = .ok (.int p) :=
    (Expr.evaluate_binary .mul hdiv hb).trans hp
  exact ⟨p, r, hmod, hmul, (Expr.evaluate_binary .add hmul hmod).trans hsum, hbounds⟩

/-- The least `int8` divided by 3: every step stays in the kind. -/
theorem arithmetic_exact_leastByte :
    let m : Integer := ⟨.int8, -128, by decide, by decide⟩
    let n : Integer := ⟨.int8, 3, by decide, by decide⟩
    let a : Expr := .literal (.int m)
    let b : Expr := .literal (.int n)
    m.kind = n.kind ∧ BinaryOp.sub.apply (.int m) (.int n) = .error (.overflow .sub) ∧
      ∃ r : Integer, (Expr.binary .mod a b).evaluate .empty = .ok (.int r) ∧ r.val = -2 ∧
        (Expr.binary .add (.binary .mul (.binary .div a b) b) (.binary .mod a b)).evaluate .empty = .ok (.int m) := by
  intro m n a b
  obtain ⟨-, hsub, -, -, -, hdiv⟩ := arithmetic_exact (m := m) (n := n) rfl
  obtain ⟨p, r, hr, -, hsum, -⟩ := hdiv .empty a b (.int ⟨.int8, -42, by decide, by decide⟩) rfl rfl rfl
  have hval : (Expr.binary .mod a b).evaluate .empty = .ok (.int ⟨.int8, -2, by decide, by decide⟩) := by rfl
  refine ⟨rfl, hsub.overflow (by decide), r, hr, ?_, hsum⟩
  rw [hval] at hr
  cases hr
  rfl

/-! ## Powers and remainders that are refused -/

/-- **Powers and remainders are exact or refused, with two exceptions.** A power with an exponent that is not negative is
the exact one, or an overflow where that does not fit. But an exponent beyond 32 bits is always refused, although the
powers of 0, 1 and -1 fit. A remainder always fits and is the exact one, but that of the least number by -1 is refused. -/
theorem power_and_remainder_exact (hkind : m.kind = n.kind) :
    (0 ≤ n.val → n.val ≤ Integer.maxExponent ∨ 2 ≤ m.val.natAbs →
      Exact .pow m.kind (m.val ^ n.val.toNat) (BinaryOp.pow.apply (.int m) (.int n))) ∧
    (Integer.maxExponent < n.val → m.val.natAbs ≤ 1 →
      m.kind.Holds (m.val ^ n.val.toNat) ∧ BinaryOp.pow.apply (.int m) (.int n) = .error (.overflow .pow)) ∧
    (n.val ≠ 0 → m.kind.Holds (m.val.tmod n.val) ∧
      (¬ (m.val = m.kind.min ∧ n.val = -1) →
        Exact .mod m.kind (m.val.tmod n.val) (BinaryOp.mod.apply (.int m) (.int n))) ∧
      (m.val = m.kind.min ∧ n.val = -1 →
        m.val.tmod n.val = 0 ∧ BinaryOp.mod.apply (.int m) (.int n) = .error (.overflow .mod))) := by
  refine ⟨?_, ?_, ?_⟩
  · intro hn hsmall
    by_cases hmax : n.val ≤ Integer.maxExponent
    · exact pow_exact hkind hn hmax
    · have hlarge : Integer.maxExponent = 4294967295 := rfl
      have hnot : ¬ m.kind.Holds (m.val ^ n.val.toNat) := IntKind.not_holds_pow (by omega) (by omega)
      exact ⟨fun h => absurd h hnot, fun _ => pow_eq_overflow hkind (by omega)⟩
  · intro hmax hsmall
    exact ⟨m.holds.pow hsmall _, pow_eq_overflow hkind hmax⟩
  · intro hn
    have hholds := m.holds.tmod n.val
    have hfits : m.kind.Holds (m.val.tdiv n.val) ↔ ¬ (m.val = m.kind.min ∧ n.val = -1) :=
      m.holds.tdiv_iff (hkind ▸ n.holds) hn
    refine ⟨hholds, fun h => ?_, fun h => ?_⟩
    · rw [mod_eq hkind hn, if_pos (hfits.mpr h)]
      exact ⟨fun _ => rfl, fun hnot => absurd hholds hnot⟩
    · refine ⟨?_, ?_⟩
      · rw [h.2, Int.tmod_neg, Int.tmod_one]
      · rw [mod_eq hkind hn, if_neg fun hq => hfits.mp hq h]

/-- The least `int64` is a power of -2, and still fits. -/
theorem power_and_remainder_exact_least :
    let m : Integer := ⟨.int64, -2, by decide, by decide⟩
    let n : Integer := ⟨.int64, 63, by decide, by decide⟩
    m.kind = n.kind ∧ 0 ≤ n.val ∧ n.val ≤ Integer.maxExponent ∧ ¬ (m.val = m.kind.min ∧ n.val = -1) ∧
      (∃ r : Integer, BinaryOp.pow.apply (.int m) (.int n) = .ok (.int r) ∧ r.val = -9223372036854775808) ∧
      BinaryOp.mod.apply (.int m) (.int n) = .ok (.int m) := by
  intro m n
  obtain ⟨hpow, -, hmod⟩ := power_and_remainder_exact (m := m) (n := n) rfl
  have hsmall : n.val ≤ Integer.maxExponent := by decide
  have hregular : ¬ (m.val = m.kind.min ∧ n.val = -1) := by decide
  have hpower : m.kind.Holds (m.val ^ n.val.toNat) := by decide
  obtain ⟨hholds, hexact, -⟩ := hmod (by decide)
  refine ⟨rfl, by decide, hsmall, hregular, ⟨hpower.integer, ?_, ?_⟩, (hexact hregular).fits hholds⟩
  · exact (hpow (by decide) (.inl hsmall)).fits hpower
  · show (-2 : Int) ^ 63 = -9223372036854775808
    norm_num

/-- Both exceptions: a power of 1 and the remainder of the least byte are refused as overflows, although both fit. -/
theorem power_and_remainder_refused :
    let one : Integer := ⟨.int64, 1, by decide, by decide⟩
    let high : Integer := ⟨.int64, 4294967296, by decide, by decide⟩
    let least : Integer := ⟨.int8, -128, by decide, by decide⟩
    let minusOne : Integer := ⟨.int8, -1, by decide, by decide⟩
    (one.kind = high.kind ∧ 0 ≤ high.val ∧ one.kind.Holds (one.val ^ high.val.toNat) ∧
      BinaryOp.pow.apply (.int one) (.int high) = .error (.overflow .pow)) ∧
    least.kind = minusOne.kind ∧ minusOne.val ≠ 0 ∧ least.kind.Holds (least.val.tmod minusOne.val) ∧
      BinaryOp.mod.apply (.int least) (.int minusOne) = .error (.overflow .mod) := by
  intro one high least minusOne
  have hpower : one.kind.Holds (one.val ^ high.val.toNat) := one.holds.pow (by decide) _
  exact ⟨⟨rfl, by decide, hpower, rfl⟩, rfl, by decide, by decide, rfl⟩

end Verdict.Operation
