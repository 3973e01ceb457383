import Verdict.Proofs.Value.Equality

/-!
# Comparisons as one order

The four comparisons and equality look at the same places of two numbers or strings (`Placed`), so that they agree on
which of the two is the lesser, and `<` is transitive although some pairs of numbers are compared exactly and others as
doubles, since rounding keeps the order (`comparisons_coherent`).
-/

namespace Verdict.Operation

open Value

/-- Two numbers of any kinds, or two strings. -/
def Comparable (a b : Value) : Prop :=
  a.type.isNumeric = true ∧ b.type.isNumeric = true ∨ a.type = .string ∧ b.type = .string

theorem Comparable.trans {a b c : Value} (hab : Comparable a b) (hbc : Comparable b c) : Comparable a c := by
  rcases hab with ⟨ha, hb⟩ | ⟨ha, hb⟩
  · rcases hbc with ⟨-, hc⟩ | ⟨hb', -⟩
    · exact .inl ⟨ha, hc⟩
    · rw [hb'] at hb
      cases hb
  · rcases hbc with ⟨hb', -⟩ | ⟨-, hc⟩
    · rw [hb] at hb'
      cases hb'
    · exact .inr ⟨ha, hc⟩

/-- How two values compare that can be told apart. -/
inductive Placed : Value → Value → Ordering → Prop
  | strings (s t : String) : Placed (.string s) (.string t) (compare s t)
  /-- Integers are compared exactly. -/
  | integers (m n : Integer) : Placed (.int m) (.int n) (compare m.val n.val)
  /-- Other pairs of numbers are compared as doubles. -/
  | numbers {a b : Value} {i j : Int} (ha : a.rank = some i) (hb : b.rank = some j) (h : a.int? = none ∨ b.int? = none) :
      Placed a b (compare i j)

variable {a b c : Value} {o : Ordering}

theorem exists_float (h : a.type.isNumeric = true) : ∃ x, a.float? = some x :=
  Option.isSome_iff_exists.mp ((float?_isSome a).trans h)

theorem order?_of_float {x y : Float} (hx : a.float? = some x) (hy : b.float? = some y)
    (h : a.int? = none ∨ b.int? = none) : order? a b = some (orderFloats x y) := by
  cases a with
  | int m =>
    cases b with
    | int n => rcases h with h | h <;> cases h
    | float32 _ | float64 _ =>
      cases hx
      cases hy
      rfl
    | _ => cases hy
  | float32 _ | float64 _ =>
    cases b with
    | int _ | float32 _ | float64 _ =>
      cases hx
      cases hy
      rfl
    | _ => cases hy
  | _ => cases hx

/-! ## One place for all comparisons -/

theorem Placed.order?_eq (h : Placed a b o) : order? a b = some (some o) := by
  cases h with
  | strings s t => rfl
  | integers m n => rfl
  | numbers ha hb h =>
    obtain ⟨x, hx, hi⟩ := Option.bind_eq_some_iff.mp ha
    obtain ⟨y, hy, hj⟩ := Option.bind_eq_some_iff.mp hb
    rw [order?_of_float hx hy h, Binary.orderFloats_eq, hi, hj]
    rfl

theorem Placed.swap (h : Placed a b o) : Placed b a o.swap := by
  cases h with
  | strings s t =>
    rw [← Std.OrientedCmp.eq_swap]
    exact .strings t s
  | integers m n =>
    rw [Int.compare_swap]
    exact .integers n m
  | numbers ha hb h =>
    rw [Int.compare_swap]
    exact .numbers hb ha h.symm

theorem Placed.isNaN (h : Placed a b o) : (a.isNaN || b.isNaN) = false := by
  cases h with
  | strings s t => rfl
  | integers m n => rfl
  | numbers ha hb _ => rw [isNaN_of_rank ha, isNaN_of_rank hb, Bool.or_self]

theorem Placed.equal_eq (h : Placed a b o) : a.equal b = (o == .eq) := by
  rw [Bool.eq_iff_iff, beq_iff_eq]
  cases h with
  | strings s t =>
    rw [Std.LawfulEqCmp.compare_eq_iff_eq]
    exact beq_iff_eq
  | integers m n =>
    rw [Int.compare_eq_eq]
    exact beq_iff_eq
  | numbers ha hb h =>
    rw [Int.compare_eq_eq]
    refine (equal_iff_agree (isScalar_of_rank ha)).trans ⟨fun hagree => ?_, ?_⟩
    · exact Option.some.inj (ha.symm.trans (hagree.rank_eq.trans hb))
    · rintro rfl
      exact .number ha hb h

theorem exists_placed (h : Comparable a b) (hnan : (a.isNaN || b.isNaN) = false) : ∃ o, Placed a b o := by
  rcases h with ⟨ha, hb⟩ | ⟨ha, hb⟩
  · obtain ⟨hna, hnb⟩ := Bool.or_eq_false_iff.mp hnan
    obtain ⟨x, hx⟩ := exists_float ha
    obtain ⟨y, hy⟩ := exists_float hb
    obtain ⟨i, hi⟩ := rank_isSome hx hna
    obtain ⟨j, hj⟩ := rank_isSome hy hnb
    by_cases hfloat : a.int? = none ∨ b.int? = none
    · exact ⟨_, .numbers hi hj hfloat⟩
    · obtain ⟨hint, hint'⟩ := not_or.mp hfloat
      obtain ⟨m, rfl⟩ := eq_int_of_int? hint
      obtain ⟨n, rfl⟩ := eq_int_of_int? hint'
      exact ⟨_, .integers m n⟩
  · cases a with
    | string s =>
      cases b with
      | string t => exact ⟨_, .strings s t⟩
      | _ => cases hb
    | _ => cases ha

theorem order?_of_isNaN (h : Comparable a b) (hnan : (a.isNaN || b.isNaN) = true) : order? a b = some none := by
  rcases h with ⟨ha, hb⟩ | ⟨ha, hb⟩
  · obtain ⟨x, hx⟩ := exists_float ha
    obtain ⟨y, hy⟩ := exists_float hb
    have hfloat : a.int? = none ∨ b.int? = none := by
      rcases Bool.or_eq_true_iff.mp hnan with h | h
      · cases a with
        | int n => cases h
        | _ => exact .inl rfl
      · cases b with
        | int n => cases h
        | _ => exact .inr rfl
    rw [order?_of_float hx hy hfloat, Binary.orderFloats_eq]
    have hrank {v : Value} {z : Float} (hz : v.float? = some z) (hv : v.isNaN = true) : Binary.rank z = none := by
      cases hi : Binary.rank z with
      | none => rfl
      | some i =>
        have hsome : v.rank = some i := by rw [rank, hz, Option.bind_some, hi]
        exact absurd ((isNaN_of_rank hsome).symm.trans hv) Bool.false_ne_true
    rcases Bool.or_eq_true_iff.mp hnan with h | h
    · rw [hrank hx h]
      rfl
    · rw [hrank hy h]
      cases Binary.rank x <;> rfl
  · cases a with
    | string s =>
      cases b with
      | string t => cases hnan
      | _ => cases hb
    | _ => cases ha

/-! ## Transitivity -/

/-- What comes first: of two integers the lesser one, and otherwise the lesser double. -/
theorem Placed.lt_cases (h : Placed a b o) (ho : o = .lt) :
    (∃ s t, a = .string s ∧ b = .string t ∧ compare s t = .lt) ∨
      ∃ i j, a.rank = some i ∧ b.rank = some j ∧ i ≤ j ∧ (i < j ∨ ∃ m n, a = .int m ∧ b = .int n ∧ m.val < n.val) := by
  cases h with
  | strings s t => exact .inl ⟨s, t, rfl, rfl, ho⟩
  | integers m n =>
    have hlt := Int.compare_eq_lt.mp ho
    have hm := m.bounds
    have hn := n.bounds
    exact .inr ⟨_, _, rank_int m, rank_int n, Binary.position_mono hlt.le (by omega) (by omega), .inr ⟨m, n, rfl, rfl, hlt⟩⟩
  | numbers ha hb h =>
    have hlt := Int.compare_eq_lt.mp ho
    exact .inr ⟨_, _, ha, hb, hlt.le, .inl hlt⟩

theorem Placed.trans (hab : Placed a b .lt) (hbc : Placed b c .lt) : Placed a c .lt := by
  rcases hab.lt_cases rfl with ⟨s, t, rfl, rfl, hst⟩ | ⟨i, j, hi, hj, hij, hstrict⟩
  · rcases hbc.lt_cases rfl with ⟨t', u, ht, rfl, htu⟩ | ⟨j, k, hj, -⟩
    · cases ht
      exact Std.TransCmp.lt_trans hst htu ▸ .strings s u
    · cases hj
  · rcases hbc.lt_cases rfl with ⟨t, u, rfl, -⟩ | ⟨j', k, hj', hk, hjk, hstrict'⟩
    · cases hj
    · obtain rfl : j = j' := Option.some.inj (hj.symm.trans hj')
      by_cases hfloat : a.int? = none ∨ c.int? = none
      · -- One of the steps is between doubles, so it is strict there.
        have hlt : i < k := by
          rcases hstrict with h | ⟨m, n, rfl, rfl, -⟩
          · omega
          · rcases hstrict' with h | ⟨m', n', -, rfl, -⟩
            · omega
            · rcases hfloat with h | h <;> cases h
        exact Int.compare_eq_lt.mpr hlt ▸ .numbers hi hk hfloat
      · obtain ⟨hint, hint'⟩ := not_or.mp hfloat
        obtain ⟨m, rfl⟩ := eq_int_of_int? hint
        obtain ⟨n, rfl⟩ := eq_int_of_int? hint'
        -- Rounding keeps the order, so integers whose doubles are in order are in order themselves.
        have hround (h : i < k) : m.val < n.val := by
          by_contra hle
          have hm := m.bounds
          have hn := n.bounds
          have hmono := Binary.position_mono (by omega : n.val ≤ m.val) (by omega) (by omega)
          rw [rank_int] at hi hk
          cases hi
          cases hk
          omega
        have hlt : m.val < n.val := by
          rcases hstrict with h | ⟨m', k', hm, rfl, h⟩
          · exact hround (by omega)
          · rcases hstrict' with h' | ⟨k'', n', hk', hn, h'⟩
            · exact hround (by omega)
            · cases hm
              cases hk'
              cases hn
              omega
        exact Int.compare_eq_lt.mpr hlt ▸ .integers m n

/-! ## The operators -/

/-- What the comparisons and equality have in common: one answer to how the two values compare. -/
theorem exists_order (h : Comparable a b) : ∃ o : Option Ordering,
    order? a b = some o ∧ order? b a = some (o.map Ordering.swap) ∧ a.equal b = (o == some .eq) ∧
      o.isNone = (a.isNaN || b.isNaN) := by
  cases hnan : a.isNaN || b.isNaN with
  | false =>
    obtain ⟨o, ho⟩ := exists_placed h hnan
    exact ⟨some o, ho.order?_eq, ho.swap.order?_eq, ho.equal_eq, rfl⟩
  | true =>
    have hba : Comparable b a := h.imp And.symm And.symm
    refine ⟨none, order?_of_isNaN h hnan, order?_of_isNaN hba (Bool.or_comm _ _ ▸ hnan), ?_, rfl⟩
    refine Bool.eq_false_iff.mpr fun heq => ?_
    rcases Bool.or_eq_true_iff.mp hnan with hna | hnb
    · exact not_equal_of_occurs .self hna b heq
    · exact not_equal_of_occurs .self hnb a (Equal.symm heq)

theorem comparison_of_order {op : BinaryOp} {accept : Ordering → Bool} {o : Option Ordering} (h : order? a b = some o) :
    comparison op accept a b = .ok (.bool (o.any accept)) := by
  rw [comparison, h]

theorem lt_iff_placed (h : Comparable a b) : BinaryOp.lt.apply a b = .ok (.bool true) ↔ Placed a b .lt := by
  have hlt {o : Option Ordering} (ho : order? a b = some o) :
      BinaryOp.lt.apply a b = .ok (.bool true) ↔ o.any Ordering.isLT = true := by
    rw [BinaryOp.apply, comparison_of_order ho, Except.ok.injEq, Value.bool.injEq]
  cases hnan : a.isNaN || b.isNaN with
  | false =>
    obtain ⟨o, ho⟩ := exists_placed h hnan
    rw [hlt ho.order?_eq, Option.any_some, Ordering.isLT_iff_eq_lt]
    constructor
    · rintro rfl
      exact ho
    · exact fun ho' => Option.some.inj (Option.some.inj (ho.order?_eq.symm.trans ho'.order?_eq))
  | true =>
    rw [hlt (order?_of_isNaN h hnan)]
    exact ⟨nofun, fun ho => absurd (ho.isNaN.symm.trans hnan) nofun⟩

/-- **The comparisons form one order.** Of two numbers or two strings none of which is `NaN` exactly one is less than the
other or both are equal; with a `NaN` no comparison holds, but none fails either. And `<` is transitive. -/
theorem comparisons_coherent (hab : Comparable a b) (hbc : Comparable b c) :
    ∃ lt eq gt : Bool,
      BinaryOp.lt.apply a b = .ok (.bool lt) ∧ BinaryOp.eq.apply a b = .ok (.bool eq) ∧
      BinaryOp.gt.apply a b = .ok (.bool gt) ∧ BinaryOp.le.apply a b = .ok (.bool (lt || eq)) ∧
      BinaryOp.ge.apply a b = .ok (.bool (gt || eq)) ∧ BinaryOp.gt.apply b a = .ok (.bool lt) ∧
      lt.toNat + eq.toNat + gt.toNat = (if a.isNaN || b.isNaN then 0 else 1) ∧
      (lt = true → BinaryOp.lt.apply b c = .ok (.bool true) → BinaryOp.lt.apply a c = .ok (.bool true)) := by
  obtain ⟨o, ho, hswap, hequal, hnan⟩ := exists_order hab
  have hle : o.any Ordering.isLE = (o.any Ordering.isLT || o == some .eq) := by
    cases o with
    | none => rfl
    | some o => cases o <;> rfl
  have hge : o.any Ordering.isGE = (o.any Ordering.isGT || o == some .eq) := by
    cases o with
    | none => rfl
    | some o => cases o <;> rfl
  have hgt : (o.map Ordering.swap).any Ordering.isGT = o.any Ordering.isLT := by
    cases o with
    | none => rfl
    | some o => cases o <;> rfl
  have hlt : BinaryOp.lt.apply a b = .ok (.bool (o.any Ordering.isLT)) := comparison_of_order ho
  refine ⟨o.any Ordering.isLT, o == some .eq, o.any Ordering.isGT, hlt, ?_, comparison_of_order ho, ?_, ?_, ?_, ?_, ?_⟩
  · rw [BinaryOp.apply, hequal]
  · rw [BinaryOp.apply, comparison_of_order ho, hle]
  · rw [BinaryOp.apply, comparison_of_order ho, hge]
  · rw [BinaryOp.apply, comparison_of_order hswap, hgt]
  · rw [← hnan]
    cases o with
    | none => rfl
    | some o => cases o <;> rfl
  · intro h hlt'
    rw [h, lt_iff_placed hab] at hlt
    rw [lt_iff_placed hbc] at hlt'
    exact (lt_iff_placed (hab.trans hbc)).mpr (hlt.trans hlt')

/-- Three numbers of three kinds, beyond the integers that all are doubles. -/
theorem comparisons_coherent_far :
    let a : Value := .int ⟨.int64, 9007199254740992, by decide, by decide⟩
    let b : Value := .float64 9007199254740994
    let c : Value := .int ⟨.uint64, 9007199254740995, by decide, by decide⟩
    Comparable a b ∧ Comparable b c ∧ BinaryOp.lt.apply a b = .ok (.bool true) ∧
      BinaryOp.lt.apply b c = .ok (.bool true) ∧ BinaryOp.lt.apply a c = .ok (.bool true) := by
  intro a b c
  have hab : Comparable a b := .inl ⟨rfl, rfl⟩
  have hbc : Comparable b c := .inl ⟨rfl, rfl⟩
  have hlt : BinaryOp.lt.apply a b = .ok (.bool true) := by rfl
  have hlt' : BinaryOp.lt.apply b c = .ok (.bool true) := by rfl
  obtain ⟨lt, -, -, h, -, -, -, -, -, -, htrans⟩ := comparisons_coherent hab hbc
  have heq : lt = true := by
    rw [hlt] at h
    cases h
    rfl
  exact ⟨hab, hbc, hlt, hlt', htrans heq hlt'⟩

end Verdict.Operation
