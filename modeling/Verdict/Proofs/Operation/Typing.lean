import Verdict.Proofs.Value.Equality

/-!
# The types of results

Which operators are defined for which types, and the type of what they give, is one table over the operator and the two
types (`BinaryOp.typing`). Values of admitted types can still be at fault (`Operation.fault?`): a divisor is zero, a
result or the amount of a shift does not fit, a pattern cannot be read. There is no other way to fail
(`Operation.apply_type`).
-/

namespace Verdict

/-! ## The table -/

namespace BinaryOp

def ofStrings (left right : ValueType) : Bool := left == .string && right == .string

def ofNumbers (left right : ValueType) : Bool := left.isNumeric && right.isNumeric

def ofOneKind (left right : ValueType) : Bool := left.isInteger && left == right

/-- The result is of type `result` where the two types are admitted. -/
def require (op : BinaryOp) (left right : ValueType) (admitted : Bool) (result : ValueType) :
    Except EvalError ValueType :=
  if admitted then .ok result else .error (.typeMismatch op left right)

/-- Two integers are worked on in their kind, except for an inverse power. -/
def inKind (op : BinaryOp) (left right : ValueType) (inverse : Bool) : Bool :=
  ofOneKind left right && !(op == .pow && inverse)

/-- The type of a calculation with two numbers. -/
def calculation (op : BinaryOp) (left right : ValueType) (inverse : Bool) : Except EvalError ValueType :=
  op.require left right (ofNumbers left right) (if op.inKind left right inverse then left else .float64)

/-- The type of the result of an operator. `inverse` tells that the right operand is a negative integer: a power with
such an exponent is a double. -/
def typing (op : BinaryOp) (left right : ValueType) (inverse : Bool) : Except EvalError ValueType :=
  match op with
  | .eq | .ne => .ok .bool
  | .lt | .le | .gt | .ge => op.require left right (ofStrings left right || ofNumbers left right) .bool
  | .and | .or | .xor =>
    if left ≠ .bool then .error (.nonBoolean (.left op) left)
    else if right ≠ .bool then .error (.nonBoolean (.right op) right)
    else .ok .bool
  | .add =>
    if left = .string ∨ right = .string then .ok .string else op.calculation left right inverse
  | .sub | .mul | .div | .mod | .pow => op.calculation left right inverse
  | .bitAnd | .bitOr | .bitXor | .shl | .shr => op.require left right (ofOneKind left right) left
  | .within => op.require left right ([.array, .set, .map, .struct, .string].contains right) .bool
  | .contains => op.require left right ([.array, .set].contains left || ofStrings left right) .bool
  | .startsWith | .endsWith | .matching => op.require left right (ofStrings left right) .bool

/-- The operators that calculate with numbers. -/
def calculating : List BinaryOp := [.add, .sub, .mul, .div, .mod, .pow]

/-- The operators on words. -/
def onWords : List BinaryOp := [.bitAnd, .bitOr, .bitXor, .shl, .shr]

end BinaryOp

namespace Operation

open BinaryOp

/-! ## Faults of values -/

/-- A number that is zero. -/
def isZero : Value → Bool
  | .int n => n.val = 0
  | v => v.float?.any (· == 0)

/-- An integer below zero. -/
def isNegative (v : Value) : Bool := v.int?.any (· < 0)

/-- The exact result on two integers of kind `k` leaves the kind's range, or the amount of a shift is no position in the
word. A remainder is taken where its quotient fits. A negative exponent is no matter of integers, and one beyond 32 bits
is refused. -/
def overflows (op : BinaryOp) (k : IntKind) (a b : Int) : Bool :=
  match op with
  | .add => ¬ k.Holds (a + b)
  | .sub => ¬ k.Holds (a - b)
  | .mul => ¬ k.Holds (a * b)
  | .div | .mod => ¬ k.Holds (a.tdiv b)
  | .pow => 0 ≤ b ∧ ¬ (b ≤ Integer.maxExponent ∧ k.Holds (a ^ b.toNat))
  | .shl | .shr => ¬ (0 ≤ b ∧ b < k.width)
  | _ => false

def overflow? (op : BinaryOp) (left right : Value) : Option EvalError :=
  match left, right with
  | .int m, .int n => if m.kind = n.kind ∧ overflows op m.kind m.val n.val then some (.overflow op) else none
  | _, _ => none

def unreadable? : Value → Option EvalError
  | .string source =>
    match Pattern.compile source with
    | .ok _ => none
    | .error fault => some (.invalidPattern source fault)
  | _ => none

/-- The error that values cause whose types are admitted. -/
def fault? (op : BinaryOp) (left right : Value) : Option EvalError :=
  match op with
  | .div => if isZero right then some .divisionByZero else overflow? op left right
  | .mod => if isZero right then some .moduloByZero else overflow? op left right
  | .add | .sub | .mul | .pow | .shl | .shr => overflow? op left right
  | .matching => unreadable? right
  | _ => none

/-- What the types say, unless the values are at fault. -/
def settle (types : Except EvalError ValueType) (fault : Option EvalError) : Except EvalError ValueType :=
  match types, fault with
  | .error e, _ | .ok _, some e => .error e
  | .ok t, none => .ok t

@[simp] theorem settle_error (e : EvalError) (fault : Option EvalError) : settle (.error e) fault = .error e := by
  cases fault <;> rfl

@[simp] theorem settle_none (types : Except EvalError ValueType) : settle types none = types := by
  cases types <;> rfl

variable {op : BinaryOp} {a b : Value} {x y : Float}

/-! ## Types and values -/

theorem order?_isSome (a b : Value) : (order? a b).isSome = (ofStrings a.type b.type || ofNumbers a.type b.type) := by
  cases a <;> cases b <;> rfl

theorem isString_eq (v : Value) : isString v = (v.type == .string) := by
  cases v <;> rfl

theorem isZero_int {n : Integer} : isZero (.int n) = true ↔ n.val = 0 := decide_eq_true_iff

theorem isZero_eq (h : a.float? = some x) : isZero a = (x == 0) := by
  cases a with
  | int n =>
    have hbounds := n.bounds
    obtain rfl : Binary.ofInt n.val = x := Option.some.inj h
    have hrank := Binary.rank_ofInt (by omega : n.val.natAbs < 2 ^ 100)
    rw [Bool.eq_iff_iff, isZero_int, Binary.beq_iff, hrank]
    constructor
    · intro hzero
      rw [hzero]
      exact ⟨0, rfl, rfl⟩
    · rintro ⟨i, hi, hzero⟩
      by_contra hne
      have heq : Binary.position n.val = Binary.position 0 := Option.some.inj (hi.trans hzero.symm)
      have hfar := Binary.far_of_position_eq hne heq (by omega) (by decide)
      omega
  | float32 z | float64 z =>
    cases h
    rfl
  | _ => cases h

/-! ## Integers of one kind -/

section integers

variable {m n : Integer} {k : IntKind} {i j : Int}

theorem fitting_type {r : Option Integer} (hkind : ∀ n, r = some n → n.kind = k)
    (hnone : r = none ↔ overflows op k i j = true) :
    (fitting op r).map Value.type =
      settle (.ok (.int k)) (if overflows op k i j then some (.overflow op) else none) := by
  cases r with
  | none =>
    rw [if_pos (hnone.mp rfl)]
    rfl
  | some n =>
    rw [if_neg (fun h => nomatch hnone.mpr h), ← hkind n rfl]
    rfl

theorem overflow?_int (hkind : m.kind = n.kind) :
    overflow? op (.int m) (.int n) = if overflows op m.kind m.val n.val then some (.overflow op) else none := by
  simp only [overflow?, hkind, true_and]

/-- On two integers of one kind an operator gives one of that kind, unless their numbers are at fault. -/
theorem onIntegers_type (hop : op ∈ calculating ∨ op ∈ onWords) (hkind : m.kind = n.kind)
    (hexp : op = .pow → 0 ≤ n.val) :
    (onIntegers op m.kind m.val n.val).map Value.type = settle (.ok (.int m.kind)) (fault? op (.int m) (.int n)) := by
  cases op with
  | add | sub | mul =>
    rw [fault?, overflow?_int hkind]
    exact fitting_type (fun _ => Integer.kind_of_ofInt?) (Integer.ofInt?_eq_none_iff.trans decide_eq_true_iff.symm)
  | div =>
    rw [fault?, overflow?_int hkind, onIntegers]
    by_cases hzero : n.val = 0
    · rw [if_pos hzero, if_pos (isZero_int.mpr hzero)]
      rfl
    · rw [if_neg hzero, if_neg (hzero ∘ isZero_int.mp)]
      exact fitting_type (fun _ => Integer.kind_of_ofInt?) (Integer.ofInt?_eq_none_iff.trans decide_eq_true_iff.symm)
  | mod =>
    rw [fault?, overflow?_int hkind, onIntegers]
    by_cases hzero : n.val = 0
    · rw [if_pos hzero, if_pos (isZero_int.mpr hzero)]
      rfl
    · rw [if_neg hzero, if_neg (hzero ∘ isZero_int.mp)]
      have hnone := Integer.mod?_eq_none_iff m.holds (b := n.val)
      exact fitting_type (fun _ => Integer.kind_of_mod?) (hnone.trans decide_eq_true_iff.symm)
  | pow =>
    rw [fault?, overflow?_int hkind]
    refine fitting_type (fun _ => Integer.kind_of_pow?) (Integer.pow?_eq_none_iff.trans ?_)
    simp only [overflows, hexp rfl, true_and, decide_eq_true_iff]
  | bitAnd | bitOr | bitXor => rfl
  | shl =>
    rw [fault?, overflow?_int hkind]
    exact fitting_type (fun _ => Integer.kind_of_shl?) (Integer.shl?_eq_none_iff.trans decide_eq_true_iff.symm)
  | shr =>
    rw [fault?, overflow?_int hkind]
    exact fitting_type (fun _ => Integer.kind_of_shr?) (Integer.shr?_eq_none_iff.trans decide_eq_true_iff.symm)
  | _ => exact absurd hop (by decide)

end integers

/-! ## Numbers -/

theorem ofOneKind_iff :
    ofOneKind a.type b.type = true ↔ ∃ m n : Integer, a = .int m ∧ b = .int n ∧ m.kind = n.kind := by
  constructor
  · intro h
    obtain ⟨hint, htype⟩ := Bool.and_eq_true_iff.mp h
    cases a with
    | int m =>
      cases b with
      | int n => exact ⟨m, n, rfl, rfl, ValueType.int.inj (eq_of_beq htype)⟩
      | _ => cases eq_of_beq htype
    | _ => cases hint
  · rintro ⟨m, n, rfl, rfl, hkind⟩
    rw [ofOneKind, Value.type, Value.type, hkind, beq_self_eq_true]
    rfl

theorem inKind_iff :
    op.inKind a.type b.type (isNegative b) = true ↔
      ∃ m n : Integer, a = .int m ∧ b = .int n ∧ m.kind = n.kind ∧ (op = .pow → 0 ≤ n.val) := by
  rw [inKind, Bool.and_eq_true, ofOneKind_iff, Bool.not_eq_true', Bool.and_eq_false_iff, beq_eq_false_iff_ne]
  constructor
  · rintro ⟨⟨m, n, rfl, rfl, hkind⟩, hexp⟩
    refine ⟨m, n, rfl, rfl, hkind, fun hop => ?_⟩
    exact Int.not_lt.mp (of_decide_eq_false (hexp.resolve_left (absurd hop)))
  · rintro ⟨m, n, rfl, rfl, hkind, hexp⟩
    refine ⟨⟨m, n, rfl, rfl, hkind⟩, or_iff_not_imp_left.mpr fun hop => ?_⟩
    exact decide_eq_false (Int.not_lt.mpr (hexp (not_not.mp hop)))

theorem sameKind?_eq_none (h : ofOneKind a.type b.type = false) : sameKind? a b = none := by
  cases a with
  | int m =>
    cases b with
    | int n => exact if_neg fun hkind => (Bool.eq_false_iff.mp h) (ofOneKind_iff.mpr ⟨m, n, rfl, rfl, hkind⟩)
    | _ => rfl
  | _ => rfl

theorem overflow?_eq_none (h : op.inKind a.type b.type (isNegative b) = false) : overflow? op a b = none := by
  cases a with
  | int m =>
    cases b with
    | int n =>
      refine if_neg fun ⟨hkind, hover⟩ => (Bool.eq_false_iff.mp h) (inKind_iff.mpr ⟨m, n, rfl, rfl, hkind, ?_⟩)
      rintro rfl
      exact (of_decide_eq_true hover).1
    | _ => rfl
  | _ => rfl

theorem onFloats_type (hop : op ∈ calculating) (hb : b.float? = some y) (hover : overflow? op a b = none) :
    (onFloats op x y).map Value.type = settle (.ok .float64) (fault? op a b) := by
  cases op with
  | add | sub | mul | pow =>
    rw [fault?, hover]
    rfl
  | div | mod =>
    rw [fault?, hover, isZero_eq hb, onFloats]
    split <;> rfl
  | _ => exact absurd hop (by decide)

section oneKind

variable {m n : Integer}

theorem sameKind?_integers (hkind : m.kind = n.kind) :
    sameKind? (.int m) (.int n) = some (m.kind, m.val, n.val) := if_pos hkind

theorem numeric_integers (hkind : m.kind = n.kind) (hexp : op = .pow → 0 ≤ n.val) :
    numeric op (.int m) (.int n) = onIntegers op m.kind m.val n.val := by
  have hinverse : isInversePower op (.int n) = false := by
    refine Bool.eq_false_iff.mpr fun h => ?_
    obtain ⟨hop, hneg⟩ := Bool.and_eq_true_iff.mp h
    exact Int.not_lt.mpr (hexp (of_decide_eq_true hop)) (of_decide_eq_true hneg)
  rw [numeric, hinverse, if_neg Bool.false_ne_true, sameKind?_integers hkind]

theorem bitwise_integers (hkind : m.kind = n.kind) :
    bitwise op (.int m) (.int n) = onIntegers op m.kind m.val n.val := by
  rw [bitwise, sameKind?_integers hkind]

end oneKind

/-- The ways in which an operator on numbers goes. -/
inductive Numeric (op : BinaryOp) : Value → Value → Outcome → Prop
  | integers {m n : Integer} (hkind : m.kind = n.kind) (hexp : op = .pow → 0 ≤ n.val) :
      Numeric op (.int m) (.int n) (onIntegers op m.kind m.val n.val)
  | doubles {a b : Value} {x y : Float} (ha : a.float? = some x) (hb : b.float? = some y)
      (h : op.inKind a.type b.type (isNegative b) = false) : Numeric op a b (onFloats op x y)
  | mismatch {a b : Value} (h : ofNumbers a.type b.type = false) : Numeric op a b (mismatch op a b)

theorem numeric_cases (op : BinaryOp) (a b : Value) : Numeric op a b (numeric op a b) := by
  cases h : op.inKind a.type b.type (isNegative b) with
  | true =>
    obtain ⟨m, n, rfl, rfl, hkind, hexp⟩ := inKind_iff.mp h
    rw [numeric_integers hkind hexp]
    exact .integers hkind hexp
  | false =>
    have hsame : (if isInversePower op b then none else sameKind? a b) = none := by
      rcases Bool.and_eq_false_iff.mp h with hone | hinverse
      · rw [sameKind?_eq_none hone, ite_self]
      · exact if_pos ((Bool.not_eq_false' _).mp hinverse)
    rw [numeric, hsame]
    cases ha : a.float? with
    | none =>
      refine .mismatch ?_
      rw [ofNumbers, ← Value.float?_isSome, ha]
      rfl
    | some x =>
      cases hb : b.float? with
      | none =>
        refine .mismatch ?_
        rw [ofNumbers, ← Value.float?_isSome b, hb, Bool.and_comm]
        rfl
      | some y => exact .doubles ha hb h

theorem Numeric.type {o : Outcome} (h : Numeric op a b o) (hop : op ∈ calculating) :
    o.map Value.type = settle (op.calculation a.type b.type (isNegative b)) (fault? op a b) := by
  cases h with
  | @integers m n hkind hexp =>
    rw [onIntegers_type (.inl hop) hkind hexp, calculation, inKind_iff.mpr ⟨m, n, rfl, rfl, hkind, hexp⟩]
    rfl
  | doubles ha hb h =>
    have hnumbers : ofNumbers a.type b.type = true := by
      rw [ofNumbers, ← Value.float?_isSome, ← Value.float?_isSome, ha, hb]
      rfl
    rw [onFloats_type hop hb (overflow?_eq_none h), calculation, require, hnumbers, h]
    rfl
  | mismatch h =>
    rw [calculation, require, h, if_neg Bool.false_ne_true, settle_error]
    rfl

theorem numeric_type (hop : op ∈ calculating) (a b : Value) :
    (numeric op a b).map Value.type = settle (op.calculation a.type b.type (isNegative b)) (fault? op a b) :=
  (numeric_cases op a b).type hop

/-! ## One operator after the other -/

theorem comparison_type (op : BinaryOp) (accept : Ordering → Bool) (a b : Value) :
    (comparison op accept a b).map Value.type =
      op.require a.type b.type (ofStrings a.type b.type || ofNumbers a.type b.type) .bool := by
  rw [comparison, require, ← order?_isSome]
  cases order? a b <;> rfl

theorem logical_type (op : BinaryOp) (combine : Bool → Bool → Bool) (a b : Value) :
    (logical op combine a b).map Value.type =
      if a.type ≠ .bool then .error (.nonBoolean (.left op) a.type)
      else if b.type ≠ .bool then .error (.nonBoolean (.right op) b.type)
      else .ok .bool := by
  cases a with
  | bool x => cases b <;> rfl
  | _ => rfl

theorem sum_type (a b : Value) :
    (sum a b).map Value.type = settle (BinaryOp.add.typing a.type b.type (isNegative b)) (fault? .add a b) := by
  by_cases h : a.type = .string ∨ b.type = .string
  · have hstring : (isString a || isString b) = true := by
      rw [isString_eq, isString_eq, Bool.or_eq_true, beq_iff_eq, beq_iff_eq]
      exact h
    have hover : overflow? .add a b = none := by
      cases a with
      | int m =>
        cases b with
        | int n => rcases h with h | h <;> cases h
        | _ => rfl
      | _ => rfl
    rw [sum, if_pos hstring, typing, if_pos h, fault?, hover]
    rfl
  · have hstring : (isString a || isString b) = false := by
      rw [isString_eq, isString_eq, ← Bool.not_eq_true, Bool.or_eq_true, beq_iff_eq, beq_iff_eq]
      exact h
    rw [sum, hstring, if_neg Bool.false_ne_true, typing, if_neg h]
    exact numeric_type (by decide) a b

theorem bitwise_type (hop : op ∈ onWords) (a b : Value) :
    (bitwise op a b).map Value.type =
      settle (op.require a.type b.type (ofOneKind a.type b.type) a.type) (fault? op a b) := by
  cases h : ofOneKind a.type b.type with
  | true =>
    obtain ⟨m, n, rfl, rfl, hkind⟩ := ofOneKind_iff.mp h
    have hexp : op = .pow → 0 ≤ n.val := by
      rintro rfl
      exact absurd hop (by decide)
    rw [bitwise_integers hkind]
    exact onIntegers_type (.inr hop) hkind hexp
  | false =>
    rw [bitwise, sameKind?_eq_none h, require, if_neg Bool.false_ne_true, settle_error]
    rfl

theorem membership_type (a b : Value) :
    (membership a b).map Value.type = BinaryOp.within.typing a.type b.type (isNegative b) := by
  cases b <;> rfl

theorem containment_type (a b : Value) :
    (containment a b).map Value.type = BinaryOp.contains.typing a.type b.type (isNegative b) := by
  cases a with
  | string s => cases b <;> rfl
  | _ => rfl

theorem stringTest_type (op : BinaryOp) (test : List Char → List Char → Bool) (a b : Value) :
    (stringTest op test a b).map Value.type = op.require a.type b.type (ofStrings a.type b.type) .bool := by
  cases a with
  | string s => cases b <;> rfl
  | _ => rfl

theorem patternTest_type (a b : Value) :
    (patternTest a b).map Value.type =
      settle (BinaryOp.matching.typing a.type b.type (isNegative b)) (fault? .matching a b) := by
  cases a with
  | string text =>
    cases b with
    | string source =>
      rw [patternTest, fault?, unreadable?]
      cases Pattern.compile source <;> rfl
    | _ => rfl
  | _ => exact (settle_error _ _).symm

/-- **What an operator gives is told by the types of its operands**, up to the faults of values: it gives a value of the
type in the table, or the error there, or the fault of values whose types are admitted. -/
theorem apply_type (op : BinaryOp) (a b : Value) :
    (op.apply a b).map Value.type = settle (op.typing a.type b.type (isNegative b)) (fault? op a b) := by
  cases op with
  | eq | ne => rfl
  | lt | le | gt | ge => exact (comparison_type _ _ a b).trans (settle_none _).symm
  | and | or | xor => exact (logical_type _ _ a b).trans (settle_none _).symm
  | add => exact sum_type a b
  | sub | mul | div | mod | pow => exact numeric_type (by decide) a b
  | bitAnd | bitOr | bitXor | shl | shr => exact bitwise_type (by decide) a b
  | within => exact (membership_type a b).trans (settle_none _).symm
  | contains => exact (containment_type a b).trans (settle_none _).symm
  | startsWith | endsWith =>
    rw [BinaryOp.apply, stringTest_type]
    exact (settle_none _).symm
  | matching => exact patternTest_type a b

end Operation

end Verdict
