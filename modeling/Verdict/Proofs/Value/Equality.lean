import Verdict.Proofs.Number.Integers
import Verdict.Proofs.Number.Kinds
import Verdict.Proofs.Value.Structure

/-!
# Symmetry and reflexivity of equality

Equality does not depend on the order of the two values, and a value is equal to itself exactly if no `NaN` stands in
it at any depth; one that holds a `NaN` is equal to nothing (`equal_comm_refl_off_nan`).
-/

namespace Verdict.Value

/-! ## Numbers -/

/-- The place of a number among the doubles, which `NaN` and other values have none of. -/
def rank (v : Value) : Option Int := v.float?.bind Binary.rank

/-- The value is itself a `NaN`. -/
def isNaN : Value → Bool
  | .float32 x => x.isNaN
  | .float64 x => x.isNaN
  | _ => false

/-- A `NaN` stands in the value at some depth. -/
def HoldsNaN (v : Value) : Prop := ∃ x, Occurs x v ∧ x.isNaN = true

variable {a b c : Value} {i : Int}

theorem float?_isSome (v : Value) : v.float?.isSome = v.type.isNumeric := by
  cases v <;> rfl

theorem rank_int (n : Integer) : rank (.int n) = some (Binary.position n.val) := by
  have hbounds := n.bounds
  exact Binary.rank_ofInt (by omega)

theorem rank_isSome {x : Float} (hx : a.float? = some x) (h : a.isNaN = false) : ∃ i, a.rank = some i := by
  cases a with
  | int n => exact ⟨_, rank_int n⟩
  | float32 y =>
    refine Option.ne_none_iff_exists'.mp fun hnone => ?_
    rw [← Bool.not_eq_true, isNaN, ← Binary.isNaN_widen, ← Binary.rank_eq_none_iff] at h
    exact h hnone
  | float64 y =>
    refine Option.ne_none_iff_exists'.mp fun hnone => ?_
    rw [← Bool.not_eq_true, isNaN, ← Binary.rank_eq_none_iff] at h
    exact h hnone
  | _ => cases hx

theorem isScalar_of_rank (h : a.rank = some i) : a.IsScalar := by
  cases a with
  | array _ | set _ | map _ | struct _ => cases h
  | _ => trivial

theorem eq_int_of_int? (h : a.int? ≠ none) : ∃ n, a = .int n := by
  cases a with
  | int n => exact ⟨n, rfl⟩
  | _ => exact absurd rfl h

theorem isNaN_of_rank (h : a.rank = some i) : a.isNaN = false := by
  cases hnan : a.isNaN with
  | false => rfl
  | true =>
    cases a with
    | float32 x =>
      rw [isNaN, ← Binary.isNaN_widen, ← Binary.rank_eq_none_iff] at hnan
      exact absurd (hnan.symm.trans h) nofun
    | float64 x =>
      rw [isNaN, ← Binary.rank_eq_none_iff] at hnan
      exact absurd (hnan.symm.trans h) nofun
    | _ => cases hnan

/-! ## Scalars -/

/-- The ways in which two values that hold no others are equal. -/
inductive Agree : Value → Value → Prop
  | null : Agree .null .null
  | bool (b : Bool) : Agree (.bool b) (.bool b)
  | string (s : String) : Agree (.string s) (.string s)
  /-- Integers are compared exactly. -/
  | int {m n : Integer} (h : m.val = n.val) : Agree (.int m) (.int n)
  /-- Other pairs of numbers are compared as doubles. -/
  | number {a b : Value} {i : Int} (ha : a.rank = some i) (hb : b.rank = some i) (h : a.int? = none ∨ b.int? = none) :
      Agree a b

theorem scalarEq_of_float {x y : Float} (hx : a.float? = some x) (hy : b.float? = some y)
    (h : a.int? = none ∨ b.int? = none) : scalarEq a b = (x == y) := by
  cases a with
  | int m =>
    cases b with
    | int n => rcases h with h | h <;> cases h
    | float32 _ | float64 _ =>
      cases hx
      cases hy
      rfl
    | _ => cases hy
  | float32 _ | float64 _ =>
    cases b with
    | int _ | float32 _ | float64 _ =>
      cases hx
      cases hy
      rfl
    | _ => cases hy
  | _ => cases hx

theorem scalarEq_iff : scalarEq a b = true ↔ Agree a b := by
  constructor
  · intro h
    have number {x y : Float} (hx : a.float? = some x) (hy : b.float? = some y) (hn : a.int? = none ∨ b.int? = none) :
        Agree a b := by
      rw [scalarEq_of_float hx hy hn] at h
      obtain ⟨i, hi, hj⟩ := Binary.beq_iff.mp h
      exact .number (by rw [rank, hx]; exact hi) (by rw [rank, hy]; exact hj) hn
    cases a with
    | null =>
      cases b with
      | null => exact .null
      | _ => cases h
    | bool x =>
      cases b with
      | bool y =>
        obtain rfl : x = y := eq_of_beq h
        exact .bool x
      | _ => cases h
    | string s =>
      cases b with
      | string t =>
        obtain rfl : s = t := eq_of_beq h
        exact .string s
      | _ => cases h
    | int m =>
      cases b with
      | int n => exact .int (eq_of_beq h)
      | float32 y | float64 y => exact number rfl rfl (.inr rfl)
      | _ => cases h
    | float32 x | float64 x =>
      cases b with
      | int n | float32 y | float64 y => exact number rfl rfl (.inl rfl)
      | _ => cases h
    | array _ | set _ | map _ | struct _ => cases b <;> cases h
  · intro h
    cases h with
    | null => rfl
    | bool x => exact beq_self_eq_true x
    | string s => exact beq_self_eq_true s
    | int h => exact beq_iff_eq.mpr h
    | number ha hb h =>
      obtain ⟨x, hx, hi⟩ := Option.bind_eq_some_iff.mp ha
      obtain ⟨y, hy, hj⟩ := Option.bind_eq_some_iff.mp hb
      rw [scalarEq_of_float hx hy h]
      exact Binary.beq_iff.mpr ⟨_, hi, hj⟩

theorem Agree.symm (h : Agree a b) : Agree b a := by
  cases h with
  | null => exact .null
  | bool x => exact .bool x
  | string s => exact .string s
  | int h => exact .int h.symm
  | number ha hb h => exact .number hb ha h.symm

theorem Agree.isScalar (h : Agree a b) : a.IsScalar := by
  cases h with
  | number ha _ _ => exact isScalar_of_rank ha
  | _ => trivial

theorem Agree.rank_eq (h : Agree a b) : a.rank = b.rank := by
  cases h with
  | int h => rw [rank_int, rank_int, h]
  | number ha hb _ => rw [ha, hb]
  | _ => rfl

theorem Agree.isNaN (h : Agree a b) : a.isNaN = false := by
  cases h with
  | number ha hb h => exact isNaN_of_rank ha
  | _ => rfl

theorem agree_self (h : a.IsScalar) (hnan : a.isNaN = false) : Agree a a := by
  cases a with
  | null => exact .null
  | bool x => exact .bool x
  | string s => exact .string s
  | int n => exact .int rfl
  | float32 x | float64 x =>
    obtain ⟨i, hi⟩ := rank_isSome rfl hnan
    exact .number hi hi (.inl rfl)
  | array _ | set _ | map _ | struct _ => exact h.elim

theorem equal_iff_agree (h : a.IsScalar) : Equal a b ↔ Agree a b := by
  rw [Equal, equal_of_isScalar h, scalarEq_iff]

theorem Agree.equal (h : Agree a b) : Equal a b := (equal_iff_agree h.isScalar).mpr h

/-! ## Symmetry -/

theorem forall₂_symm {α : Type} {R : α → α → Prop} {xs ys : List α} (h : List.Forall₂ R xs ys)
    (hsymm : ∀ x ∈ xs, ∀ y, R x y → R y x) : List.Forall₂ R ys xs :=
  (((List.forall₂_and_left xs ys).mpr ⟨hsymm, h⟩).imp fun _ _ ⟨hx, hxy⟩ => hx _ hxy).flip

theorem Equal.symm (h : Equal a b) : Equal b a := by
  induction a using induction generalizing b with
  | scalar a ha => exact ((equal_iff_agree ha).mp h).symm.equal
  | array xs ih =>
    obtain ⟨ys, rfl, hitems⟩ := equal_array_iff.mp h
    exact equal_array_iff.mpr ⟨xs, rfl, forall₂_symm hitems fun x hx _ => ih x hx⟩
  | set xs ih =>
    obtain ⟨ys, rfl, hleft, hright⟩ := equal_set_iff.mp h
    refine equal_set_iff.mpr ⟨xs, rfl, fun y hy => ?_, fun x hx => ?_⟩
    · obtain ⟨x, hx, hxy⟩ := hright y hy
      exact ⟨x, hx, ih x hx hxy⟩
    · obtain ⟨y, hy, hxy⟩ := hleft x hx
      exact ⟨y, hy, ih x hx hxy⟩
  | map fs ih =>
    obtain ⟨gs, rfl, hfields⟩ := equal_map_iff.mp h
    refine equal_map_iff.mpr ⟨fs, rfl, forall₂_symm hfields fun f hf _ hfg => ?_⟩
    exact ⟨hfg.1.symm, ih f hf hfg.2⟩
  | struct fs ih =>
    obtain ⟨gs, rfl, hfields⟩ := equal_struct_iff.mp h
    refine equal_struct_iff.mpr ⟨fs, rfl, forall₂_symm hfields fun f hf _ hfg => ?_⟩
    exact ⟨hfg.1.symm, ih f hf hfg.2⟩

theorem equal_comm (a b : Value) : a.equal b = b.equal a :=
  Bool.eq_iff_iff.mpr ⟨Equal.symm, Equal.symm⟩

/-! ## Comparing from the left -/

/-- Each of the first values has an equal among the second ones. -/
def covers (xs ys : List Value) : Bool := xs.all fun x => ys.any fun y => x.equal y

/-- Two sets are equal when each covers the other. -/
theorem equal_set (xs ys : List Value) : equal (.set xs) (.set ys) = (covers xs ys && covers ys xs) := by
  have hcovers (xs ys : List Value) : covers xs ys = true ↔ ∀ x ∈ xs, ∃ y ∈ ys, Equal x y := by
    simp [covers, Equal]
  rw [Bool.eq_iff_iff, Bool.and_eq_true, hcovers, hcovers]
  refine equal_set_iff.trans ?_
  constructor
  · rintro ⟨_, heq, hleft, hright⟩
    obtain rfl := Value.set.inj heq
    exact ⟨hleft, fun y hy => (hright y hy).imp fun _ ⟨hx, hxy⟩ => ⟨hx, hxy.symm⟩⟩
  · rintro ⟨hleft, hright⟩
    exact ⟨ys, rfl, hleft, fun y hy => (hright y hy).imp fun _ ⟨hx, hyx⟩ => ⟨hx, hyx.symm⟩⟩

/-! ## NaN -/

theorem not_equal_of_occurs {x : Value} (h : Occurs x a) (hx : x.isNaN = true) (b : Value) : ¬ Equal a b := by
  intro hab
  induction h generalizing b with
  | self =>
    have hscalar : x.IsScalar := by
      cases x with
      | array _ | set _ | map _ | struct _ => cases hx
      | _ => trivial
    exact absurd (((equal_iff_agree hscalar).mp hab).isNaN.symm.trans hx) nofun
  | array hmem _ ih =>
    obtain ⟨ys, -, hitems⟩ := equal_array_iff.mp hab
    obtain ⟨y, -, hxy⟩ := exists_of_forall₂ hitems hmem
    exact ih y hxy
  | set hmem _ ih =>
    obtain ⟨ys, -, hleft, -⟩ := equal_set_iff.mp hab
    obtain ⟨y, -, hxy⟩ := hleft _ hmem
    exact ih y hxy
  | map hmem _ ih =>
    obtain ⟨gs, -, hfields⟩ := equal_map_iff.mp hab
    obtain ⟨g, -, -, hfg⟩ := exists_of_forall₂ hfields hmem
    exact ih g.2 hfg
  | struct hmem _ ih =>
    obtain ⟨gs, -, hfields⟩ := equal_struct_iff.mp hab
    obtain ⟨g, -, -, hfg⟩ := exists_of_forall₂ hfields hmem
    exact ih g.2 hfg

theorem HoldsNaN.not_equal (h : a.HoldsNaN) (b : Value) : ¬ Equal a b :=
  let ⟨_, hoccurs, hnan⟩ := h
  not_equal_of_occurs hoccurs hnan b

theorem equal_self (h : ¬ a.HoldsNaN) : Equal a a := by
  induction a using induction with
  | scalar a ha =>
    refine (agree_self ha ?_).equal
    exact Bool.eq_false_iff.mpr fun hnan => h ⟨a, .self, hnan⟩
  | array xs ih =>
    refine equal_array_iff.mpr ⟨xs, rfl, List.forall₂_same.mpr fun x hx => ih x hx ?_⟩
    exact fun ⟨v, hv, hnan⟩ => h ⟨v, .array hx hv, hnan⟩
  | set xs ih =>
    have hself (x : Value) (hx : x ∈ xs) : ∃ y ∈ xs, Equal x y :=
      ⟨x, hx, ih x hx fun ⟨v, hv, hnan⟩ => h ⟨v, .set hx hv, hnan⟩⟩
    refine equal_set_iff.mpr ⟨xs, rfl, hself, fun x hx => ?_⟩
    obtain ⟨y, hy, hxy⟩ := hself x hx
    exact ⟨y, hy, hxy.symm⟩
  | map fs ih =>
    refine equal_map_iff.mpr ⟨fs, rfl, List.forall₂_same.mpr fun f hf => ⟨rfl, ih f hf ?_⟩⟩
    exact fun ⟨v, hv, hnan⟩ => h ⟨v, .map hf hv, hnan⟩
  | struct fs ih =>
    refine equal_struct_iff.mpr ⟨fs, rfl, List.forall₂_same.mpr fun f hf => ⟨rfl, ih f hf ?_⟩⟩
    exact fun ⟨v, hv, hnan⟩ => h ⟨v, .struct hf hv, hnan⟩

/-- **Equality is symmetric, and reflexive exactly off `NaN`**: a value in which a `NaN` stands at any depth is equal to
no value, itself included. -/
theorem equal_comm_refl_off_nan (a b : Value) :
    a.equal b = b.equal a ∧ (a.equal a = true ↔ ¬ a.HoldsNaN) ∧ (a.HoldsNaN → a.equal b = false) := by
  refine ⟨equal_comm a b, ⟨fun h hnan => hnan.not_equal a h, equal_self⟩, fun hnan => ?_⟩
  exact Bool.eq_false_iff.mpr (hnan.not_equal b)

/-- A `NaN` of single width in a map in a set. -/
theorem equal_comm_refl_off_nan_nested :
    let a : Value := .set [.map (.ofList [("x", .float32 (Binary.narrow Binary.nan))]), .null]
    a.HoldsNaN ∧ a.equal a = false := by
  intro a
  have h : a.HoldsNaN := ⟨.float32 (Binary.narrow Binary.nan), .set (.head _) (.map (.head _) .self), by rfl⟩
  exact ⟨h, (equal_comm_refl_off_nan a a).2.2 h⟩

end Verdict.Value
