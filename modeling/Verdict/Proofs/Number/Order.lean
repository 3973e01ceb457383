import Verdict.Eval.Operation
import Verdict.Proofs.Number.Scientific

/-!
# The order of doubles

Each double that is a number has a place among the integers (`Binary.rank`), and two doubles compare as their places
do (`orderFloats_eq`). So what holds of the order of integers holds of doubles, and `NaN`, which has no place, compares
with nothing.
-/

namespace Verdict

open Float.Model Float.Model.UnpackedFloat Rounding

namespace Rounding

/-- The place of a double among those that are not negative: a greater exponent counts before a greater mantissa. -/
def place (m : Nat) (e : Int) : Int := (e + 1074) * 2 ^ 53 + m

/-- The place of a double, as far as it is a number. Both zeros have the same one. -/
def rankOf : UnpackedFloat → Option Int
  | .notANumber => none
  | .infinity s => some (s.apply (2 ^ 64))
  | .zero _ => some 0
  | .finite s m e _ => some (s.apply (place m e))

/-- The mantissa and the exponent are those of a double. -/
def Proper : UnpackedFloat → Prop
  | .finite _ m e _ => Fits m e
  | _ => True

section places

variable {m m' : Nat} {e e' : Int}

theorem Fits.place_pos (h : Fits m e) : 0 < place m e := by
  have hpos := h.pos
  have hle := h.least_le
  unfold place
  omega

theorem Fits.place_lt (h : Fits m e) : place m e < 2 ^ 64 := by
  have hlt := h.lt
  have hle := h.le_most
  unfold place
  omega

theorem Fits.eq_of_place_eq (h : Fits m e) (h' : Fits m' e') (heq : place m e = place m' e') : m = m' ∧ e = e' := by
  have hlt := h.lt
  have hlt' := h'.lt
  unfold place at heq
  omega

/-- Among the doubles of one sign the exponent decides, and then the mantissa. -/
theorem Fits.compare_place (h : Fits m e) (h' : Fits m' e') :
    compare (place m e) (place m' e') = (compare e e').then (compare m m') := by
  have hlt := h.lt
  have hlt' := h'.lt
  unfold place
  rcases Int.lt_trichotomy e e' with he | rfl | he
  · rw [Int.compare_eq_lt.mpr he]
    exact Int.compare_eq_lt.mpr (by omega)
  · rw [Int.compare_eq_eq.mpr (rfl : e = e), Ordering.eq_then]
    rcases Nat.lt_trichotomy m m' with hm | rfl | hm
    · rw [Nat.compare_eq_lt.mpr hm]
      exact Int.compare_eq_lt.mpr (by omega)
    · rw [Nat.compare_eq_eq.mpr rfl]
      exact Int.compare_eq_eq.mpr rfl
    · rw [Nat.compare_eq_gt.mpr hm]
      exact Int.compare_eq_gt.mpr (by omega)
  · rw [Int.compare_eq_gt.mpr he]
    exact Int.compare_eq_gt.mpr (by omega)

end places

theorem proper_unpack (b : BitVec Format.binary64.numBits) : Proper (UnpackedFloat.unpack Format.binary64 b) := by
  cases hfinite : (UnpackedFloat.unpack Format.binary64 b).isFinite with
  | true =>
    rcases unpack_cases hfinite with ⟨s, hu, -⟩ | ⟨s, m, e, hf, hu, -⟩
    · rw [hu]
      exact trivial
    · rw [hu]
      exact hf
  | false =>
    generalize UnpackedFloat.unpack Format.binary64 b = u at hfinite
    cases u with
    | finite s m e hm => cases hfinite
    | _ => exact trivial

theorem compare_eq {u v : UnpackedFloat} (hu : Proper u) (hv : Proper v) :
    u.compare v = (rankOf u).bind fun i => (rankOf v).map fun j => compare i j := by
  have lt {i j : Int} (h : i < j) : some Ordering.lt = some (compare i j) := by rw [Int.compare_eq_lt.mpr h]
  have gt {i j : Int} (h : j < i) : some Ordering.gt = some (compare i j) := by rw [Int.compare_eq_gt.mpr h]
  cases u with
  | notANumber => rfl
  | infinity s =>
    cases v with
    | notANumber => cases s <;> rfl
    | infinity t => cases s <;> cases t <;> rfl
    | zero t => cases s <;> rfl
    | finite t m e hm =>
      have hpos := Fits.place_pos hv
      have hlt := Fits.place_lt hv
      simp only [rankOf, Option.bind_some, Option.map_some]
      cases s with
      | negative => cases t <;> exact lt (by simp only [Sign.apply]; omega)
      | positive => cases t <;> exact gt (by simp only [Sign.apply]; omega)
  | zero s =>
    cases v with
    | notANumber => rfl
    | infinity t => cases t <;> rfl
    | zero t => rfl
    | finite t m e hm =>
      have hpos := Fits.place_pos hv
      simp only [rankOf, Option.bind_some, Option.map_some]
      cases t with
      | negative => exact gt (by simp only [Sign.apply]; omega)
      | positive => exact lt (by simp only [Sign.apply]; omega)
  | finite s m e hm =>
    have hpos := Fits.place_pos hu
    cases v with
    | notANumber => cases s <;> rfl
    | infinity t =>
      have hlt := Fits.place_lt hu
      simp only [rankOf, Option.bind_some, Option.map_some]
      cases t with
      | negative => cases s <;> exact gt (by simp only [Sign.apply]; omega)
      | positive => cases s <;> exact lt (by simp only [Sign.apply]; omega)
    | zero t =>
      simp only [rankOf, Option.bind_some, Option.map_some]
      cases s with
      | negative => exact lt (by simp only [Sign.apply]; omega)
      | positive => exact gt (by simp only [Sign.apply]; omega)
    | finite t m' e' hm' =>
      have hpos' := Fits.place_pos hv
      have hplace := Fits.compare_place hu hv
      simp only [rankOf, Option.bind_some, Option.map_some]
      cases s with
      | negative =>
        cases t with
        | negative =>
          -- The sign turns the order around.
          show some ((compare e e').then (compare m m')).swap = some (compare (-place m e) (-place m' e'))
          rw [← hplace, Int.compare_swap]
          congr 1
          rw [Int.compare_eq_ite_lt, Int.compare_eq_ite_lt]
          simp only [Int.neg_lt_neg_iff]
        | positive => exact lt (by simp only [Sign.apply]; omega)
      | positive =>
        cases t with
        | negative => exact gt (by simp only [Sign.apply]; omega)
        | positive => exact congrArg some hplace.symm

end Rounding

namespace Binary

/-- The place of a double among the doubles, which `NaN` has none of. -/
def rank (x : Float) : Option Int := rankOf x.toModel.unpack

theorem rank_eq_none_iff {x : Float} : rank x = none ↔ x.isNaN = true := by
  unfold rank Float.isNaN Float.Model.isNaN
  generalize x.toModel.unpack = u
  cases u with
  | notANumber => exact ⟨fun _ => rfl, fun _ => rfl⟩
  | infinity s | zero s | finite s m e h => exact ⟨nofun, nofun⟩

theorem orderFloats_eq (x y : Float) :
    Operation.orderFloats x y = (rank x).bind fun i => (rank y).map fun j => compare i j :=
  compare_eq (proper_unpack _) (proper_unpack _)

theorem beq_eq (x y : Float) : (x == y) = (Operation.orderFloats x y == some .eq) := rfl

theorem beq_iff {x y : Float} : (x == y) = true ↔ ∃ i, rank x = some i ∧ rank y = some i := by
  rw [beq_eq, orderFloats_eq, beq_iff_eq]
  cases rank x with
  | none => simp
  | some i =>
    cases rank y with
    | none => simp
    | some j =>
      show some (compare i j) = some .eq ↔ _
      rw [Option.some.injEq, Int.compare_eq_eq]
      simp [eq_comm]

theorem isNaN_widen (x : Float32) : (widen x).isNaN = x.isNaN := by
  unfold widen Float.isNaN Float.Model.isNaN Float32.isNaN Float32.Model.isNaN
  show (UnpackedFloat.unpack Format.binary64 (UnpackedFloat.pack Format.binary64
    (convert .binary64 x.toModel.unpack))).isNaN = _
  cases x.toModel.unpack with
  | notANumber => rfl
  | infinity s | zero s => exact isNaN_unpack_pack rfl
  | finite s m e h => exact isNaN_unpack_pack (isNaN_roundWithAccuracy ..)

end Binary

end Verdict
