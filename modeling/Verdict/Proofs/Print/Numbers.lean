import Verdict.Expr.Display
import Verdict.Proofs.Number.Digits
import Verdict.Proofs.Number.Shortest
import Verdict.Proofs.Token.Numerals

/-!
# How numbers are displayed

Integers are displayed by their digits, and their text has them as its value (`numberValue?_displayInt`). A finite
double is displayed by digits around a point, and has these as its text's value (`withFraction_displayFloat`).
-/

namespace Verdict

open Verdict.Word

namespace Decimal

/-! ## Integers -/

theorem displayInt_eq (n : Int) : displayInt n = signed (decide (n < 0)) (digitsOf n.natAbs) := by
  cases n with
  | ofNat n => rfl
  | negSucc n =>
    rw [signed, if_pos (by simp [Int.negSucc_lt_zero])]
    rfl

end Decimal

theorem Parser.numberValue?_displayInt {n : Integer} (hn : n.kind = .int64) :
    numberValue? (Decimal.displayInt n.val) = some (.int n) := by
  have hval : (if decide (n.val < 0) then -(n.val.natAbs : Int) else n.val.natAbs) = n.val := by
    simp only [decide_eq_true_eq]
    split <;> omega
  have hfits : Integer.ofInt? .int64 n.val = some n := by
    obtain ⟨kind, val, hmin, hmax⟩ := n
    cases hn
    exact dif_pos ⟨hmin, hmax⟩
  rw [Decimal.displayInt_eq, numberValue?_whole _ (Decimal.isDigits_digitsOf _), Decimal.natOf_digitsOf, hval, hfits]

/-! ## Fractions -/

namespace Expr

open Decimal

theorem withFraction_point (negative : Bool) (whole ds : List Char) :
    withFraction (signed negative (whole ++ '.' :: ds)) = signed negative (whole ++ '.' :: ds) := by
  refine if_pos (Bool.or_eq_true_iff.mpr (.inl ?_))
  cases negative <;> simp [signed]

theorem withFraction_whole (negative : Bool) {whole : List Char} (hw : IsDigits whole) :
    withFraction (signed negative whole) = signed negative (whole ++ ['.', '0']) := by
  have hpoint : '.' ∉ whole := fun h => absurd (hw.2 _ h) (by decide)
  have hlast : (signed negative whole).getLast? = whole.getLast? := by
    cases negative with
    | false => rfl
    | true => exact List.getLast?_cons_of_ne_nil hw.1
  have hdigit : whole.getLast?.any isDigit = true := by
    rw [List.getLast?_eq_some_getLast hw.1]
    exact hw.2 _ (List.getLast_mem hw.1)
  unfold withFraction
  rw [if_neg]
  · cases negative <;> rfl
  · rw [hlast, hdigit]
    cases negative <;> simp [signed, hpoint]

/-- Digits with a point between them say the number `digits * 10 ^ exponent`. -/
structure Spells (d : Decimal) (whole ds : List Char) : Prop where
  before : IsDigits whole
  after : IsDigits ds
  value : ∃ k : Nat, natOf (whole ++ ds) = d.digits * 10 ^ k ∧ (-ds.length : Int) = d.exponent - k

variable {d : Decimal}

theorem spells_of_leading {point : Int} (hp : point = (digitsOf d.digits).length + d.exponent) (h : point ≤ 0) :
    Spells d ['0'] (List.replicate (-point).toNat '0' ++ digitsOf d.digits) := by
  have hdigits := isDigits_digitsOf d.digits
  refine ⟨isDigits_zero, ⟨by simp [hdigits.1], fun c hc => ?_⟩, 0, ?_, ?_⟩
  · rcases List.mem_append.mp hc with hc | hc
    · exact isDigit_zeros c hc
    · exact hdigits.2 c hc
  · rw [← List.append_assoc, ← List.replicate_one, List.replicate_append_replicate, natOf_zeros_append, natOf_digitsOf]
    omega
  · simp only [List.length_append, List.length_replicate]
    omega

theorem spells_of_trailing {point : Int} (hp : point = (digitsOf d.digits).length + d.exponent)
    (h : (digitsOf d.digits).length ≤ point.toNat) (hpos : ¬ point ≤ 0) :
    Spells d (digitsOf d.digits ++ List.replicate (point.toNat - (digitsOf d.digits).length) '0') ['0'] := by
  refine ⟨isDigits_append (isDigits_digitsOf _) isDigit_zeros, isDigits_zero, d.exponent.toNat + 1, ?_, ?_⟩
  · have hlen : point.toNat - (digitsOf d.digits).length + 1 = d.exponent.toNat + 1 := by omega
    rw [List.append_assoc, ← List.replicate_one, List.replicate_append_replicate, natOf_append_zeros, natOf_digitsOf, hlen]
  · simp only [List.length_singleton]
    omega

theorem spells_of_inner {point : Int} (hp : point = (digitsOf d.digits).length + d.exponent)
    (h : ¬ (digitsOf d.digits).length ≤ point.toNat) (hpos : ¬ point ≤ 0) :
    Spells d ((digitsOf d.digits).take point.toNat) ((digitsOf d.digits).drop point.toNat) := by
  have hdigits := isDigits_digitsOf d.digits
  refine ⟨⟨?_, fun c hc => hdigits.2 c (List.mem_of_mem_take hc)⟩,
    ⟨?_, fun c hc => hdigits.2 c (List.mem_of_mem_drop hc)⟩, 0, ?_, ?_⟩
  · rw [ne_eq, List.take_eq_nil_iff]
    rintro (h0 | h0)
    · omega
    · exact hdigits.1 h0
  · rw [ne_eq, List.drop_eq_nil_iff]
    omega
  · rw [List.take_append_drop, natOf_digitsOf]
    omega
  · rw [List.length_drop]
    omega

theorem withFraction_plain (d : Decimal) (hd : d.digits = 0 → d.exponent = 0) :
    ∃ whole ds, withFraction d.plain = signed d.negative (whole ++ '.' :: ds) ∧ Spells d whole ds := by
  unfold plain
  dsimp only
  split
  · next h =>
    have hzero := isDigits_zero
    exact ⟨['0'], ['0'], withFraction_whole _ hzero, hzero, hzero, 1, by rw [h]; decide, by rw [hd h]; decide⟩
  · unfold placePoint
    split
    · next hpos => exact ⟨['0'], _, withFraction_point _ ['0'] _, spells_of_leading rfl hpos⟩
    · next hpos =>
      split
      · next hlen =>
        have hspells := spells_of_trailing (d := d) rfl hlen hpos
        exact ⟨_, ['0'], withFraction_whole _ hspells.before, hspells⟩
      · next hlen => exact ⟨_, _, withFraction_point _ _ _, spells_of_inner rfl hlen hpos⟩

theorem display_of_parts {format : Float.Model.Format} {u : Float.Model.UnpackedFloat} {p : Binary.Parts}
    (h : Binary.parts? u = some p) : Decimal.display format u = (shortest format .up p).plain := by
  cases u with
  | notANumber => cases h
  | infinity s => cases h
  | zero s =>
    cases h
    rfl
  | finite s m e hm =>
    cases h
    rfl

theorem withFraction_displayFloat {x : Float} (hx : x.isFinite = true) : ∃ negative whole ds,
    withFraction (displayFloat x) = signed negative (whole ++ '.' :: ds) ∧ IsDigits whole ∧ IsDigits ds ∧
      Binary.ofDecimal negative (natOf (whole ++ ds)) (-ds.length) = x := by
  obtain ⟨p, hp, hzero, hreads⟩ := reads_shortest hx .up
  obtain ⟨whole, ds, htext, hwhole, hds, k, hdigits, hexponent⟩ := withFraction_plain (shortest .binary64 .up p) hzero
  refine ⟨(shortest .binary64 .up p).negative, whole, ds, ?_, hwhole, hds, ?_⟩
  · rw [← htext, displayFloat, display_of_parts hp]
  · rw [hdigits, hexponent, hreads k]

end Expr

end Verdict
