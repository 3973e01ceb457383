import Verdict.Json.Numeral
import Verdict.Proofs.Number.Digits

/-!
# Numerals and their texts

The text of a numeral is read as that numeral, if it has digits in the right places and nothing behind it goes on
with it (`read_text`). The numerals of integers and of decimals are such, and an integer is the value of its numeral
(`value?_ofInt`).
-/

namespace Verdict.Json

/-- The double of a number. -/
def Number.toFloat : Number → Float
  | .int n => Binary.ofInt n.val
  | .float x => x

/-- The single of a number. -/
def Number.toFloat32 : Number → Float32
  | .int n => Binary.ofInt32 n.val
  | .float x => Binary.narrow x

namespace Numeral

open Verdict.Word Verdict.Decimal

variable {whole fraction rest : List Char}

/-- Digits that may stand in front of the point: a zero stands there alone. -/
def IsWhole (whole : List Char) : Prop := whole = ['0'] ∨ IsDigits whole ∧ whole.head? ≠ some '0'

theorem IsWhole.isDigits (hw : IsWhole whole) : IsDigits whole := by
  rcases hw with rfl | ⟨hds, -⟩
  · exact isDigits_zero
  · exact hds

structure IsProper (n : Numeral) : Prop where
  whole : IsWhole n.whole
  fraction : ∀ d ∈ n.fraction, isDigit d = true

/-- A character that does not go on with a number. -/
def endsNumber (c : Char) : Bool := !isDigit c && c != '.' && c != 'e' && c != 'E'

/-- What may stand behind a number. -/
def Ends (rest : List Char) : Prop := ∀ c, rest.head? = some c → endsNumber c = true

theorem Ends.nil : Ends [] := fun _ h => nomatch h

theorem Ends.cons {c : Char} (h : endsNumber c = true) : Ends (c :: rest) := by
  intro d hd
  cases hd
  exact h

theorem Ends.no_digit (h : Ends rest) : rest.head?.any isDigit = false := by
  cases rest with
  | nil => rfl
  | cons c rest =>
    have hc := h c rfl
    simp only [endsNumber, Bool.and_eq_true, Bool.not_eq_true'] at hc
    exact hc.1.1.1

theorem takeDigits_run (hds : ∀ d ∈ fraction, isDigit d = true) (hrest : rest.head?.any isDigit = false) :
    takeDigits (fraction ++ rest) = (fraction, rest) := by
  rw [takeDigits, takeWhile_run hds hrest, dropWhile_run hds hrest]

/-! ## The parts of a text -/

def fractionText (fraction : List Char) : List Char := if fraction.isEmpty then [] else '.' :: fraction

def exponentText : Option Int → List Char
  | none => []
  | some (.ofNat n) => 'e' :: '+' :: digitsOf n
  | some (.negSucc n) => 'e' :: '-' :: digitsOf (n + 1)

theorem text_eq (n : Numeral) : n.text = signed n.negative (n.whole ++ fractionText n.fraction ++ exponentText n.exponent) := by
  unfold text exponentText
  rfl

theorem readExponent_digits (n : Nat) (hrest : Ends rest) :
    readExponent ('+' :: (digitsOf n ++ rest)) = some ((n : Int), rest) ∧
      readExponent ('-' :: (digitsOf n ++ rest)) = some (-(n : Int), rest) := by
  have htake := takeDigits_run (isDigits_digitsOf n).2 hrest.no_digit
  have hval := natOf_digitsOf n
  obtain ⟨d, ds, hds, -⟩ := (isDigits_digitsOf n).eq_cons
  rw [hds] at htake hval ⊢
  rw [List.cons_append] at htake
  simp [readExponent, htake, hval]

theorem readTail_text (negative : Bool) (whole fraction : List Char) (exponent : Option Int) (hrest : Ends rest) :
    readTail negative whole fraction (exponentText exponent ++ rest) =
      some (⟨negative, whole, fraction, exponent⟩, rest) := by
  match exponent with
  | none =>
    rw [exponentText, List.nil_append, readTail.eq_def]
    split
    · cases (by decide : endsNumber 'e' = false).symm.trans (hrest _ rfl)
    · cases (by decide : endsNumber 'E' = false).symm.trans (hrest _ rfl)
    · rfl
  | some (.ofNat n) =>
    rw [exponentText, List.cons_append, List.cons_append, readTail, (readExponent_digits n hrest).1]
    rfl
  | some (.negSucc n) =>
    rw [exponentText, List.cons_append, List.cons_append, readTail, (readExponent_digits (n + 1) hrest).2]
    rfl

theorem readUnsigned_plain (negative : Bool) (hw : IsWhole whole) (hdigit : rest.head?.any isDigit = false)
    (hpoint : rest.head? ≠ some '.') : readUnsigned negative (whole ++ rest) = readTail negative whole [] rest := by
  have hplain (cs : List Char) : rest ≠ '.' :: cs := fun h => hpoint (congrArg List.head? h)
  rcases hw with rfl | ⟨hds, hzero⟩
  · simp [readUnsigned]
  · have htake := takeDigits_run hds.2 hdigit
    obtain ⟨d, ds, rfl, -⟩ := hds.eq_cons
    have hd : d ≠ '0' := fun h => hzero (congrArg some h)
    rw [List.cons_append] at htake
    simp [readUnsigned, hd, htake]

theorem readUnsigned_point (negative : Bool) (hw : IsWhole whole) (hf : IsDigits fraction)
    (hdigit : rest.head?.any isDigit = false) :
    readUnsigned negative (whole ++ '.' :: (fraction ++ rest)) = readTail negative whole fraction rest := by
  have hfraction := takeDigits_run hf.2 hdigit
  rcases hw with rfl | ⟨hds, hzero⟩
  · simp [readUnsigned, hfraction, hf.1]
  · have htake : takeDigits (whole ++ '.' :: (fraction ++ rest)) = _ := takeDigits_run hds.2 rfl
    obtain ⟨d, ds, rfl, -⟩ := hds.eq_cons
    have hd : d ≠ '0' := fun h => hzero (congrArg some h)
    rw [List.cons_append] at htake
    simp [readUnsigned, hd, htake, hfraction, hf.1]

theorem Ends.exponentText (hrest : Ends rest) (exponent : Option Int) :
    (exponentText exponent ++ rest).head?.any isDigit = false ∧ (exponentText exponent ++ rest).head? ≠ some '.' := by
  match exponent with
  | none =>
    refine ⟨hrest.no_digit, fun h => ?_⟩
    cases (by decide : endsNumber '.' = false).symm.trans (hrest _ h)
  | some (.ofNat n) => exact ⟨rfl, by simp [Numeral.exponentText]⟩
  | some (.negSucc n) => exact ⟨rfl, by simp [Numeral.exponentText]⟩

theorem readUnsigned_text (negative : Bool) (exponent : Option Int) (hw : IsWhole whole)
    (hf : ∀ d ∈ fraction, isDigit d = true) (hrest : Ends rest) :
    readUnsigned negative (whole ++ (fractionText fraction ++ (exponentText exponent ++ rest))) =
      some (⟨negative, whole, fraction, exponent⟩, rest) := by
  obtain ⟨hdigit, hpoint⟩ := hrest.exponentText exponent
  have htail := readTail_text negative whole fraction exponent hrest
  cases fraction with
  | nil =>
    rw [fractionText, List.isEmpty_nil, if_pos rfl, List.nil_append, readUnsigned_plain negative hw hdigit hpoint]
    exact htail
  | cons d ds =>
    rw [fractionText, List.isEmpty_cons, if_neg (by decide), List.cons_append,
      readUnsigned_point negative hw ⟨List.cons_ne_nil _ _, hf⟩ hdigit]
    exact htail

/-- **A numeral is read from its text**, whatever stands behind it that does not go on with it. -/
theorem IsProper.read_text {n : Numeral} (hn : n.IsProper) (hrest : Ends rest) :
    read (n.text ++ rest) = some (n, rest) := by
  obtain ⟨negative, whole, fraction, exponent⟩ := n
  have hread := readUnsigned_text negative exponent hn.whole hn.fraction hrest
  rw [text_eq]
  dsimp only at hread ⊢
  cases negative with
  | true => simpa [signed, read] using hread
  | false =>
    rw [signed, if_neg (by decide), List.append_assoc, List.append_assoc, read.eq_def]
    split
    · next heq => exact absurd (congrArg List.head? heq) (hn.whole.isDigits.head_ne rfl _)
    · exact hread

/-! ## Numerals of values -/

theorem isWhole_digitsOf (n : Nat) : IsWhole (digitsOf n) := by
  rcases Nat.eq_zero_or_pos n with rfl | hn
  · exact .inl rfl
  · exact .inr ⟨isDigits_digitsOf n, head_digitsOf hn⟩

theorem isProper_ofInt (n : Int) : (ofInt n).IsProper := by
  cases n with
  | ofNat n => exact ⟨isWhole_digitsOf n, fun _ h => nomatch h⟩
  | negSucc n => exact ⟨isWhole_digitsOf (n + 1), fun _ h => nomatch h⟩

theorem isWhole_take {n : Nat} (hn : 0 < n) {places : Nat} (hp : 0 < places) : IsWhole ((digitsOf n).take places) := by
  have hhead := head_digitsOf hn
  obtain ⟨hne, hds⟩ := isDigits_digitsOf n
  refine .inr ⟨⟨?_, fun d hd => hds d (List.mem_of_mem_take hd)⟩, ?_⟩
  · simpa [hne] using Nat.ne_of_gt hp
  · rwa [List.head?_take, if_neg (Nat.ne_of_gt hp)]

theorem isProper_ofDecimal (d : Decimal) : (ofDecimal d).IsProper := by
  have hds := (isDigits_digitsOf d.digits).2
  have hzero := isDigits_zero.2
  unfold ofDecimal
  dsimp only
  split
  · exact ⟨.inl rfl, hzero⟩
  · next hpos =>
    have hpos : 0 < d.digits := Nat.pos_of_ne_zero hpos
    split
    · split
      · refine ⟨.inl rfl, fun c hc => ?_⟩
        rcases List.mem_append.mp hc with h | h
        · exact isDigit_zeros c h
        · exact hds c h
      · split
        · refine ⟨.inr ⟨isDigits_append (isDigits_digitsOf _) isDigit_zeros, ?_⟩, hzero⟩
          rw [List.head?_append_of_ne_nil _ (isDigits_digitsOf _).1]
          exact head_digitsOf hpos
        · exact ⟨isWhole_take hpos (by omega), fun c hc => hds c (List.mem_of_mem_drop hc)⟩
    · exact ⟨isWhole_take hpos (by decide), fun c hc => hds c (List.mem_of_mem_drop hc)⟩

theorem value?_whole {negative : Bool} {i : WideInt} (hzero : negative = true → natOf whole ≠ 0)
    (h : WideInt.ofInt? (if negative then -(natOf whole : Int) else natOf whole) = some i) :
    value? ⟨negative, whole, [], none⟩ = some (.int i) := by
  have hsign : (negative && decide (natOf whole = 0)) = false := by
    cases negative with
    | false => rfl
    | true => exact decide_eq_false (hzero rfl)
  unfold value?
  dsimp only
  rw [if_pos (by rfl), hsign, if_neg (by decide), h]

theorem value?_ofInt {n : Int} {i : WideInt} (h : WideInt.ofInt? n = some i) : (ofInt n).value? = some (.int i) := by
  cases n with
  | ofNat n =>
    refine value?_whole (fun hneg => nomatch hneg) ?_
    rw [natOf_digitsOf]
    exact h
  | negSucc n =>
    refine value?_whole (fun _ => ?_) ?_ <;> rw [natOf_digitsOf]
    · exact Nat.succ_ne_zero n
    · exact h

end Numeral

end Verdict.Json
