import Verdict.Proofs.Grammar.Watched
import Verdict.Proofs.Number.Decimals
import Verdict.Proofs.Number.Digits
import Verdict.Proofs.Number.Kinds

/-!
# What numbers say

A number that the lexer cuts off says an integer or a decimal, and has that as its value: an integer of 64 bits where it is
one, and otherwise the nearest double (`number_tokens_valued`). So no text is refused for a number in it.
-/

namespace Verdict.Parser

open Verdict.Word

/-- A number as it is written: its sign, the digits before the point and those behind it, if there is a point. -/
structure Literal where
  negative : Bool
  whole : List Char
  fraction : Option (List Char)

namespace Literal

variable (l : Literal)

def text : List Char :=
  Decimal.signed l.negative (l.whole ++ match l.fraction with
    | none => []
    | some ds => '.' :: ds)

structure IsProper : Prop where
  whole : IsDigits l.whole
  fraction : ∀ ds, l.fraction = some ds → IsDigits ds

/-- What the digits before the point say, with the sign. -/
def integer : Int := if l.negative then -Nat.ofDigitChars 10 l.whole 0 else Nat.ofDigitChars 10 l.whole 0

/-- What all the digits say, without the sign. -/
def size : ℚ :=
  Nat.ofDigitChars 10 l.whole 0 + match l.fraction with
    | none => 0
    | some ds => (Nat.ofDigitChars 10 ds 0 : ℚ) / 10 ^ ds.length

/-- The number is an integer of 64 bits. -/
def IsInteger : Prop := l.fraction = none ∧ -2 ^ 63 ≤ l.integer ∧ l.integer < 2 ^ 63

/-- The value that the number is to have. -/
structure Denotes (v : Value) : Prop where
  integer (h : l.IsInteger) : ∃ i : Integer, v = .int i ∧ i.kind = .int64 ∧ i.val = l.integer
  double (h : ¬ l.IsInteger) : ∃ x, v = .float64 x ∧ ∀ y, Binary.IsRounded l.negative l.size y ↔ y = x

end Literal

variable {whole ds : List Char}

theorem exists_literal {text : String} (h : IsNumeral text) : ∃ l : Literal, l.IsProper ∧ text.toList = l.text := by
  obtain ⟨negative, whole, fraction, htext, hw, rfl | ⟨ds, rfl, hd⟩⟩ := exists_signed h
  · exact ⟨⟨negative, whole, none⟩, ⟨hw, nofun⟩, htext⟩
  · refine ⟨⟨negative, whole, some ds⟩, ⟨hw, ?_⟩, htext⟩
    rintro _ ⟨⟩
    exact hd

theorem whole_denotes (negative : Bool) (hw : IsDigits whole) :
    ∃ v, numberValue? (Literal.text ⟨negative, whole, none⟩) = some v ∧ Literal.Denotes ⟨negative, whole, none⟩ v := by
  obtain ⟨n, hn⟩ : ∃ n : Int, n = if negative then -(Decimal.natOf whole : Int) else Decimal.natOf whole := ⟨_, rfl⟩
  have hinteger : Literal.integer ⟨negative, whole, none⟩ = n := by rw [hn, Decimal.natOf_eq]; rfl
  have hholds : IntKind.int64.Holds n ↔ -2 ^ 63 ≤ n ∧ n < 2 ^ 63 := by
    show -2 ^ 63 ≤ n ∧ n ≤ 2 ^ 63 - 1 ↔ _
    omega
  rw [Literal.text, List.append_nil, numberValue?_whole negative hw, ← hn]
  by_cases h : IntKind.int64.Holds n
  · rw [Integer.ofInt?_of_holds h]
    refine ⟨_, rfl, ⟨fun _ => ⟨h.integer, rfl, rfl, hinteger.symm⟩, fun hnot => absurd ?_ hnot⟩⟩
    exact ⟨rfl, hinteger ▸ hholds.mp h⟩
  · rw [Integer.ofInt?_of_not_holds h]
    refine ⟨_, rfl, ⟨fun hint => absurd (hholds.mpr (hinteger ▸ hint.2)) h, fun _ => ⟨_, rfl, fun y => ?_⟩⟩⟩
    have hsize : Literal.size ⟨negative, whole, none⟩ = Decimal.natOf whole * 10 ^ (0 : Int) := by
      rw [Literal.size, Decimal.natOf_eq, zpow_zero, add_zero, mul_one]
    rw [hsize]
    exact Rounding.isRounded_iff negative _ _

theorem point_denotes (negative : Bool) (hw : IsDigits whole) (hd : IsDigits ds) :
    ∃ v, numberValue? (Literal.text ⟨negative, whole, some ds⟩) = some v ∧
      Literal.Denotes ⟨negative, whole, some ds⟩ v := by
  refine ⟨_, numberValue?_point negative hw hd, ⟨fun hint => ?_, fun _ => ⟨_, rfl, fun y => ?_⟩⟩⟩
  · exact absurd hint.1 nofun
  have hsize : Literal.size ⟨negative, whole, some ds⟩ = Decimal.natOf (whole ++ ds) * 10 ^ (-(ds.length : Int)) := by
    have hpow : (10 : ℚ) ^ ds.length ≠ 0 := by positivity
    rw [Literal.size, Decimal.natOf_eq, Nat.ofDigitChars_append, Nat.ofDigitChars_eq_ofDigitChars_zero (l := ds), zpow_neg,
      zpow_natCast]
    push_cast
    field_simp
  rw [hsize]
  exact Rounding.isRounded_iff negative _ _

/-- **Every number has the right value.** A token for a number is a minus or none, digits, and perhaps a point with digits
behind it. What is written that way has a value: the integer itself where there is no point and 64 bits hold it, and
otherwise the double that it is rounded to. So no text is refused for a number without a value. -/
theorem number_tokens_valued (text : String) :
    (∀ t ∈ tokenize text, t.kind = .number → ∃ l : Literal, l.IsProper ∧ t.text.toList = l.text ∧
      ∃ v, numberValue? t.text.toList = some v ∧ l.Denotes v) ∧
    ∀ literal p, Expr.parse text ≠ .error (.invalidNumber literal p) := by
  obtain ⟨-, -, -, hvalued⟩ := Watched.parse_tells text
  refine ⟨fun t ht hk => ?_, hvalued⟩
  obtain ⟨us, e, htokens, -, hus, he⟩ := tokenize_eq text
  have hnumeral : IsNumeral t.text := by
    rw [htokens, List.mem_append, List.mem_singleton] at ht
    rcases ht with ht | rfl
    · have hgenuine := (hus t ht).1
      rwa [Genuine, show t.word.kind = .number from hk] at hgenuine
    · exact absurd ((congrArg Word.kind he).symm.trans hk) (by decide)
  obtain ⟨l, hl, htext⟩ := exists_literal hnumeral
  refine ⟨l, hl, htext, ?_⟩
  rw [htext]
  obtain ⟨negative, whole, fraction⟩ := l
  cases fraction with
  | none => exact whole_denotes negative hl.whole
  | some ds => exact point_denotes negative hl.whole (hl.fraction ds rfl)

/-- The least integer of 64 bits, with zeros in front. -/
example : numberValue? "-009223372036854775808".toList =
    some (.int ⟨.int64, -9223372036854775808, by decide, by decide⟩) := by
  rfl

end Verdict.Parser
