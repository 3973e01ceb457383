import Verdict.Json.Reader
import Verdict.Json.Writer

/-!
# Strings and their texts

A string is read from its text again (`readString_text`): each character is read from what is written for it,
whatever follows.
-/

namespace Verdict.Json

variable {acc cs rest : List Char} {c : Char}

theorem readString_simple {e : Char} (h : simpleEscape? e = some c) :
    readString (some acc) ('\\' :: e :: rest) = readString (some (c :: acc)) rest := by
  have hu : e ≠ 'u' := by
    rintro rfl
    cases h
  simp [readString, hu, h, Gathered.push]

theorem readString_plain (hquote : c ≠ '"') (hslash : c ≠ '\\') (hcontrol : ¬ c.toNat < 32) :
    readString (some acc) (c :: rest) = readString (some (c :: acc)) rest := by
  have hnext (d : Char) (cs : List Char) (h : c = '\\') : rest = d :: cs → False := absurd h hslash
  simp [readString, hslash, hcontrol, Gathered.push]

/-! ## Escapes by number -/

theorem hexValue?_hexDigit : ∀ n < 16, hexValue? (hexDigit n) = some n := by
  decide

theorem unit?_hexDigit {n : Nat} (hn : n < 256) : unit? '0' '0' (hexDigit (n / 16)) (hexDigit (n % 16)) = some n := by
  have hzero : hexValue? '0' = some 0 := rfl
  simp only [unit?, hzero, hexValue?_hexDigit (n / 16) (by omega), hexValue?_hexDigit (n % 16) (by omega),
    Option.bind_eq_bind, Option.bind_some, Option.pure_def, Option.some.injEq]
  omega

/-- A character that is no half of a pair is read from its number, also where another escape follows. -/
theorem readString_unit {a b d e : Char} (hunit : unit? a b d e = some c.toNat) (hhigh : isHighSurrogate c.toNat = false)
    (hlow : isLowSurrogate c.toNat = false) :
    readString (some acc) ('\\' :: 'u' :: a :: b :: d :: e :: rest) = readString (some (c :: acc)) rest := by
  have hchar : Char.ofNat c.toNat = c := Char.ofNat_toNat c
  rw [readString.eq_def]
  split
  · next heq => cases heq
  · next a' b' c' d' rest heq =>
    cases heq
    cases unit? a' b' c' d' <;> simp [hunit, hhigh, hlow, hchar, Gathered.push]
  · next heq =>
    cases heq
    simp [hunit, hhigh, hlow, hchar, Gathered.push]
  · next hno heq =>
    cases heq
    exact absurd rfl (hno _ _ _ _ _ rfl)
  · next hno heq =>
    cases heq
    exact absurd rfl (hno _ _ rfl)
  · next heq => cases heq

theorem readString_escapeChar (c : Char) :
    readString (some acc) (escapeChar c ++ rest) = readString (some (c :: acc)) rest := by
  unfold escapeChar
  split
  · exact readString_simple rfl
  · exact readString_simple rfl
  · exact readString_simple rfl
  · exact readString_simple rfl
  · exact readString_simple rfl
  · exact readString_simple rfl
  · exact readString_simple rfl
  · next hquote hslash _ _ _ _ _ =>
    split
    · next hcontrol =>
      refine readString_unit (unit?_hexDigit (by omega)) ?_ ?_
      · simp only [isHighSurrogate, Bool.and_eq_false_iff, decide_eq_false_iff_not]
        omega
      · simp only [isLowSurrogate, Bool.and_eq_false_iff, decide_eq_false_iff_not]
        omega
    · next hcontrol => exact readString_plain hquote hslash hcontrol

theorem readString_escaped (cs : List Char) :
    readString (some acc) (cs.flatMap escapeChar ++ '"' :: rest) = some (some (cs.reverse ++ acc), rest) := by
  induction cs generalizing acc with
  | nil => rw [List.flatMap_nil, List.nil_append, readString, List.reverse_nil, List.nil_append]
  | cons c cs ih =>
    rw [List.flatMap_cons, List.append_assoc, readString_escapeChar, ih, List.reverse_cons, List.append_assoc]
    rfl

/-- **A string is read from its text.** -/
theorem readString_text (s : String) (rest : List Char) :
    ∃ cs, stringText s ++ rest = '"' :: cs ∧ readString (some []) cs = some (some s.toList.reverse, rest) := by
  refine ⟨s.toList.flatMap escapeChar ++ '"' :: rest, ?_, ?_⟩
  · simp [stringText]
  · rw [readString_escaped, List.append_nil]

end Verdict.Json
