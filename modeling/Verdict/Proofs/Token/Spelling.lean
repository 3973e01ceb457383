import Verdict.Proofs.Token.Words

/-!
# Words that are written out

What the lexer cuts off a text that begins with a name, a number, a string or a sign, given what follows: each is
read back as the word that was written.
-/

namespace Verdict

/-! ## Characters by their codes -/

theorem char_le_iff (c d : Char) : c ≤ d ↔ c.toNat ≤ d.toNat := by
  rw [Char.le_def, UInt32.le_iff_toNat_le]
  rfl

theorem isDigit_iff (c : Char) : Decimal.isDigit c = true ↔ 48 ≤ c.toNat ∧ c.toNat ≤ 57 := by
  simp only [Decimal.isDigit, Bool.and_eq_true, decide_eq_true_eq, char_le_iff]
  rfl

theorem isAlpha_iff (c : Char) :
    c.isAlpha = true ↔ 65 ≤ c.toNat ∧ c.toNat ≤ 90 ∨ 97 ≤ c.toNat ∧ c.toNat ≤ 122 := by
  show (decide (c.val ≥ 'A'.val ∧ c.val ≤ 'Z'.val) || decide (c.val ≥ 'a'.val) && decide (c.val ≤ 'z'.val)) = true ↔ _
  simp only [Bool.or_eq_true, Bool.and_eq_true, decide_eq_true_eq, ge_iff_le, UInt32.le_iff_toNat_le]
  rfl

theorem startsWord_iff (c : Char) : Lexeme.startsWord c = true ↔
    (65 ≤ c.toNat ∧ c.toNat ≤ 90 ∨ 97 ≤ c.toNat ∧ c.toNat ≤ 122) ∨ c = '$' := by
  rw [Lexeme.startsWord, Bool.or_eq_true, isAlpha_iff, decide_eq_true_eq]

theorem continuesWord_of_startsWord {c : Char} (h : Lexeme.startsWord c = true) :
    Lexeme.continuesWord c = true := by
  simp only [Lexeme.startsWord, Lexeme.continuesWord, Char.isAlphanum, Bool.or_eq_true] at h ⊢
  rcases h with h | h
  · exact .inl (.inl (.inl h))
  · exact .inr h

theorem not_isDigit_of_startsWord {c : Char} (h : Lexeme.startsWord c = true) : Decimal.isDigit c = false := by
  rw [← Bool.not_eq_true, isDigit_iff]
  rcases (startsWord_iff c).mp h with h | rfl
  · omega
  · decide

theorem not_isBlank_of_startsWord {c : Char} (h : Lexeme.startsWord c = true) : Text.isBlank c = false := by
  rw [← Bool.not_eq_true]
  simp only [Text.isBlank, Bool.or_eq_true, Bool.and_eq_true, decide_eq_true_eq, beq_iff_eq]
  rcases (startsWord_iff c).mp h with h | rfl
  · omega
  · decide

theorem not_isBlank_of_isDigit {c : Char} (h : Decimal.isDigit c = true) : Text.isBlank c = false := by
  rw [← Bool.not_eq_true]
  simp only [Text.isBlank, Bool.or_eq_true, Bool.and_eq_true, decide_eq_true_eq, beq_iff_eq]
  have := (isDigit_iff c).mp h
  omega

namespace Lexeme

variable {c : Char} {ds rest fraction : List Char}

/-! ## Names -/

theorem first_word (hc : startsWord c = true) (a : Bool) (cs : List Char) : first a c cs = word c cs := by
  unfold first
  split
  case h_23 => rw [if_neg (by simp [not_isDigit_of_startsWord hc]), if_pos hc]
  all_goals exact absurd hc (by decide)

theorem word_run (ds : List Char) (hds : ∀ d ∈ ds, continuesWord d = true) (hrest : rest.head?.any continuesWord = false) :
    word c (ds ++ rest) =
      plain (if Token.keywords.contains (String.ofList (c :: ds)) then .keyword else .identifier) (c :: ds) rest := by
  unfold word
  rw [takeWhile_run hds hrest, dropWhile_run hds hrest]

/-! ## Numbers -/

theorem first_digit (hc : Decimal.isDigit c = true) (a : Bool) (cs : List Char) : first a c cs = number c cs := by
  unfold first
  split
  case h_23 => rw [if_pos hc]
  all_goals exact absurd hc (by decide)

theorem first_minus {cs : List Char} (hcs : beforeDigit cs = true) : first false '-' cs = number '-' cs :=
  if_pos (by rw [hcs]; rfl)

theorem number_whole_run (hds : ∀ d ∈ ds, Decimal.isDigit d = true) (hrest : rest.head?.any Decimal.isDigit = false)
    (hdot : rest.head? ≠ some '.') : number c (ds ++ rest) = plain .number (c :: ds) rest := by
  unfold number
  rw [takeWhile_run hds hrest, dropWhile_run hds hrest]
  split
  · exact absurd rfl hdot
  · rfl

theorem number_point_run (hds : ∀ d ∈ ds, Decimal.isDigit d = true) (hf : Word.IsDigits fraction)
    (hrest : rest.head?.any Decimal.isDigit = false) :
    number c (ds ++ '.' :: (fraction ++ rest)) = plain .number (c :: ds ++ '.' :: fraction) rest := by
  have hne : fraction.isEmpty = false := by simpa using hf.1
  unfold number
  rw [takeWhile_run hds (by rfl), dropWhile_run hds (by rfl)]
  simp only [takeWhile_run hf.2 hrest, dropWhile_run hf.2 hrest, hne, Bool.false_eq_true, if_false]

/-! ## Strings -/

theorem contents_plain {quote c : Char} (hquote : c ≠ quote) (hslash : c ≠ '\\') (cs : List Char) :
    contents quote (c :: cs) = (contents quote cs).push c [c] := by
  rw [contents.eq_def]
  simp only [hquote, hslash, if_false]

theorem contents_escaped {quote : Char} (hquote : '\\' ≠ quote) (e : Char) (cs : List Char) :
    contents quote ('\\' :: e :: cs) = (contents quote cs).push (unescape e) ['\\', e] := by
  rw [contents.eq_def]
  simp only [hquote, if_false, if_true]

end Lexeme

/-! ## Reading words back -/

namespace Lexer

open Lexeme

variable {a : Bool} {c : Char} {cs rest : List Char}

theorem scan_blank (a : Bool) (hc : Text.isBlank c = true) (cs : List Char) : scan a (c :: cs) = scan a cs := by
  have hdrop : (c :: cs).dropWhile Text.isBlank = cs.dropWhile Text.isBlank := by simp [hc]
  cases h : cs.dropWhile Text.isBlank with
  | nil => rw [scan_nil_of_blank h, scan_nil_of_blank (hdrop.trans h)]
  | cons d ds => rw [scan_of_dropWhile h, scan_of_dropWhile (hdrop.trans h)]

theorem scan_plain {kind : TokenKind} {span : List Char} (hc : Text.isBlank c = false)
    (h : first a c cs = plain kind span rest) :
    scan a (c :: cs) = ⟨kind, String.ofList span⟩ :: scan (Token.endsOperand kind (String.ofList span)) rest := by
  rw [scan_of_dropWhile (show (c :: cs).dropWhile Text.isBlank = c :: cs by simp [hc]), h]
  rfl

theorem scan_name (a : Bool) {text : String} (h : Word.IsName text) (hrest : rest.head?.any continuesWord = false) :
    scan a (text.toList ++ rest) = ⟨.identifier, text⟩ :: scan (Token.endsOperand .identifier text) rest := by
  obtain ⟨c, ds, htext, hc, hds, hk⟩ := h
  have hof : String.ofList (c :: ds) = text := by rw [← htext, String.ofList_toList]
  have hkind : Token.keywords.contains text = false := by simpa using hk
  have hfirst : first a c (ds ++ rest) = plain .identifier (c :: ds) rest := by
    rw [first_word hc, word_run ds hds hrest, hof, hkind]
    rfl
  rw [htext, List.cons_append, scan_plain (not_isBlank_of_startsWord hc) hfirst, hof]

/-- A number where no operand stands before it, and where what follows cannot belong to it. -/
theorem scan_number (negative : Bool) {whole fraction : List Char} (hw : Word.IsDigits whole)
    (hf : fraction = [] ∨ ∃ ds, fraction = '.' :: ds ∧ Word.IsDigits ds)
    (hrest : rest.head?.any Decimal.isDigit = false) (hdot : rest.head? ≠ some '.') :
    scan false (Decimal.signed negative (whole ++ fraction) ++ rest) =
      ⟨.number, String.ofList (Decimal.signed negative (whole ++ fraction))⟩ :: scan true rest := by
  have hnumber (c : Char) {ds : List Char} (hds : ∀ d ∈ ds, Decimal.isDigit d = true) :
      number c (ds ++ (fraction ++ rest)) = plain .number (c :: ds ++ fraction) rest := by
    rcases hf with rfl | ⟨fs, rfl, hfs⟩
    · rw [List.nil_append, List.append_nil]
      exact number_whole_run hds hrest hdot
    · exact number_point_run hds hfs hrest
  cases negative with
  | true =>
    have hnext : beforeDigit (whole ++ (fraction ++ rest)) = true := by
      obtain ⟨d, ds, rfl, hd, -⟩ := hw.eq_cons
      exact hd
    rw [Decimal.signed, if_pos rfl, List.cons_append, List.append_assoc]
    exact scan_plain (by decide) ((first_minus hnext).trans (hnumber '-' hw.2))
  | false =>
    obtain ⟨d, ds, rfl, hd, hds⟩ := hw.eq_cons
    rw [Decimal.signed, if_neg Bool.false_ne_true, List.append_assoc, List.cons_append]
    exact scan_plain (not_isBlank_of_isDigit hd) ((first_digit hd ..).trans (hnumber d hds))

end Lexer

end Verdict
