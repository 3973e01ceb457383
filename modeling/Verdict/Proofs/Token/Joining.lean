import Verdict.Proofs.Token.Spelling

/-!
# Texts one after the other

Where a text goes on with a character that no word goes on with, its words stay what they are, and the words of the
rest come after them (`Lexer.scan_append`). All that the rest has to know of the text before it is whether an operand
ended there.
-/

namespace Verdict

section runs

variable {α : Type} {p : α → Bool} {rest : List α}

theorem takeWhile_append_stop (hrest : rest.head?.any p = false) (cs : List α) :
    (cs ++ rest).takeWhile p = cs.takeWhile p := by
  induction cs with
  | nil => exact takeWhile_run (by simp) hrest
  | cons c cs ih =>
    by_cases hc : p c = true
    · simp [hc, ih]
    · simp [hc]

theorem dropWhile_append_stop (hrest : rest.head?.any p = false) (cs : List α) :
    (cs ++ rest).dropWhile p = cs.dropWhile p ++ rest := by
  induction cs with
  | nil => exact dropWhile_run (by simp) hrest
  | cons c cs ih =>
    by_cases hc : p c = true
    · simp [hc, ih]
    · simp [hc]

end runs

deriving instance DecidableEq for Lexeme

namespace Lexeme

/-! ## What no word goes on with -/

/-- No word that is complete goes on there. -/
structure Apart (rest : List Char) : Prop where
  word : rest.head?.any continuesWord = false
  second : ∀ c ∈ ['.', '=', '*', '&', '|'], rest.head? ≠ some c

theorem Apart.digit {rest : List Char} (h : Apart rest) : rest.head?.any Decimal.isDigit = false := by
  have hword := h.word
  cases rest with
  | nil => rfl
  | cons c cs =>
    simp only [List.head?_cons, Option.any_some, continuesWord, Char.isAlphanum, Bool.or_eq_false_iff] at hword ⊢
    exact hword.1.1.2

theorem apart_blank {c : Char} (hc : Text.isBlank c = true) (cs : List Char) : Apart (c :: cs) where
  word := by
    show continuesWord c = false
    rw [← Bool.not_eq_true]
    intro hword
    simp only [continuesWord, Char.isAlphanum, Bool.or_eq_true, decide_eq_true_eq] at hword
    rcases hword with ((halpha | hdigit) | rfl) | rfl
    · exact absurd hc (by rw [not_isBlank_of_startsWord (by simp [startsWord, halpha])]; decide)
    · exact absurd hc (by rw [not_isBlank_of_isDigit hdigit]; decide)
    · exact absurd hc (by decide)
    · exact absurd hc (by decide)
  second := by
    have hall : (['.', '=', '*', '&', '|'].all fun d => !Text.isBlank d) = true := by decide
    intro d hd heq
    cases Option.some.inj heq
    have hnot := List.all_eq_true.mp hall c hd
    simp [hc] at hnot

theorem apart_mark {c : Char} (hc : c ∈ ['-', ',', ')', ']']) (cs : List Char) : Apart (c :: cs) := by
  have hmark : continuesWord c = false ∧ c ∉ ['.', '=', '*', '&', '|'] := by
    simp only [List.mem_cons, List.not_mem_nil, or_false] at hc
    rcases hc with rfl | rfl | rfl | rfl <;> decide
  exact ⟨hmark.1, fun d hd heq => hmark.2 (Option.some.inj heq ▸ hd)⟩

/-! ## One word and more after it -/

/-- The same token where more text follows. -/
def followedBy (x : Lexeme) (rest : List Char) : Lexeme := { x with rest := x.rest ++ rest }

variable {rest : List Char}

theorem oneOrTwo_append (c : Char) {second : Char} (h : rest.head? ≠ some second) (cs : List Char) :
    oneOrTwo c second (cs ++ rest) = (oneOrTwo c second cs).followedBy rest := by
  cases cs with
  | cons d cs =>
    simp only [oneOrTwo, List.cons_append]
    by_cases hd : d = second
    · rw [if_pos hd, if_pos hd]
      rfl
    · rw [if_neg hd, if_neg hd]
      rfl
  | nil =>
    cases rest with
    | nil => rfl
    | cons d ds =>
      have hd : d ≠ second := fun heq => h (by rw [heq]; rfl)
      simp only [oneOrTwo, List.nil_append, if_neg hd]
      rfl

theorem twice_append {c : Char} {cs : List Char} (h : (twice c cs).kind ≠ .error) :
    twice c (cs ++ rest) = (twice c cs).followedBy rest := by
  cases cs with
  | nil => exact absurd rfl h
  | cons d cs =>
    simp only [twice, List.cons_append] at h ⊢
    by_cases hd : d = c
    · rw [if_pos hd, if_pos hd]
      rfl
    · rw [if_neg hd] at h
      exact absurd rfl h

theorem word_append (hrest : Apart rest) (c : Char) (cs : List Char) :
    word c (cs ++ rest) = (word c cs).followedBy rest := by
  unfold word
  rw [takeWhile_append_stop hrest.word, dropWhile_append_stop hrest.word]
  rfl

theorem number_append (hrest : Apart rest) {c : Char} {cs : List Char} (h : (number c cs).kind ≠ .error) :
    number c (cs ++ rest) = (number c cs).followedBy rest := by
  unfold number at h ⊢
  rw [takeWhile_append_stop hrest.digit, dropWhile_append_stop hrest.digit]
  cases hd : cs.dropWhile Decimal.isDigit with
  | nil =>
    rw [List.nil_append]
    split
    · exact absurd rfl (hrest.second '.' (by decide))
    · rfl
  | cons d ds =>
    rw [hd] at h
    by_cases hdot : d = '.'
    · subst hdot
      simp only [List.cons_append, takeWhile_append_stop hrest.digit, dropWhile_append_stop hrest.digit] at h ⊢
      by_cases hf : (ds.takeWhile Decimal.isDigit).isEmpty = true
      · rw [if_pos hf] at h
        exact absurd rfl h
      · rw [if_neg hf, if_neg hf]
        rfl
    · simp only [List.cons_append]
      split
      · next heq => exact absurd (List.cons.inj heq).1 hdot
      · split
        · next heq => exact absurd (List.cons.inj heq).1 hdot
        · rfl

theorem contents_append (quote : Char) (cs : List Char) (h : (contents quote cs).closed = true) :
    contents quote (cs ++ rest) = { contents quote cs with rest := (contents quote cs).rest ++ rest } := by
  fun_induction contents quote cs with
  | case1 => cases h
  | case2 cs =>
    rw [List.cons_append, contents.eq_def]
    simp
  | case3 => cases h
  | case4 e cs hq ih =>
    rw [List.cons_append, List.cons_append, contents_escaped hq, ih h]
    rfl
  | case5 c cs hq hs ih =>
    rw [List.cons_append, contents_plain hq hs, ih h]
    rfl

theorem string_append {quote : Char} {cs : List Char} (h : (string quote cs).kind ≠ .error) :
    string quote (cs ++ rest) = (string quote cs).followedBy rest := by
  have hclosed : (contents quote cs).closed = true := by
    by_contra hopen
    simp [string, hopen] at h
  unfold string
  simp only [contents_append quote cs hclosed, hclosed, if_true]
  rfl

theorem beforeDigit_append (hrest : Apart rest) (cs : List Char) : beforeDigit (cs ++ rest) = beforeDigit cs := by
  cases cs with
  | nil => exact hrest.digit
  | cons c cs => rfl

/-- **A word stays what it is** where the text goes on with something that no word goes on with. -/
theorem first_append (hrest : Apart rest) {a : Bool} {c : Char} {cs : List Char} (h : (first a c cs).kind ≠ .error) :
    first a c (cs ++ rest) = (first a c cs).followedBy rest := by
  unfold first at h ⊢
  split
  case h_8 =>
    rw [beforeDigit_append hrest]
    by_cases hsign : (!a && beforeDigit cs) = true
    · rw [if_pos hsign] at h
      rw [if_pos hsign, if_pos hsign, number_append hrest h]
    · rw [if_neg hsign, if_neg hsign]
      rfl
  case h_23 =>
    by_cases hdigit : Decimal.isDigit c = true
    · simp only [hdigit, if_true] at h ⊢
      exact number_append hrest h
    · by_cases hword : startsWord c = true
      · simp only [hdigit, hword, if_true]
        exact word_append hrest c cs
      · simp only [hdigit, hword] at h
        exact absurd rfl h
  all_goals first
    | rfl
    | exact oneOrTwo_append _ (hrest.second _ (by decide)) cs
    | exact twice_append h
    | exact string_append h

end Lexeme

/-! ## All words -/

namespace Lexer

open Lexeme

/-- Whether an operand ends with the last of some words, given whether one stands before them. -/
def endsAfter (a : Bool) (ws : List Word) : Bool := ws.foldl (fun _ w => Token.endsOperand w.kind w.text) a

theorem scan_blanks (a : Bool) {blanks : List Char} (h : ∀ c ∈ blanks, Text.isBlank c = true) (cs : List Char) :
    scan a (blanks ++ cs) = scan a cs := by
  induction blanks with
  | nil => rfl
  | cons b bs ih =>
    rw [List.forall_mem_cons] at h
    rw [List.cons_append, scan_blank a h.1, ih h.2]

/-- **The words of a text** are those of its parts, where the second part does not go on with a word of the first. -/
theorem scan_append {a : Bool} {text rest : List Char} (h : ∀ w ∈ scan a text, w.kind ≠ .error) (hrest : Apart rest) :
    scan a (text ++ rest) = scan a text ++ scan (endsAfter a (scan a text)) rest := by
  fun_induction scan a text with
  | case1 a text hblank => exact scan_blanks a (List.dropWhile_eq_nil_iff.mp hblank) rest
  | case2 a text c cs hd x ih =>
    rw [List.forall_mem_cons] at h
    have hdrop : (text ++ rest).dropWhile Text.isBlank = c :: (cs ++ rest) := by
      rw [List.dropWhile_append, hd]
      rfl
    have hx : first a c (cs ++ rest) = x.followedBy rest := first_append hrest h.1
    rw [scan_of_dropWhile hdrop, hx]
    exact congrArg (x.toWord :: ·) (ih h.2)

end Lexer

end Verdict
