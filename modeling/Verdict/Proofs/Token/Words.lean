import Verdict.Token.Lexer
import Mathlib.Data.List.TakeWhile

/-!
# The words of a text

What the lexer cuts off a text is never empty and is a word of the language or an error (`Lexeme.first_cut`). So
the tokens of a text are words with one end of input after them (`tokenize_words`), and what they say does not
depend on where they stand: `scan` cuts a text into words without counting lines and columns.
-/

namespace Verdict

/-! ## Runs of characters -/

section runs

variable {α : Type} {p : α → Bool} {run rest : List α}

theorem takeWhile_run (hrun : ∀ c ∈ run, p c = true) (hrest : rest.head?.any p = false) :
    (run ++ rest).takeWhile p = run := by
  rw [List.takeWhile_append_of_pos hrun]
  cases rest with
  | nil => simp
  | cons c cs => simp [show p c = false from hrest]

theorem dropWhile_run (hrun : ∀ c ∈ run, p c = true) (hrest : rest.head?.any p = false) :
    (run ++ rest).dropWhile p = rest := by
  rw [List.dropWhile_append_of_pos hrun]
  cases rest with
  | nil => rfl
  | cons c cs => simp [show p c = false from hrest]

end runs

/-! ## Words -/

/-- What a token says, without its place. -/
structure Word where
  kind : TokenKind
  text : String
deriving DecidableEq

def Token.word (t : Token) : Word := ⟨t.kind, t.text⟩

def Lexeme.toWord (x : Lexeme) : Word := ⟨x.kind, String.ofList x.text⟩

namespace Word

/-- The signs that operators are written with. -/
def signs : List String :=
  ["=", "==", "!", "!=", "<", "<=", ">", ">=", "&&", "||", "*", "**", "+", "-", "/", "%"]

/-- A name begins and goes on as words do, and is no keyword. -/
def IsName (text : String) : Prop :=
  ∃ c cs, text.toList = c :: cs ∧ Lexeme.startsWord c = true ∧ (∀ d ∈ cs, Lexeme.continuesWord d = true) ∧
    text ∉ Token.keywords

def IsDigits (ds : List Char) : Prop := ds ≠ [] ∧ ∀ d ∈ ds, Decimal.isDigit d = true

theorem IsDigits.eq_cons {ds : List Char} (h : IsDigits ds) :
    ∃ c cs, ds = c :: cs ∧ Decimal.isDigit c = true ∧ ∀ d ∈ cs, Decimal.isDigit d = true := by
  obtain ⟨hne, hds⟩ := h
  cases ds with
  | nil => exact absurd rfl hne
  | cons c cs => exact ⟨c, cs, rfl, List.forall_mem_cons.mp hds⟩

theorem IsDigits.head_ne {ds : List Char} (h : IsDigits ds) {c : Char} (hc : Decimal.isDigit c = false) (cs : List Char) :
    (ds ++ cs).head? ≠ some c := by
  obtain ⟨d, ds, rfl, hd, -⟩ := h.eq_cons
  intro heq
  cases Option.some.inj heq
  exact absurd hd (by rw [hc]; decide)

/-- Digits, perhaps with a minus before them, and perhaps with a point and more digits after them. -/
def IsNumeral (text : String) : Prop :=
  ∃ minus whole fraction, text.toList = minus ++ (whole ++ fraction) ∧ (minus = [] ∨ minus = ['-']) ∧ IsDigits whole ∧
    (fraction = [] ∨ ∃ ds, fraction = '.' :: ds ∧ IsDigits ds)

/-- What is known of the text of a word from its kind. -/
def Genuine (w : Word) : Prop :=
  match w.kind with
  | .operator => w.text ∈ signs
  | .keyword => w.text ∈ Token.keywords
  | .identifier => IsName w.text
  | .number => IsNumeral w.text
  | _ => True

end Word

/-! ## One word -/

namespace Lexeme

/-- What is known of a word that has been cut off a text. -/
structure Cut (x : Lexeme) (cs : List Char) : Prop where
  split : x.span ++ x.rest = cs
  span_ne_nil : x.span ≠ []
  genuine : x.toWord.Genuine
  kind_ne : x.kind ≠ .endOfInput

theorem plain_cut {kind : TokenKind} (span : List Char) {rest : List Char} (hs : span ≠ [])
    (hg : Word.Genuine ⟨kind, String.ofList span⟩) (hk : kind ≠ .endOfInput) :
    (plain kind span rest).Cut (span ++ rest) :=
  ⟨rfl, hs, hg, hk⟩

theorem operator_cut (span : List Char) {rest : List Char} (hs : span ≠ []) (hg : String.ofList span ∈ Word.signs) :
    (operator span rest).Cut (span ++ rest) :=
  plain_cut span hs hg (by decide)

theorem illegal_cut (c : Char) (cs : List Char) : (illegal c cs).Cut (c :: cs) :=
  ⟨rfl, by simp [illegal], trivial, by simp [illegal]⟩

theorem oneOrTwo_cut (c d : Char) (cs : List Char) (h₁ : String.ofList [c] ∈ Word.signs)
    (h₂ : String.ofList [c, d] ∈ Word.signs) : (oneOrTwo c d cs).Cut (c :: cs) := by
  unfold oneOrTwo
  split
  · split
    · next rest h =>
      subst h
      exact operator_cut [c, _] (by simp) h₂
    · exact operator_cut [c] (by simp) h₁
  · exact operator_cut [c] (by simp) h₁

theorem twice_cut (c : Char) (cs : List Char) (h : String.ofList [c, c] ∈ Word.signs) :
    (twice c cs).Cut (c :: cs) := by
  unfold twice
  split
  · split
    · next rest hc =>
      subst hc
      exact operator_cut [_, _] (by simp) h
    · exact illegal_cut c _
  · exact illegal_cut c []

theorem word_cut (c : Char) (cs : List Char) (hc : startsWord c = true) : (word c cs).Cut (c :: cs) := by
  have hsplit : c :: cs.takeWhile continuesWord ++ cs.dropWhile continuesWord = c :: cs := by
    rw [List.cons_append, List.takeWhile_append_dropWhile]
  unfold word
  by_cases hk : Token.keywords.contains (String.ofList (c :: cs.takeWhile continuesWord)) = true
  · refine ⟨hsplit, by simp [plain], ?_, ?_⟩
    · simp only [hk, if_true, plain, toWord, Word.Genuine]
      simpa using hk
    · simp only [hk, if_true, plain, ne_eq, reduceCtorEq, not_false_eq_true]
  · refine ⟨hsplit, by simp [plain], ?_, ?_⟩
    · simp only [hk, plain, toWord, Word.Genuine]
      refine ⟨c, cs.takeWhile continuesWord, String.toList_ofList, hc, fun d hd => List.mem_takeWhile_imp hd, ?_⟩
      simpa using hk
    · simp only [plain]
      split <;> simp

theorem isDigits_takeWhile {cs : List Char} (h : beforeDigit cs = true) :
    Word.IsDigits (cs.takeWhile Decimal.isDigit) := by
  refine ⟨?_, fun d hd => List.mem_takeWhile_imp hd⟩
  cases cs with
  | nil => cases h
  | cons d ds => simp [show Decimal.isDigit d = true from h]

theorem number_whole {c : Char} {cs : List Char} (hc : Decimal.isDigit c = true ∨ c = '-' ∧ beforeDigit cs = true) :
    ∃ minus whole, c :: cs.takeWhile Decimal.isDigit = minus ++ whole ∧ (minus = [] ∨ minus = ['-']) ∧
      Word.IsDigits whole := by
  rcases hc with hc | ⟨rfl, hcs⟩
  · refine ⟨[], _, rfl, .inl rfl, by simp, ?_⟩
    intro d hd
    rcases List.mem_cons.mp hd with rfl | hd
    · exact hc
    · exact List.mem_takeWhile_imp hd
  · exact ⟨['-'], _, rfl, .inr rfl, isDigits_takeWhile hcs⟩

theorem number_cut (c : Char) (cs : List Char) (hc : Decimal.isDigit c = true ∨ c = '-' ∧ beforeDigit cs = true) :
    (number c cs).Cut (c :: cs) := by
  obtain ⟨minus, whole, hw, hminus, hwhole⟩ := number_whole hc
  have hcs := List.takeWhile_append_dropWhile (p := Decimal.isDigit) (l := cs)
  unfold number
  split
  · next rest h =>
    rw [h] at hcs
    have hrest := List.takeWhile_append_dropWhile (p := Decimal.isDigit) (l := rest)
    dsimp only
    split
    · next hf =>
      rw [List.isEmpty_iff] at hf
      refine ⟨?_, by simp, trivial, by simp⟩
      simp only [hf, List.cons_append, List.append_assoc, List.nil_append]
      rw [hcs]
    · next hf =>
      rw [List.isEmpty_iff] at hf
      refine ⟨?_, by simp [plain], ?_, by simp [plain]⟩
      · simp only [plain, List.cons_append, List.append_assoc]
        rw [hrest, hcs]
      · refine ⟨minus, whole, '.' :: rest.takeWhile Decimal.isDigit, ?_, hminus, hwhole, .inr ⟨_, rfl, hf, ?_⟩⟩
        · rw [← List.append_assoc, ← hw]
          exact String.toList_ofList
        · exact fun d hd => List.mem_takeWhile_imp hd
  · refine ⟨?_, by simp [plain], ?_, by simp [plain]⟩
    · simp only [plain, List.cons_append, hcs]
    · exact ⟨minus, whole, [], by rw [List.append_nil, ← hw]; exact String.toList_ofList, hminus, hwhole, .inl rfl⟩

theorem contents_split (quote : Char) (cs : List Char) :
    (contents quote cs).span ++ (contents quote cs).rest = cs := by
  fun_induction contents quote cs with
  | case1 => rfl
  | case2 cs => rfl
  | case3 => rfl
  | case4 h e cs ih => simp [Contents.push, ih]
  | case5 c cs h h' ih => simp [Contents.push, ih]

theorem string_cut (quote : Char) (cs : List Char) : (string quote cs).Cut (quote :: cs) := by
  have h : quote :: (contents quote cs).span ++ (contents quote cs).rest = quote :: cs := by
    rw [List.cons_append, contents_split]
  unfold string
  dsimp only
  split
  · exact ⟨h, by simp, trivial, by simp⟩
  · exact ⟨h, by simp, trivial, by simp⟩

/-- **Every lexeme** takes something off the text, loses nothing of it and says what words of its kind say. -/
theorem first_cut (a : Bool) (c : Char) (cs : List Char) : (first a c cs).Cut (c :: cs) := by
  have sign : ∀ d rest, String.ofList [d] ∈ Word.signs → (operator [d] rest).Cut (d :: rest) := fun d rest h =>
    operator_cut [d] (by simp) h
  have mark : ∀ k d rest, Word.Genuine ⟨k, String.ofList [d]⟩ → k ≠ .endOfInput →
      (plain k [d] rest).Cut (d :: rest) := fun k d rest h hk => plain_cut [d] (by simp) h hk
  unfold first
  split
  case h_8 =>
    split
    · next h => exact number_cut _ _ (.inr ⟨rfl, (Bool.and_eq_true_iff.mp h).2⟩)
    · exact sign _ _ (by decide)
  case h_23 =>
    split
    · next h => exact number_cut _ _ (.inl h)
    · split
      · next h => exact word_cut _ _ h
      · exact illegal_cut _ _
  all_goals first
    | exact oneOrTwo_cut _ _ _ (by decide) (by decide)
    | exact twice_cut _ _ (by decide)
    | exact sign _ _ (by decide)
    | exact mark _ _ _ trivial (by decide)
    | exact string_cut _ _

theorem first_rest_lt (a : Bool) (c : Char) (cs : List Char) : (first a c cs).rest.length ≤ cs.length := by
  have h := first_cut a c cs
  have hlen := congrArg List.length h.split
  have hpos := List.length_pos_iff.mpr h.span_ne_nil
  simp only [List.length_append, List.length_cons] at hlen
  omega

end Lexeme

/-! ## All words -/

namespace Lexer

/-- The words of a text, given whether an operand stands before it. -/
def scan (afterOperand : Bool) (text : List Char) : List Word :=
  match _h : text.dropWhile Text.isBlank with
  | [] => []
  | c :: cs =>
    let x := Lexeme.first afterOperand c cs
    x.toWord :: scan (Token.endsOperand x.kind x.toWord.text) x.rest
termination_by text.length
decreasing_by
  have hx := Lexeme.first_rest_lt afterOperand c cs
  have hle := (List.dropWhile_suffix (l := text) Text.isBlank).length_le
  rw [_h, List.length_cons] at hle
  omega

theorem scan_nil_of_blank {a : Bool} {text : List Char} (h : text.dropWhile Text.isBlank = []) :
    scan a text = [] := by
  rw [scan]
  split
  · rfl
  · next h' => rw [h] at h'; cases h'

theorem scan_of_dropWhile {a : Bool} {text : List Char} {c : Char} {cs : List Char}
    (h : text.dropWhile Text.isBlank = c :: cs) :
    scan a text = (Lexeme.first a c cs).toWord ::
      scan (Token.endsOperand (Lexeme.first a c cs).kind (Lexeme.first a c cs).toWord.text)
        (Lexeme.first a c cs).rest := by
  rw [scan]
  split
  · next h' => rw [h] at h'; cases h'
  · next h' =>
    rw [h] at h'
    cases h'
    rfl

theorem next_of_blank {l : Lexer} (h : l.rest.dropWhile Text.isBlank = []) :
    l.next.1.word = ⟨.endOfInput, ""⟩ := by
  unfold next
  rw [h]
  rfl

theorem next_of_dropWhile {l : Lexer} {c : Char} {cs : List Char}
    (h : l.rest.dropWhile Text.isBlank = c :: cs) :
    l.next.1.word = (Lexeme.first l.afterOperand c cs).toWord ∧
      l.next.2.rest = (Lexeme.first l.afterOperand c cs).rest ∧
      l.next.2.afterOperand = Token.endsOperand (Lexeme.first l.afterOperand c cs).kind
        (Lexeme.first l.afterOperand c cs).toWord.text := by
  unfold next
  rw [h]
  exact ⟨rfl, rfl, rfl⟩

/-- With more fuel than characters, the tokens are the words and the end of input. -/
theorem run_words (fuel : Nat) (l : Lexer) (h : l.rest.length < fuel) :
    (l.run fuel).1.map Token.word = scan l.afterOperand l.rest ++ [⟨.endOfInput, ""⟩] := by
  induction fuel generalizing l with
  | zero => omega
  | succ fuel ih =>
    cases hd : l.rest.dropWhile Text.isBlank with
    | nil =>
      have hw := next_of_blank hd
      have hk : l.next.1.kind = .endOfInput := congrArg Word.kind hw
      rw [scan_nil_of_blank hd, run]
      simp [hk, hw]
    | cons c cs =>
      obtain ⟨hw, hr, ha⟩ := next_of_dropWhile hd
      have hk : l.next.1.kind ≠ .endOfInput := by
        rw [show l.next.1.kind = (Lexeme.first l.afterOperand c cs).kind from congrArg Word.kind hw]
        exact (Lexeme.first_cut _ _ _).kind_ne
      have hlt : l.next.2.rest.length < fuel := by
        have hx := Lexeme.first_rest_lt l.afterOperand c cs
        have hle := (List.dropWhile_suffix (l := l.rest) Text.isBlank).length_le
        rw [hd, List.length_cons] at hle
        rw [hr]
        omega
      rw [scan_of_dropWhile hd, run]
      simp only [hk, if_false, List.map_cons, hw, ih _ hlt, hr, ha, List.cons_append]

theorem scan_spec (a : Bool) (text : List Char) :
    ∀ w ∈ scan a text, w.Genuine ∧ w.kind ≠ .endOfInput := by
  fun_induction scan a text with
  | case1 => simp
  | case2 a text c cs h x ih =>
    intro w hw
    have hcut := Lexeme.first_cut a c cs
    rcases List.mem_cons.mp hw with rfl | hw
    · exact ⟨hcut.genuine, hcut.kind_ne⟩
    · exact ih w hw

end Lexer

/-- The words of a text. -/
def words (text : String) : List Word := Lexer.scan false text.toList

theorem tokenize_words (text : String) :
    (tokenize text).map Token.word = words text ++ [⟨.endOfInput, ""⟩] :=
  Lexer.run_words _ _ (Nat.lt_succ_self _)

end Verdict
