import Verdict.Proofs.Grammar.Counting
import Verdict.Proofs.Token.Spacing

/-!
# What the parser makes of places

The parser reads the places of tokens only to put them into errors: at two places where the same words are left, it does
the same but for the places of errors (`Parser.unplacing`). So texts with the same words are read as the same tree or
refused for the same cause, and with them texts that differ in the white space between their tokens
(`spacing_insignificant`).
-/

namespace Verdict

/-- The error without its place. -/
def ParseError.unplaced : ParseError → ParseError
  | .lexical m _ => .lexical m .start
  | .unexpectedToken expected found _ => .unexpectedToken expected found .start
  | .unexpectedEnd expected => .unexpectedEnd expected
  | .trailingInput found _ => .trailingInput found .start
  | .invalidNumber text _ => .invalidNumber text .start
  | .tooDeep limit => .tooDeep limit

namespace Stream

/-- The same words are left, wherever they stand. -/
structure SameWords (s t : Stream) : Prop where
  current : s.current.word = t.current.word
  rest : s.rest.map Token.word = t.rest.map Token.word

variable {s t : Stream}

theorem SameWords.unexpected (h : SameWords s t) (expected : String) :
    (s.unexpected expected).unplaced = (t.unexpected expected).unplaced := by
  obtain ⟨hkind, htext⟩ := Word.mk.inj h.current
  unfold Stream.unexpected Token.display
  rw [hkind, htext]
  split <;> rfl

theorem SameWords.refuse (h : SameWords s t) (why : Refusal) : (why.error s).unplaced = (why.error t).unplaced := by
  obtain ⟨hkind, htext⟩ := Word.mk.inj h.current
  cases why with
  | unexpected expected => exact h.unexpected expected
  | lexical | unnamed | valueless | trailing | tooDeep =>
    simp only [Refusal.error, ParseError.unplaced, Token.display, hkind, htext]

theorem SameWords.advance (h : SameWords s t) :
    Agree (fun e e' => e.unplaced = e'.unplaced) SameWords s.advance t.advance := by
  obtain ⟨u, us⟩ := s
  obtain ⟨v, vs⟩ := t
  obtain ⟨hcurrent, hrest⟩ := h
  cases us with
  | nil =>
    obtain rfl := List.map_eq_nil_iff.mp hrest.symm
    exact .ok ⟨hcurrent, rfl⟩
  | cons u us =>
    obtain ⟨v, vs, rfl, hword, hwords⟩ := List.map_eq_cons_iff.mp hrest.symm
    obtain ⟨hkind, htext⟩ := Word.mk.inj hword
    unfold Stream.advance
    dsimp only
    rw [hkind]
    split
    · exact .error (congrArg (ParseError.lexical · .start) htext.symm)
    · exact .ok ⟨hword.symm, hwords.symm⟩

end Stream

/-- At places where the same words are left, the parser does the same but for the places of errors. -/
def Parser.unplacing : Simulation (Except ParseError) (Except ParseError) where
  toSameTrees := .equal _
  Place := Stream.SameWords
  Run r x y := Agree (fun e e' : ParseError => e.unplaced = e'.unplaced) r x y
  word h := h.current
  length h := by simpa using congrArg List.length h.rest
  done h := .ok h
  bind hx hf := hx.bind hf
  advance h := h.advance
  refuse _ h why := .error (h.refuse why)
  node h := by
    rw [h.eq]
    exact (Agree.refl _).mono (fun _ _ he => congrArg _ he) fun _ _ => id

/-! ## Texts with the same words -/

theorem Stream.sameWords_ofText {a b : String} (h : (tokenize b).map Token.word = (tokenize a).map Token.word) :
    SameWords (ofText b) (ofText a) := by
  unfold ofText
  cases ha : tokenize a with
  | nil =>
    rw [ha] at h
    rw [List.map_eq_nil_iff.mp h]
    exact ⟨rfl, rfl⟩
  | cons t ts =>
    rw [ha] at h
    obtain ⟨u, us, hb, hword, hwords⟩ := List.map_eq_cons_iff.mp h
    rw [hb]
    exact ⟨hword, hwords⟩

/-- **The words decide** what a text is read as: the tree is the same, or the error is, wherever it is. -/
theorem parse_eq_of_words {a b : String} (h : (tokenize b).map Token.word = (tokenize a).map Token.word) :
    (Expr.parse b).mapError ParseError.unplaced = (Expr.parse a).mapError ParseError.unplaced := by
  have hoperand := Simulation.operand_same (S := Parser.unplacing) (fun h => h) Parser.maxDepth
  have hwhole := hoperand.expressionOf.wholeOf (Stream.sameWords_ofText h)
  rw [Expr.parse_eq, Expr.parse_eq]
  exact hwhole.mapError_eq

/-- The second text is made of the spans of the tokens of the first one, in their order. Before it, behind it and
between the spans there is nothing but white space, of whatever kind, and between two tokens there is some if and only
if there was some. -/
def SpacedAlike (a b : String) : Prop :=
  ∃ row trail lead body, (Lexer.ofText a).Cuts row trail ∧ AllBlank lead ∧ Respaced row body ∧
    b.toList = lead ++ body

/-- **White space does nothing but keep tokens apart.** If one text is made of the spans of another one, apart where they
were apart, the two have the same words, and the parser reads the same tree from both or gives the same error for both
except for its place. -/
theorem spacing_insignificant {a b : String} (h : SpacedAlike a b) :
    (tokenize b).map Token.word = (tokenize a).map Token.word ∧
    (Expr.parse b).mapError ParseError.unplaced = (Expr.parse a).mapError ParseError.unplaced := by
  obtain ⟨row, trail, lead, body, hcuts, hlead, hbody, hb⟩ := h
  have hwords : (tokenize b).map Token.word = (tokenize a).map Token.word := by
    rw [tokenize_words, tokenize_words, words_respaced hcuts hbody hlead hb]
  exact ⟨hwords, parse_eq_of_words hwords⟩

/-- A newline for a space, and white space at both ends: the minus is an operator as before, and the parenthesis that is
too much stands elsewhere. -/
theorem spacing_insignificant_newline :
    SpacedAlike "a -1 )" "\ta\n-1\r\n)  " ∧
    (tokenize "\ta\n-1\r\n)  ").map Token.word = (tokenize "a -1 )").map Token.word ∧
    (Expr.parse "\ta\n-1\r\n)  ").mapError ParseError.unplaced =
      (Expr.parse "a -1 )").mapError ParseError.unplaced ∧
    Expr.parse "a -1 )" = .error (.trailingInput ")" ⟨1, 6⟩) ∧
    Expr.parse "\ta\n-1\r\n)  " = .error (.trailingInput ")" ⟨3, 1⟩) := by
  have hcuts : (Lexer.ofText "a -1 )").Cuts
      [⟨[], ['a'], ⟨.identifier, "a", ⟨1, 1⟩⟩⟩, ⟨[' '], ['-'], ⟨.operator, "-", ⟨1, 3⟩⟩⟩,
        ⟨[], ['1'], ⟨.number, "1", ⟨1, 4⟩⟩⟩, ⟨[' '], [')'], ⟨.rightParen, ")", ⟨1, 6⟩⟩⟩] [] := by
    refine .token ⟨rfl, rfl, rfl, rfl, ?_⟩ (.token ⟨rfl, rfl, rfl, rfl, ?_⟩ (.token ⟨rfl, rfl, rfl, rfl, ?_⟩
      (.token ⟨rfl, rfl, rfl, rfl, ?_⟩ (.ended (List.forall_mem_nil _)))))
    all_goals exact ⟨by simp [Text.isBlank], ⟨_, _, rfl, rfl⟩, by decide, fun _ _ => rfl⟩
  have halike : SpacedAlike "a -1 )" "\ta\n-1\r\n)  " := by
    refine ⟨_, _, ['\t'], ['a'] ++ (['\n'] ++ (['-'] ++ ([] ++ (['1'] ++ (['\r', '\n'] ++ ([')'] ++ ([' ', ' '] ++ []))))))),
      hcuts, by simp [AllBlank, Text.isBlank], ?_, rfl⟩
    refine .token ?_ (by simp) (.token ?_ (by simp) (.token ?_ (by simp) (.token ?_ (by simp) .ended)))
    all_goals simp [AllBlank, Text.isBlank]
  obtain ⟨hwords, hparse⟩ := spacing_insignificant halike
  exact ⟨halike, hwords, hparse, rfl, rfl⟩

end Verdict
