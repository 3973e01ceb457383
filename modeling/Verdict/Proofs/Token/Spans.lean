import Verdict.Proofs.Token.Words
import Mathlib.Data.List.Induction

/-!
# Where tokens stand in a text

A text is white space and the spans of its tokens in turn, and white space at its end (`tokenize_spans`). Nothing of
it is lost or made up, and the place of a token is the place of the first character of its span. One token goes over
the white space before it and over its span (`Lexer.next_takes`); a run of the lexer takes one token after the other
until only white space is left (`Lexer.Cuts`).
-/

namespace Verdict

/-! ## Places -/

namespace Position

/-- The place after a text, by what stands in it: the line counts its newlines, and the column what stands after the
last of them. -/
def after (before : List Char) : Position :=
  ⟨1 + before.count '\n', 1 + (before.reverse.takeWhile (· ≠ '\n')).length⟩

theorem after_append_singleton (before : List Char) (c : Char) :
    after (before ++ [c]) = (after before).next c := by
  unfold after next
  by_cases hc : c = '\n'
  · simp [hc, Nat.add_assoc]
  · simp [hc, Nat.add_assoc]

theorem advance_append (p : Position) (cs ds : List Char) : p.advance (cs ++ ds) = (p.advance cs).advance ds :=
  List.foldl_append

theorem advance_start (cs : List Char) : start.advance cs = after cs := by
  induction cs using List.reverseRecOn with
  | nil => rfl
  | append_singleton cs c ih =>
    rw [advance_append, ih, after_append_singleton]
    rfl

end Position

/-! ## What a token says -/

namespace Lexeme

/-- A token other than a string or an error says its span. -/
def Literal (x : Lexeme) : Prop := x.kind ≠ .string → x.kind ≠ .error → x.text = x.span

theorem plain_literal (kind : TokenKind) (span rest : List Char) : (plain kind span rest).Literal :=
  fun _ _ => rfl

theorem literal_of_error {x : Lexeme} (h : x.kind = .error) : x.Literal := fun _ h' => absurd h h'

theorem oneOrTwo_literal (c d : Char) (cs : List Char) : (oneOrTwo c d cs).Literal := by
  unfold oneOrTwo
  split
  · split
    · exact plain_literal _ _ _
    · exact plain_literal _ _ _
  · exact plain_literal _ _ _

theorem twice_literal (c : Char) (cs : List Char) : (twice c cs).Literal := by
  unfold twice
  split
  · split
    · exact plain_literal _ _ _
    · exact literal_of_error rfl
  · exact literal_of_error rfl

theorem number_literal (c : Char) (cs : List Char) : (number c cs).Literal := by
  unfold number
  split
  · dsimp only
    split
    · exact literal_of_error rfl
    · exact plain_literal _ _ _
  · exact plain_literal _ _ _

theorem string_literal (quote : Char) (cs : List Char) : (string quote cs).Literal := by
  unfold string
  dsimp only
  split
  · exact fun h => absurd rfl h
  · exact literal_of_error rfl

theorem first_literal (a : Bool) (c : Char) (cs : List Char) : (first a c cs).Literal := by
  unfold first
  split
  case h_8 =>
    split
    · exact number_literal _ _
    · exact plain_literal _ _ _
  case h_23 =>
    split
    · exact number_literal _ _
    · split
      · exact plain_literal _ _ _
      · exact literal_of_error rfl
  all_goals first
    | exact plain_literal _ _ _
    | exact oneOrTwo_literal _ _ _
    | exact twice_literal _ _
    | exact string_literal _ _

end Lexeme

/-! ## One token -/

/-- A token with what stands before it and with its span. -/
structure Stretch where
  blanks : List Char
  span : List Char
  token : Token

namespace Stretch

/-- What a token takes off a text. -/
def text (s : Stretch) : List Char := s.blanks ++ s.span

/-- Only white space stands before the span, which begins with something else. Unless the token is a string or an
error, it says just the span. -/
structure Sound (s : Stretch) : Prop where
  blanks : ∀ c ∈ s.blanks, Text.isBlank c = true
  span : ∃ c cs, s.span = c :: cs ∧ Text.isBlank c = false
  kind : s.token.kind ≠ .endOfInput
  literal : s.token.kind ≠ .string → s.token.kind ≠ .error → s.token.text.toList = s.span

theorem Sound.length_pos {s : Stretch} (h : s.Sound) : 0 < s.text.length := by
  obtain ⟨c, cs, hspan, -⟩ := h.span
  rw [Stretch.text, hspan, List.length_append, List.length_cons]
  omega

end Stretch

namespace Lexer

/-- The next token is that of the stretch, and the lexer goes over its text. -/
structure Takes (l : Lexer) (s : Stretch) : Prop where
  token : l.next.1 = s.token
  rest : s.text ++ l.next.2.rest = l.rest
  position : s.token.position = l.position.advance s.blanks
  advance : l.next.2.position = l.position.advance s.text
  sound : s.Sound

theorem next_takes {l : Lexer} {c : Char} {cs : List Char} (h : l.rest.dropWhile Text.isBlank = c :: cs) :
    ∃ s, Takes l s := by
  let blanks := l.rest.takeWhile Text.isBlank
  let x := Lexeme.first l.afterOperand c cs
  have hcut : x.Cut (c :: cs) := Lexeme.first_cut l.afterOperand c cs
  have hnext : l.next = (⟨x.kind, String.ofList x.text, l.position.advance blanks⟩,
      { rest := x.rest, position := (l.position.advance blanks).advance x.span,
        afterOperand := Token.endsOperand x.kind (String.ofList x.text) }) := by
    unfold next
    rw [h]
  have hc : Text.isBlank c = false := by
    have := List.head?_dropWhile_not Text.isBlank l.rest
    simpa [h] using this
  refine ⟨⟨blanks, x.span, l.next.1⟩, rfl, ?_, ?_, ?_, ?_, ?_, ?_, ?_⟩
  · rw [hnext, Stretch.text, List.append_assoc, hcut.split, ← h]
    exact List.takeWhile_append_dropWhile
  · rw [hnext]
  · rw [hnext, Stretch.text, Position.advance_append]
  · exact fun d hd => List.mem_takeWhile_imp hd
  · obtain ⟨d, ds, hspan⟩ := List.exists_cons_of_ne_nil hcut.span_ne_nil
    have hd := hcut.split
    rw [hspan, List.cons_append, List.cons.injEq] at hd
    exact ⟨d, ds, hspan, hd.1 ▸ hc⟩
  · rw [hnext]
    exact hcut.kind_ne
  · rw [hnext]
    intro hs he
    rw [String.toList_ofList]
    exact Lexeme.first_literal l.afterOperand c cs hs he

theorem next_ended {l : Lexer} (h : ∀ c ∈ l.rest, Text.isBlank c = true) :
    l.next.1 = ⟨.endOfInput, "", l.position.advance l.rest⟩ ∧ l.next.2.rest = [] ∧
      l.next.2.position = l.position.advance l.rest := by
  have htake : l.rest.takeWhile Text.isBlank = l.rest := List.takeWhile_eq_self_iff.mpr h
  have hdrop : l.rest.dropWhile Text.isBlank = [] := List.dropWhile_eq_nil_iff.mpr h
  unfold next
  rw [hdrop, htake]
  exact ⟨rfl, rfl, rfl⟩

/-! ## All tokens -/

/-- The lexer takes these stretches one after the other, and then only that white space is left. -/
inductive Cuts : Lexer → List Stretch → List Char → Prop
  | ended {l} : (∀ c ∈ l.rest, Text.isBlank c = true) → Cuts l [] l.rest
  | token {l s ss trail} : Takes l s → Cuts l.next.2 ss trail → Cuts l (s :: ss) trail

/-- Every text is cut up, since each token takes a character at least. -/
theorem exists_cuts (n : Nat) : ∀ l : Lexer, l.rest.length ≤ n → ∃ ss trail, Cuts l ss trail := by
  induction n with
  | zero =>
    intro l hl
    have hnil : l.rest = [] := List.length_eq_zero_iff.mp (by omega)
    exact ⟨[], l.rest, .ended (by simp [hnil])⟩
  | succ n ih =>
    intro l hl
    cases hd : l.rest.dropWhile Text.isBlank with
    | nil => exact ⟨[], l.rest, .ended (List.dropWhile_eq_nil_iff.mp hd)⟩
    | cons c cs =>
      obtain ⟨s, hs⟩ := next_takes hd
      have hlen := congrArg List.length hs.rest
      have hpos := hs.sound.length_pos
      rw [List.length_append] at hlen
      obtain ⟨ss, trail, hcuts⟩ := ih l.next.2 (by omega)
      exact ⟨s :: ss, trail, .token hs hcuts⟩

/-- What the `n`-th call for a token gives, counted from zero. -/
def call (l : Lexer) : Nat → Token
  | 0 => l.next.1
  | n + 1 => l.next.2.call n

theorem call_ended (n : Nat) : ∀ l : Lexer, (∀ c ∈ l.rest, Text.isBlank c = true) →
    l.call n = ⟨.endOfInput, "", l.position.advance l.rest⟩ := by
  induction n with
  | zero => exact fun l h => (next_ended h).1
  | succ n ih =>
    intro l h
    obtain ⟨-, hrest, hpos⟩ := next_ended h
    rw [call, ih l.next.2 (by simp [hrest]), hrest, hpos]
    rfl

namespace Cuts

variable {l : Lexer} {ss : List Stretch} {trail : List Char}

theorem trail_blank (h : Cuts l ss trail) : ∀ c ∈ trail, Text.isBlank c = true := by
  induction h with
  | ended hblank => exact hblank
  | token _ _ ih => exact ih

theorem text_eq (h : Cuts l ss trail) : l.rest = ss.flatMap Stretch.text ++ trail := by
  induction h with
  | ended _ => rfl
  | token hs _ ih => rw [← hs.rest, ih, List.flatMap_cons, List.append_assoc]

theorem sound (h : Cuts l ss trail) : ∀ s ∈ ss, s.Sound := by
  induction h with
  | ended _ => simp
  | token hs _ ih => exact List.forall_mem_cons.mpr ⟨hs.sound, ih⟩

theorem length_le (h : Cuts l ss trail) : ss.length ≤ l.rest.length := by
  induction h with
  | ended _ => exact Nat.zero_le _
  | token hs _ ih =>
    have hlen := congrArg List.length hs.rest
    have hpos := hs.sound.length_pos
    rw [List.length_append] at hlen
    rw [List.length_cons]
    omega

theorem position_eq (h : Cuts l ss trail) :
    ∀ done s others, ss = done ++ s :: others →
      s.token.position = l.position.advance (done.flatMap Stretch.text ++ s.blanks) := by
  induction h with
  | ended _ =>
    intro done s others hss
    simp at hss
  | token hs _ ih =>
    intro done s others hss
    cases done with
    | nil =>
      cases hss
      exact hs.position
    | cons d done =>
      rw [List.cons_append, List.cons.injEq] at hss
      obtain ⟨rfl, hss⟩ := hss
      rw [ih done s others hss, hs.advance, ← Position.advance_append, List.flatMap_cons, List.append_assoc]

theorem finish_eq (hs : Takes l s) : l.next.2.position.advance l.next.2.rest = l.position.advance l.rest := by
  rw [hs.advance, ← Position.advance_append, hs.rest]

theorem run_eq (h : Cuts l ss trail) :
    ∀ fuel, l.rest.length < fuel →
      (l.run fuel).1 = ss.map Stretch.token ++ [⟨.endOfInput, "", l.position.advance l.rest⟩] := by
  induction h with
  | ended hblank =>
    intro fuel hfuel
    obtain ⟨k, rfl⟩ : ∃ k, fuel = k + 1 := ⟨fuel - 1, by omega⟩
    rw [run]
    simp [(next_ended hblank).1]
  | @token l s ss trail hs _ ih =>
    intro fuel hfuel
    obtain ⟨k, rfl⟩ : ∃ k, fuel = k + 1 := ⟨fuel - 1, by omega⟩
    have hlen := congrArg List.length hs.rest
    have hpos := hs.sound.length_pos
    rw [List.length_append] at hlen
    rw [run]
    simp only [hs.token, hs.sound.kind, if_false, ih k (by omega), finish_eq hs, List.map_cons, List.cons_append]

theorem call_eq (h : Cuts l ss trail) :
    ∀ n, l.call n = (ss.map Stretch.token)[n]?.getD ⟨.endOfInput, "", l.position.advance l.rest⟩ := by
  induction h with
  | ended hblank =>
    intro n
    simpa using call_ended n _ hblank
  | token hs _ ih =>
    intro n
    cases n with
    | zero => simpa [call] using hs.token
    | succ n =>
      rw [call, ih n, finish_eq hs]
      simp

end Cuts

end Lexer

/-- **Where tokens stand.** A text is white space and spans in turn, with white space at its end. The lexer gives one
token for each span and then the end of input, which it gives again however often it is asked. A token stands where
the first character of its span does, and all but strings and errors say just their span. -/
theorem tokenize_spans (text : String) : ∃ stretches trail,
    text.toList = stretches.flatMap Stretch.text ++ trail ∧ (∀ c ∈ trail, Text.isBlank c = true) ∧
    (∀ s ∈ stretches, s.Sound) ∧
    (∀ done s others, stretches = done ++ s :: others →
      s.token.position = .after (done.flatMap Stretch.text ++ s.blanks)) ∧
    tokenize text = stretches.map Stretch.token ++ [⟨.endOfInput, "", .after text.toList⟩] ∧
    (tokenize text).length ≤ text.length + 1 ∧
    (∀ fuel > text.length, ((Lexer.ofText text).run fuel).1 = tokenize text) ∧
    ∀ n, (Lexer.ofText text).call n =
      (stretches.map Stretch.token)[n]?.getD ⟨.endOfInput, "", .after text.toList⟩ := by
  obtain ⟨stretches, trail, h⟩ := Lexer.exists_cuts _ (Lexer.ofText text) (le_refl _)
  have hlen : (Lexer.ofText text).rest.length = text.length := String.length_toList
  have hend : (Lexer.ofText text).position.advance (Lexer.ofText text).rest = .after text.toList :=
    Position.advance_start _
  have hrun := h.run_eq
  rw [hlen, hend] at hrun
  have htokens : tokenize text = stretches.map Stretch.token ++ [⟨.endOfInput, "", .after text.toList⟩] :=
    hrun _ (by rw [hlen]; omega)
  refine ⟨stretches, trail, h.text_eq, h.trail_blank, h.sound, ?_, htokens, ?_, ?_, ?_⟩
  · intro done s others hss
    rw [h.position_eq done s others hss]
    exact Position.advance_start _
  · have hle := h.length_le
    rw [htokens, List.length_append, List.length_map, List.length_singleton]
    omega
  · intro fuel hfuel
    rw [hrun fuel hfuel, htokens]
  · intro n
    rw [h.call_eq n, hend]

/-- A point without digits is an error, and the text goes on after it. -/
example : (tokenize "a\n 1.'b").map Token.position = [⟨1, 1⟩, ⟨2, 2⟩, ⟨2, 4⟩, ⟨2, 6⟩] := by
  decide +kernel

end Verdict
