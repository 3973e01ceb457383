import Verdict.Proofs.Token.Joining
import Verdict.Proofs.Token.Spans

/-!
# White space between tokens

How much white space stands between two tokens does not matter, and of what kind it is, only whether there is any: a text
that is made of the spans of another one, apart where they were apart and side by side where they were so, has the same
words (`words_respaced`). The lexer looks at one character behind a token to see where it ends, and white space
there is as good as the end of the text; a string that is not closed goes on to the end of the text in any case.
-/

namespace Verdict

/-- There is nothing but white space in the text. -/
abbrev AllBlank (text : List Char) : Prop := ∀ c ∈ text, Text.isBlank c = true

namespace Lexeme

/-! ## What stands behind a token -/

/-- A test that no white space passes. -/
def SeesNoBlank (p : Char → Bool) : Prop := ∀ c, Text.isBlank c = true → p c = false

/-- No token ends in front of the one text and goes on into the other: a test that no white space passes cannot tell how
they begin, and where the first text is at its end the other one has nothing but white space. -/
structure Alike (rest rest' : List Char) : Prop where
  start : ∀ p, SeesNoBlank p → rest'.head?.any p = rest.head?.any p
  ended : rest = [] → AllBlank rest'

theorem any_of_allBlank {text : List Char} (h : AllBlank text) {p : Char → Bool} (hp : SeesNoBlank p) :
    text.head?.any p = false := by
  cases text with
  | nil => rfl
  | cons c cs => exact hp c (h c List.mem_cons_self)

theorem alike_of_allBlank {rest rest' : List Char} (h : AllBlank rest) (h' : AllBlank rest') : Alike rest rest' where
  start := fun _ hp => (any_of_allBlank h' hp).trans (any_of_allBlank h hp).symm
  ended := fun _ => h'

theorem alike_of_blanks {gap gap' : List Char} (h : AllBlank gap) (h' : AllBlank gap') (hne : gap ≠ []) (hne' : gap' ≠ [])
    (text text' : List Char) : Alike (gap ++ text) (gap' ++ text') := by
  obtain ⟨c, gap, rfl⟩ := List.exists_cons_of_ne_nil hne
  obtain ⟨d, gap', rfl⟩ := List.exists_cons_of_ne_nil hne'
  refine ⟨fun p hp => ?_, fun hnil => absurd hnil (by simp)⟩
  exact (hp d (h' d List.mem_cons_self)).trans (hp c (h c List.mem_cons_self)).symm

theorem alike_of_span {span : List Char} (hne : span ≠ []) (text text' : List Char) :
    Alike (span ++ text) (span ++ text') := by
  obtain ⟨c, span, rfl⟩ := List.exists_cons_of_ne_nil hne
  exact ⟨fun _ _ => rfl, fun hnil => absurd hnil (by simp)⟩

theorem any_dropWhile (p : Char → Bool) (cs : List Char) : (cs.dropWhile p).head?.any p = false := by
  have hnot := List.head?_dropWhile_not p cs
  cases hhead : (cs.dropWhile p).head? with
  | none => rfl
  | some c => simpa [hhead] using hnot

theorem continuesWord_seesNoBlank : SeesNoBlank continuesWord := fun _ hc => (apart_blank hc []).word

theorem isDigit_seesNoBlank : SeesNoBlank Decimal.isDigit := fun _ hc => (apart_blank hc []).digit

theorem eq_seesNoBlank {d : Char} (hd : Text.isBlank d = false) : SeesNoBlank (· = d) := by
  intro c hc
  rw [decide_eq_false_iff_not]
  rintro rfl
  exact absurd hc (by rw [hd]; decide)

/-! ## One token -/

variable {c second quote : Char} {cs rest rest' : List Char}

/-- Cut off a text that goes on with something alike behind the span, the token says the same, and what is left of the
text has the words that stand there. -/
def Steady (c : Char) (f : List Char → Lexeme) (cs : List Char) : Prop :=
  ∀ rest', Alike (f cs).rest rest' → ∃ ds, c :: ds = (f cs).span ++ rest' ∧ (f ds).toWord = (f cs).toWord ∧
    ∀ a, Lexer.scan a (f ds).rest = Lexer.scan a rest'

theorem steady_of_eq {f : List Char → Lexeme} (h : ∀ rest', Alike (f cs).rest rest' →
    ∃ ds, c :: ds = (f cs).span ++ rest' ∧ f ds = { f cs with rest := rest' }) : Steady c f cs := by
  intro rest' halike
  obtain ⟨ds, hds, heq⟩ := h rest' halike
  refine ⟨ds, hds, ?_, fun a => ?_⟩
  · rw [heq]
    rfl
  · rw [heq]

theorem plain_steady (kind : TokenKind) (c : Char) (cs : List Char) : Steady c (plain kind [c]) cs :=
  steady_of_eq fun rest' _ => ⟨rest', rfl, rfl⟩

theorem illegal_steady (c : Char) (cs : List Char) : Steady c (illegal c) cs :=
  steady_of_eq fun rest' _ => ⟨rest', rfl, rfl⟩

theorem oneOrTwo_of_head (h : cs.head?.any (· = second) = false) : oneOrTwo c second cs = operator [c] cs := by
  cases cs with
  | nil => rfl
  | cons d cs => exact if_neg (of_decide_eq_false h)

theorem oneOrTwo_steady (hsecond : Text.isBlank second = false) (c : Char) (cs : List Char) :
    Steady c (oneOrTwo c second) cs := by
  refine steady_of_eq fun rest' halike => ?_
  cases hhead : cs.head?.any (· = second) with
  | false =>
    rw [oneOrTwo_of_head hhead] at halike ⊢
    have hhead' := (halike.start _ (eq_seesNoBlank hsecond)).trans hhead
    exact ⟨rest', rfl, oneOrTwo_of_head hhead'⟩
  | true =>
    cases cs with
    | nil => cases hhead
    | cons d cs =>
      obtain rfl : d = second := of_decide_eq_true hhead
      have htwo (rest : List Char) : oneOrTwo c d (d :: rest) = operator [c, d] rest := if_pos rfl
      exact ⟨d :: rest', by rw [htwo]; rfl, by rw [htwo, htwo]; rfl⟩

theorem twice_of_head (h : cs.head?.any (· = c) = false) : twice c cs = illegal c cs := by
  cases cs with
  | nil => rfl
  | cons d cs => exact if_neg (of_decide_eq_false h)

theorem twice_steady (hc : Text.isBlank c = false) (cs : List Char) : Steady c (twice c) cs := by
  refine steady_of_eq fun rest' halike => ?_
  cases hhead : cs.head?.any (· = c) with
  | false =>
    rw [twice_of_head hhead] at halike ⊢
    have hhead' := (halike.start _ (eq_seesNoBlank hc)).trans hhead
    exact ⟨rest', rfl, twice_of_head hhead'⟩
  | true =>
    cases cs with
    | nil => cases hhead
    | cons d cs =>
      obtain rfl : d = c := of_decide_eq_true hhead
      have htwice (rest : List Char) : twice d (d :: rest) = operator [d, d] rest := if_pos rfl
      exact ⟨d :: rest', by rw [htwice]; rfl, by rw [htwice, htwice]; rfl⟩

theorem word_steady (c : Char) (cs : List Char) : Steady c (word c) cs := by
  refine steady_of_eq fun rest' halike => ?_
  have hstop := (halike.start _ continuesWord_seesNoBlank).trans (any_dropWhile continuesWord cs)
  refine ⟨cs.takeWhile continuesWord ++ rest', rfl, ?_⟩
  exact word_run _ (fun d hd => List.mem_takeWhile_imp hd) hstop

theorem number_point_stop {ds : List Char} (hds : ∀ d ∈ ds, Decimal.isDigit d = true)
    (hrest : rest.head?.any Decimal.isDigit = false) : number c (ds ++ '.' :: rest) =
      ⟨.error, "invalid number literal '".toList ++ (c :: ds ++ ['.']) ++ ['\''], c :: ds ++ ['.'], rest⟩ := by
  have hnone : rest.takeWhile Decimal.isDigit = [] := takeWhile_run (List.forall_mem_nil _) hrest
  unfold number
  rw [takeWhile_run hds (by rfl), dropWhile_run hds (by rfl)]
  simp only [hnone, List.isEmpty_nil, if_true]

theorem any_eq_false_iff {d : Char} : cs.head?.any (· = d) = false ↔ cs.head? ≠ some d := by
  cases cs with
  | nil => simp
  | cons c cs => simp

/-- The shapes of a text in which digits stand first: no point behind them, a point without digits, or a point and
digits. -/
theorem digits_cases (cs : List Char) : ∃ ds, (∀ d ∈ ds, Decimal.isDigit d = true) ∧
    ((∃ tail, cs = ds ++ tail ∧ tail.head?.any Decimal.isDigit = false ∧ tail.head?.any (· = '.') = false) ∨
      (∃ tail, cs = ds ++ '.' :: tail ∧ tail.head?.any Decimal.isDigit = false) ∨
      ∃ fraction tail, cs = ds ++ '.' :: (fraction ++ tail) ∧ Word.IsDigits fraction ∧
        tail.head?.any Decimal.isDigit = false) := by
  have hcs : cs.takeWhile Decimal.isDigit ++ cs.dropWhile Decimal.isDigit = cs := List.takeWhile_append_dropWhile
  have hstop := any_dropWhile Decimal.isDigit cs
  refine ⟨cs.takeWhile Decimal.isDigit, fun d hd => List.mem_takeWhile_imp hd, ?_⟩
  cases hdot : (cs.dropWhile Decimal.isDigit).head?.any (· = '.') with
  | false => exact .inl ⟨_, hcs.symm, hstop, hdot⟩
  | true =>
    right
    obtain ⟨tail, htail⟩ : ∃ tail, cs.dropWhile Decimal.isDigit = '.' :: tail := by
      cases htail : cs.dropWhile Decimal.isDigit with
      | nil => simp [htail] at hdot
      | cons d tail =>
        rw [htail] at hdot
        exact ⟨tail, by rw [show d = '.' from of_decide_eq_true hdot]⟩
    rw [htail] at hcs
    by_cases hfraction : beforeDigit tail = true
    · have hsplit : tail.takeWhile Decimal.isDigit ++ tail.dropWhile Decimal.isDigit = tail :=
        List.takeWhile_append_dropWhile
      refine .inr ⟨_, _, ?_, isDigits_takeWhile hfraction, any_dropWhile Decimal.isDigit tail⟩
      rw [hsplit, hcs]
    · exact .inl ⟨tail, hcs.symm, Bool.not_eq_true _ ▸ hfraction⟩

theorem number_steady (c : Char) (cs : List Char) : Steady c (number c) cs := by
  refine steady_of_eq fun rest' halike => ?_
  obtain ⟨ds, hds, ⟨tail, rfl, hstop, hdot⟩ | ⟨tail, rfl, hstop⟩ | ⟨fraction, tail, rfl, hfraction, hstop⟩⟩ :=
    digits_cases cs
  · rw [number_whole_run hds hstop (any_eq_false_iff.mp hdot)] at halike ⊢
    have hstop' := (halike.start _ isDigit_seesNoBlank).trans hstop
    have hdot' := (halike.start _ (eq_seesNoBlank (by decide))).trans hdot
    exact ⟨ds ++ rest', rfl, number_whole_run hds hstop' (any_eq_false_iff.mp hdot')⟩
  · rw [number_point_stop hds hstop] at halike ⊢
    have hstop' := (halike.start _ isDigit_seesNoBlank).trans hstop
    exact ⟨ds ++ '.' :: rest', by simp, number_point_stop hds hstop'⟩
  · rw [number_point_run hds hfraction hstop] at halike ⊢
    have hstop' := (halike.start _ isDigit_seesNoBlank).trans hstop
    exact ⟨ds ++ '.' :: (fraction ++ rest'), by simp [plain], number_point_run hds hfraction hstop'⟩

/-! ## Strings -/

theorem contents_closed (quote : Char) (cs rest' : List Char) (h : (contents quote cs).closed = true) :
    contents quote ((contents quote cs).span ++ rest') = { contents quote cs with rest := rest' } := by
  fun_induction contents quote cs with
  | case1 => cases h
  | case2 cs =>
    rw [List.singleton_append, contents.eq_def]
    simp
  | case3 => cases h
  | case4 e cs hq ih =>
    show contents quote ('\\' :: e :: ((contents quote cs).span ++ rest')) = _
    rw [contents_escaped hq, ih h]
    rfl
  | case5 c cs hq hs ih =>
    show contents quote (c :: ((contents quote cs).span ++ rest')) = _
    rw [contents_plain hq hs, ih h]
    rfl

theorem contents_open {text : List Char} (hquote : quote ∉ text) : (contents quote text).closed = false := by
  fun_induction contents quote text with
  | case1 => rfl
  | case2 cs => exact absurd List.mem_cons_self hquote
  | case3 => rfl
  | case4 e cs hq ih => exact ih fun hmem => hquote (List.mem_cons_of_mem _ (List.mem_cons_of_mem _ hmem))
  | case5 c cs hq hs ih => exact ih fun hmem => hquote (List.mem_cons_of_mem _ hmem)

theorem contents_open_append {text : List Char} (hquote : quote ∉ text) (cs : List Char)
    (h : (contents quote cs).closed = false) : (contents quote (cs ++ text)).closed = false := by
  fun_induction contents quote cs with
  | case1 => exact contents_open hquote
  | case2 cs => cases h
  | case3 hq =>
    cases text with
    | nil => rw [List.append_nil, contents.eq_def]; simp [hq]
    | cons e text =>
      show (contents quote ('\\' :: e :: text)).closed = false
      rw [contents_escaped hq]
      exact contents_open fun hmem => hquote (List.mem_cons_of_mem _ hmem)
  | case4 e cs hq ih =>
    show (contents quote ('\\' :: e :: (cs ++ text))).closed = false
    rw [contents_escaped hq]
    exact ih h
  | case5 c cs hq hs ih =>
    show (contents quote (c :: (cs ++ text))).closed = false
    rw [contents_plain hq hs]
    exact ih h

theorem contents_rest_of_open (quote : Char) (cs : List Char) (h : (contents quote cs).closed = false) :
    (contents quote cs).rest = [] := by
  fun_induction contents quote cs with
  | case1 => rfl
  | case2 cs => cases h
  | case3 => rfl
  | case4 e cs hq ih => exact ih h
  | case5 c cs hq hs ih => exact ih h

theorem string_of_open (h : (contents quote cs).closed = false) :
    string quote cs = ⟨.error, "unterminated string literal".toList, quote :: cs, []⟩ := by
  have hrest := contents_rest_of_open quote cs h
  have hspan : (contents quote cs).span = cs := by
    have hsplit := contents_split quote cs
    rwa [hrest, List.append_nil] at hsplit
  unfold string
  simp only [h, Bool.false_eq_true, if_false, hspan, hrest]

theorem string_of_closed (h : (contents quote cs).closed = true) : string quote cs =
    ⟨.string, (contents quote cs).text, quote :: (contents quote cs).span, (contents quote cs).rest⟩ := by
  unfold string
  simp only [h, if_true]

/-- A string that is not closed takes white space behind it along, and is the same error. -/
theorem string_steady (hquote : Text.isBlank quote = false) (cs : List Char) : Steady quote (string quote) cs := by
  cases hclosed : (contents quote cs).closed with
  | true =>
    refine steady_of_eq fun rest' _ => ?_
    have hsame := contents_closed quote cs rest' hclosed
    rw [string_of_closed hclosed]
    refine ⟨(contents quote cs).span ++ rest', rfl, ?_⟩
    rw [string_of_closed (by rw [hsame]; exact hclosed), hsame]
  | false =>
    intro rest' halike
    rw [string_of_open hclosed] at halike ⊢
    have hblank := halike.ended rfl
    have hnot : quote ∉ rest' := fun hmem => by simp [hblank quote hmem] at hquote
    refine ⟨cs ++ rest', rfl, ?_, fun a => ?_⟩
    · rw [string_of_open (contents_open_append hnot cs hclosed)]
      rfl
    · rw [string_of_open (contents_open_append hnot cs hclosed), Lexer.scan_nil_of_blank rfl,
        Lexer.scan_nil_of_blank (List.dropWhile_eq_nil_iff.mpr hblank)]

/-! ## Every token -/

theorem number_span (c : Char) (cs : List Char) :
    ∃ more, (number c cs).span = c :: (cs.takeWhile Decimal.isDigit ++ more) := by
  unfold number
  split
  · dsimp only
    split
    · exact ⟨_, rfl⟩
    · exact ⟨_, rfl⟩
  · exact ⟨[], by rw [List.append_nil]; rfl⟩

/-- A minus is a sign in front of the same digits only. -/
theorem minus_steady (a : Bool) (cs : List Char) :
    Steady '-' (fun cs => if !a && beforeDigit cs then number '-' cs else operator ['-'] cs) cs := by
  intro rest' halike
  by_cases hsign : (!a && beforeDigit cs) = true
  · simp only [hsign, if_true] at halike ⊢
    obtain ⟨ds, hds, hrest⟩ := number_steady '-' cs rest' halike
    have hdigit : beforeDigit ds = true := by
      obtain ⟨more, hspan⟩ := number_span '-' cs
      rw [hspan, List.cons_append, List.cons.injEq] at hds
      obtain ⟨-, rfl⟩ := hds
      have hcs : beforeDigit cs = true := (Bool.and_eq_true_iff.mp hsign).2
      cases cs with
      | nil => cases hcs
      | cons d cs =>
        have hd : Decimal.isDigit d = true := hcs
        simp [hd, beforeDigit]
    have hsign' : (!a && beforeDigit ds) = true := by rw [hdigit, (Bool.and_eq_true_iff.mp hsign).1]; rfl
    refine ⟨ds, hds, ?_⟩
    simpa only [hsign', if_true] using hrest
  · simp only [hsign] at halike ⊢
    have hsign' : ¬ (!a && beforeDigit rest') = true := by
      rwa [show beforeDigit rest' = beforeDigit cs from halike.start _ isDigit_seesNoBlank]
    refine ⟨rest', rfl, ?_⟩
    simp only [hsign']
    exact ⟨rfl, fun _ => rfl⟩

/-- **A token** does not depend on what white space follows it. -/
theorem first_steady (a : Bool) (c : Char) (cs : List Char) : Steady c (first a c) cs := by
  unfold first
  split
  case h_8 => exact minus_steady a cs
  case h_23 =>
    by_cases hdigit : Decimal.isDigit c = true
    · simp only [hdigit, if_true]
      exact number_steady c cs
    · by_cases hword : startsWord c = true
      · simp only [hdigit, hword, if_true]
        exact word_steady c cs
      · simp only [hdigit, hword]
        exact illegal_steady c cs
  all_goals first
    | exact plain_steady _ _ cs
    | exact oneOrTwo_steady (by decide) _ cs
    | exact twice_steady (by decide) cs
    | exact string_steady (by decide) cs

end Lexeme

/-! ## All tokens -/

/-- The text begins with the span of the first of some tokens and is made of their spans, with white space behind each.
Between two tokens there is some if and only if there was some. -/
inductive Respaced : List Stretch → List Char → Prop
  | ended : Respaced [] []
  | token {s row gap text} : AllBlank gap → (∀ s' ∈ row.head?, gap = [] ↔ s'.blanks = []) → Respaced row text →
      Respaced (s :: row) (s.span ++ (gap ++ text))

namespace Lexer

open Lexeme

theorem Cuts.alike {l : Lexer} {row : List Stretch} {trail gap text : List Char} (h : Cuts l row trail)
    (hgap : AllBlank gap) (hiff : ∀ s ∈ row.head?, gap = [] ↔ s.blanks = []) (hr : Respaced row text) :
    Alike l.rest (gap ++ text) := by
  cases h with
  | ended hblank =>
    cases hr
    rw [List.append_nil]
    exact alike_of_allBlank hblank hgap
  | @token _ s row _ hs _ =>
    cases hr with
    | @token _ _ gap' text hgap' hiff' hr =>
      have hiff := hiff s rfl
      rw [← hs.rest, Stretch.text, List.append_assoc]
      by_cases hnil : gap = []
      · rw [hnil, hiff.mp hnil, List.nil_append, List.nil_append]
        obtain ⟨c, cs, hspan, -⟩ := hs.sound.span
        exact alike_of_span (by simp [hspan]) _ _
      · exact alike_of_blanks hs.sound.blanks hgap (mt hiff.mpr hnil) hnil _ _

theorem Takes.first {l : Lexer} {s : Stretch} (h : Takes l s) : ∃ c cs, l.rest.dropWhile Text.isBlank = c :: cs ∧
    (Lexeme.first l.afterOperand c cs).span = s.span := by
  obtain ⟨c, cs, hspan, hc⟩ := h.sound.span
  have hdrop : l.rest.dropWhile Text.isBlank = s.span ++ l.next.2.rest := by
    rw [← h.rest, Stretch.text, List.append_assoc, hspan]
    exact dropWhile_run h.sound.blanks hc
  refine ⟨c, cs ++ l.next.2.rest, by rw [hdrop, hspan, List.cons_append], ?_⟩
  rw [hspan, List.cons_append] at hdrop
  obtain ⟨-, hrest, -⟩ := next_of_dropWhile hdrop
  have hsplit := (first_cut l.afterOperand c (cs ++ l.next.2.rest)).split
  rw [← hrest, ← List.cons_append] at hsplit
  rw [hspan]
  exact List.append_cancel_right hsplit

/-- **One token and those after it** are the same words in a text that is made of the same spans. -/
theorem scan_respaced {l : Lexer} {row : List Stretch} {trail : List Char} (h : Cuts l row trail) :
    ∀ {text : List Char}, Respaced row text → scan l.afterOperand text = scan l.afterOperand l.rest := by
  induction h with
  | ended hblank =>
    intro text hr
    cases hr
    rw [scan_nil_of_blank rfl, scan_nil_of_blank (List.dropWhile_eq_nil_iff.mpr hblank)]
  | @token l s row trail hs hcuts ih =>
    intro text hr
    cases hr with
    | @token _ _ gap text hgap hiff hr =>
      obtain ⟨c, cs, hdrop, hspan⟩ := hs.first
      obtain ⟨-, hrest, hafter⟩ := next_of_dropWhile hdrop
      have halike := hcuts.alike hgap hiff hr
      rw [hrest] at halike
      obtain ⟨ds, hds, hword, hscan⟩ := first_steady l.afterOperand c cs _ halike
      rw [hspan] at hds
      have hkind : (Lexeme.first l.afterOperand c ds).kind = (Lexeme.first l.afterOperand c cs).kind :=
        congrArg Word.kind hword
      have hblank : Text.isBlank c = false := by
        have hnot := List.head?_dropWhile_not Text.isBlank l.rest
        simpa [hdrop] using hnot
      have hdrop' : (s.span ++ (gap ++ text)).dropWhile Text.isBlank = c :: ds := by
        rw [← hds]
        simp [hblank]
      rw [scan_of_dropWhile hdrop', scan_of_dropWhile hdrop, hword, hkind, hscan, scan_blanks _ hgap, ← hafter, ih hr,
        hrest]

end Lexer

/-- **White space between tokens** does not change the words of a text, as long as there is some where there was some.
What stands in front of the first token and behind the last one is free. -/
theorem words_respaced {text text' : String} {row : List Stretch} {trail lead body : List Char}
    (h : (Lexer.ofText text).Cuts row trail) (hr : Respaced row body) (hlead : AllBlank lead)
    (htext' : text'.toList = lead ++ body) : words text' = words text := by
  rw [words, words, htext', Lexer.scan_blanks _ hlead]
  exact Lexer.scan_respaced h hr

end Verdict
