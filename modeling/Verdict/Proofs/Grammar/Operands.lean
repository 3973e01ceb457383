import Verdict.Proofs.Grammar.Lists

/-!
# Operands and expressions

The parser reads the operands of the grammar, given that it reads the expressions in them (`primary_sound`,
`primary_result`). By induction on the depth that is left it reads operands of every depth, and with them expressions
(`expression_reads`).
-/

namespace Verdict.Parser

open Verdict.Stream Verdict.Grammar

/-- The words after an operand that cannot go on with it. -/
def EndsOperand (w : Word) : Prop := w.kind ≠ .dot ∧ w.kind ≠ .leftParen

/-- The words that stand after an expression in parentheses or in a list. -/
def EndsItem (w : Word) : Prop := w.kind = .comma ∨ w.kind = .rightParen ∨ w.kind = .rightBracket

theorem bareName_eq_iff {x : String} : bareName x = x ↔ ¬ IsSigned x := by
  unfold bareName IsSigned
  rw [← String.toList_inj, String.toList_ofList]
  cases h : x.toList with
  | nil => simp
  | cons c cs =>
    by_cases hc : c = '$'
    · have hle := (List.dropWhile_suffix (l := cs) fun c => decide (c = '$')).length_le
      simp only [List.head?_cons, hc, not_true, iff_false, List.dropWhile_cons, decide_true, if_true]
      intro heq
      rw [heq, List.length_cons] at hle
      omega
    · simp [hc]

theorem one_le_maxDepth : 1 ≤ maxDepth := by decide

section operands

variable {p : Parser Expr} {P : Phrase Expr} {stop : Word → Prop}

theorem parenthesized_sound (hp : Reads p P stop) {s s' : Stream} {e : Expr} (hs : s.Proper)
    (hk : s.current.kind = .leftParen) (h : parenthesized p s = .ok (e, s')) :
    ∃ ws, Passes s ws s' ∧ Primary P ws e ∧ e.height ≤ maxDepth := by
  unfold parenthesized at h
  obtain ⟨m, hadv, h⟩ := bind_eq_ok.mp h
  have hm := passes_of_advance hs (by rw [hk]; decide) hadv
  have hmp := hm.proper hs
  split at h
  · next hkm =>
    obtain ⟨n, hadv', h⟩ := bind_eq_ok.mp h
    obtain ⟨e, he, h⟩ := bind_eq_ok.mp h
    obtain ⟨rfl, hh⟩ := bounded_eq_ok.mp he
    cases h
    exact ⟨_, hm.trans (passes_of_advance hmp (by rw [hkm]; decide) hadv'), .unit hk hkm, hh⟩
  · obtain ⟨⟨e₁, n⟩, he, h⟩ := bind_eq_ok.mp h
    obtain ⟨ws, hw, hP, hh⟩ := hp.sound hmp he
    have hnp := hw.proper hmp
    dsimp only at h
    split at h
    · next hkn =>
      obtain ⟨n₁, hadv', h⟩ := bind_eq_ok.mp h
      have hn₁ := passes_of_advance hnp (by rw [hkn]; decide) hadv'
      obtain ⟨⟨es, n₂⟩, hes, h⟩ := bind_eq_ok.mp h
      obtain ⟨vs, c, hv, hc, hi, -⟩ := items_sound hp (by decide) (hn₁.proper hnp) hes
      obtain ⟨b, hb, h⟩ := bind_eq_ok.mp h
      obtain ⟨rfl, hbh⟩ := bounded_eq_ok.mp hb
      cases h
      refine ⟨s.current.word :: ws ++ n.current.word :: vs ++ [c], ?_, .tuple hk hP hkn hi hc, hbh⟩
      simpa using hm.trans (hw.trans (hn₁.trans hv))
    · obtain ⟨⟨t, n₁⟩, hexp, h⟩ := bind_eq_ok.mp h
      obtain ⟨hkn, -, hadv'⟩ := expect_eq_ok.mp hexp
      cases h
      refine ⟨s.current.word :: ws ++ [n.current.word], ?_, .group hk hP hkn, hh⟩
      simpa using hm.trans (hw.trans (passes_of_advance hnp (by rw [hkn]; decide) hadv'))

theorem bracketed_sound (hp : Reads p P stop) {s s' : Stream} {e : Expr} (hs : s.Proper)
    (hk : s.current.kind = .leftBracket) (h : bracketed p s = .ok (e, s')) :
    ∃ ws, Passes s ws s' ∧ Primary P ws e ∧ e.height ≤ maxDepth := by
  obtain ⟨m, hadv, h⟩ := bind_eq_ok.mp h
  have hm := passes_of_advance hs (by rw [hk]; decide) hadv
  obtain ⟨⟨es, n⟩, hes, h⟩ := bind_eq_ok.mp h
  obtain ⟨ws, c, hw, hc, hi, -⟩ := items_sound hp (by decide) (hm.proper hs) hes
  obtain ⟨b, hb, h⟩ := bind_eq_ok.mp h
  obtain ⟨rfl, hbh⟩ := bounded_eq_ok.mp hb
  cases h
  exact ⟨_, hm.trans hw, .bracket hk hi hc, hbh⟩

theorem named_sound (hp : Reads p P stop) {s s' : Stream} {e : Expr} (hs : s.Proper)
    (hk : s.current.kind = .identifier) (h : named p s = .ok (e, s')) :
    ∃ ws, Passes s ws s' ∧ Primary P ws e ∧ e.height ≤ maxDepth := by
  obtain ⟨m, hadv, h⟩ := bind_eq_ok.mp h
  have hm := passes_of_advance hs (by rw [hk]; decide) hadv
  have hmp := hm.proper hs
  rw [show s.current.word = name s.current.text from congrArg (Word.mk · _) hk] at hm
  dsimp only at h
  split at h
  · cases h
  · next hne =>
    split at h
    · next hcall =>
      obtain ⟨n, hadv', h⟩ := bind_eq_ok.mp h
      have hn := passes_of_advance hmp (by rw [hcall.2]; decide) hadv'
      obtain ⟨⟨es, n'⟩, hes, h⟩ := bind_eq_ok.mp h
      obtain ⟨ws, c, hw, hc, hi, -⟩ := items_sound hp (by decide) (hn.proper hmp) hes
      obtain ⟨b, hb, h⟩ := bind_eq_ok.mp h
      obtain ⟨rfl, hbh⟩ := bounded_eq_ok.mp hb
      cases h
      refine ⟨name s.current.text :: m.current.word :: ws ++ [c], hm.trans (hn.trans hw), ?_, hbh⟩
      rw [hcall.1]
      exact .call (bareName_eq_iff.mp hcall.1) hcall.2 hi hc
    · obtain ⟨⟨fs, n⟩, hfs, h⟩ := bind_eq_ok.mp h
      obtain ⟨ws, hw, hpath⟩ := path_sound _ hmp hfs
      cases h
      exact ⟨name s.current.text :: ws, hm.trans hw, .reference hne hpath, one_le_maxDepth⟩

theorem literal_sound {v : Value} {s s' : Stream} {e : Expr} {w : Word} (hs : s.Proper) (hw : s.current.word = w)
    (hk : w.kind ≠ .endOfInput) (h : literal v s = .ok (e, s')) :
    Passes s [w] s' ∧ e = .literal v ∧ e.height ≤ maxDepth := by
  subst hw
  obtain ⟨m, hadv, h⟩ := bind_eq_ok.mp h
  cases h
  exact ⟨passes_of_advance hs hk hadv, rfl, one_le_maxDepth⟩

theorem number_sound {s s' : Stream} {e : Expr} (hs : s.Proper) (hk : s.current.kind = .number)
    (h : number s = .ok (e, s')) : ∃ ws, Passes s ws s' ∧ Primary P ws e ∧ e.height ≤ maxDepth := by
  obtain ⟨m, hadv, h⟩ := bind_eq_ok.mp h
  have hm := passes_of_advance hs (by rw [hk]; decide) hadv
  rw [show s.current.word = ⟨.number, s.current.text⟩ from congrArg (Word.mk · _) hk] at hm
  cases hv : numberValue? s.current.text.toList with
  | none => simp only [hv] at h; cases h
  | some v =>
    simp only [hv] at h
    cases h
    exact ⟨_, hm, .number hv, one_le_maxDepth⟩

theorem primary_sound (hp : Reads p P stop) {s s' : Stream} {e : Expr} (hs : s.Proper)
    (h : primary p s = .ok (e, s')) : ∃ ws, Passes s ws s' ∧ Primary P ws e ∧ e.height ≤ maxDepth := by
  have hword : ∀ k, s.current.kind = k → s.current.word = ⟨k, s.current.text⟩ := fun k hk =>
    congrArg (Word.mk · _) hk
  unfold primary at h
  split at h
  · next hk => exact parenthesized_sound hp hs hk h
  · next hk => exact bracketed_sound hp hs hk h
  · next hk =>
    obtain ⟨hw, rfl, hh⟩ := literal_sound hs (hword _ hk) (by simp) h
    exact ⟨_, hw, .string, hh⟩
  · next hk => exact number_sound hs hk h
  · next hk => exact named_sound hp hs hk h
  · next hk =>
    split at h
    · next ht =>
      obtain ⟨hw, rfl, hh⟩ := literal_sound hs (hword _ hk) (by simp) h
      exact ⟨_, ht ▸ hw, .true, hh⟩
    · split at h
      · next ht =>
        obtain ⟨hw, rfl, hh⟩ := literal_sound hs (hword _ hk) (by simp) h
        exact ⟨_, ht ▸ hw, .false, hh⟩
      · cases h
  · cases h

theorem items_result (hp : Reads p P stop) (ho : Opens P) (hstop : ∀ w, EndsItem w → stop w) {close : TokenKind}
    {closeName : String} (hclose : close = .rightParen ∨ close = .rightBracket) {ws : List Word} {es : List Expr}
    (hi : Items P ws es) {s s' : Stream} {c : Word} (hs : s.Proper) (hw : Passes s (ws ++ [c]) s')
    (hc : c.kind = close) : items close closeName p s = within (Expr.heightOfAll es) (es, s') := by
  refine itemsUpTo_result hp ho hclose (fun w hw => hstop w ?_) hi _ hs hw hc (Nat.lt_succ_self _)
  rcases hw with hw | hw
  · exact .inl hw
  · rcases hclose with rfl | rfl
    · exact .inr (.inl hw)
    · exact .inr (.inr hw)

theorem parenthesized_unit {s s' : Stream} {l r : Word} (hw : Passes s [l, r] s') (hr : r.kind = .rightParen) :
    parenthesized p s = .ok (.list [], s') := by
  obtain ⟨m, hadv, -, hm⟩ := hw.advance
  have hkm : m.current.kind = .rightParen := hm.kind.trans hr
  obtain ⟨n, hadv', -, hn⟩ := hm.advance
  cases hn
  unfold parenthesized
  dsimp only
  rw [hadv]
  show (if m.current.kind = .rightParen then _ else _) = _
  rw [if_pos hkm, hadv']
  rfl

/-- What stands after the parenthesis is no list without items, since an expression begins there. -/
theorem Opens.current_ne (ho : Opens P) {s s' : Stream} {ws vs : List Word} {e : Expr} (he : P ws e)
    (hw : Passes s (ws ++ vs) s') : s.current.kind ≠ .rightParen := by
  obtain ⟨w, ws, rfl, h, -⟩ := ho _ _ he
  rwa [hw.kind]

theorem parenthesized_group (hp : Reads p P stop) (ho : Opens P) (hstop : ∀ w, EndsItem w → stop w)
    {s s' : Stream} {l r : Word} {ws : List Word} {e : Expr} (hs : s.Proper) (hw : Passes s (l :: ws ++ [r]) s')
    (he : P ws e) (hr : r.kind = .rightParen) : parenthesized p s = within e.height (e, s') := by
  obtain ⟨m, hadv, hm, hm'⟩ := hw.advance
  have hkm := Opens.current_ne ho he hm'
  obtain ⟨n, hn, hn'⟩ := hm'.split
  have hkn : n.current.kind = .rightParen := hn'.kind.trans hr
  obtain ⟨n', hadv', -, hn''⟩ := hn'.advance
  cases hn''
  unfold parenthesized
  dsimp only
  rw [hadv]
  show (if m.current.kind = .rightParen then _ else _) = _
  rw [if_neg hkm, hp.result (hm.proper hs) hn he (hstop _ (.inr (.inl hkn)))]
  refine within_bind (fun hh => ?_) (within_tall (le_refl _))
  show (if n.current.kind = .comma then _ else _) = _
  rw [if_neg (by rw [hkn]; decide), expect_eq_ok.mpr ⟨hkn, rfl, hadv'⟩, within_of_le hh]
  rfl

theorem parenthesized_tuple (hp : Reads p P stop) (ho : Opens P) (hstop : ∀ w, EndsItem w → stop w)
    {s s' : Stream} {l c r : Word} {ws vs : List Word} {e : Expr} {es : List Expr} (hs : s.Proper)
    (hw : Passes s (l :: ws ++ c :: vs ++ [r]) s') (he : P ws e) (hc : c.kind = .comma) (hi : Items P vs es)
    (hr : r.kind = .rightParen) :
    parenthesized p s = within (Expr.list (e :: es)).height (.list (e :: es), s') := by
  rw [List.append_assoc, List.cons_append, List.cons_append] at hw
  obtain ⟨m, hadv, hm, hm'⟩ := hw.advance
  have hkm := Opens.current_ne ho he hm'
  obtain ⟨n, hn, hn'⟩ := hm'.split
  have hkn : n.current.kind = .comma := hn'.kind.trans hc
  obtain ⟨n₁, hadv', hn₁, hn₁'⟩ := hn'.advance
  have hmp := hm.proper hs
  have hheight : (Expr.list (e :: es)).height = max e.height (Expr.heightOfAll es) + 1 := by
    rw [Expr.height, Expr.heightOfAll]
  unfold parenthesized
  dsimp only
  rw [hadv]
  show (if m.current.kind = .rightParen then _ else _) = _
  rw [if_neg hkm, hp.result hmp hn he (hstop _ (.inl hkn))]
  refine within_bind (fun _ => ?_) (within_tall (by omega))
  show (if n.current.kind = .comma then _ else _) = _
  rw [if_pos hkn, hadv']
  show (items .rightParen "')'" p n₁ >>= _) = _
  rw [items_result hp ho hstop (.inl rfl) hi (hn₁.proper (hn.proper hmp)) hn₁' hr]
  exact within_bind (fun _ => bounded_bind _ (·, s')) (within_tall (by omega))

theorem bracketed_result (hp : Reads p P stop) (ho : Opens P) (hstop : ∀ w, EndsItem w → stop w)
    {s s' : Stream} {l r : Word} {ws : List Word} {es : List Expr} (hs : s.Proper)
    (hw : Passes s (l :: ws ++ [r]) s') (hi : Items P ws es) (hr : r.kind = .rightBracket) :
    bracketed p s = within (Expr.list es).height (.list es, s') := by
  obtain ⟨m, hadv, hm, hm'⟩ := hw.advance
  unfold bracketed
  dsimp only
  rw [hadv]
  show (items .rightBracket "']'" p m >>= _) = _
  rw [items_result hp ho hstop (.inr rfl) hi (hm.proper hs) hm' hr]
  exact within_bind (fun _ => bounded_bind _ (·, s')) (within_tall (by rw [Expr.height]; omega))

theorem number_complete {s s' : Stream} {x : String} {v : Value} (hw : Passes s [⟨.number, x⟩] s')
    (hv : numberValue? x.toList = some v) : number s = .ok (.literal v, s') := by
  obtain ⟨m, hadv, -, hm⟩ := hw.advance
  cases hm
  unfold number
  dsimp only
  rw [hadv, show s.current.text = x from hw.text]
  simp only [hv]
  rfl

theorem named_call (hp : Reads p P stop) (ho : Opens P) (hstop : ∀ w, EndsItem w → stop w) {s s' : Stream}
    {f : String} {l r : Word} {ws : List Word} {es : List Expr} (hs : s.Proper)
    (hw : Passes s (name f :: l :: ws ++ [r]) s') (hf : ¬ IsSigned f) (hl : l.kind = .leftParen) (hi : Items P ws es)
    (hr : r.kind = .rightParen) : named p s = within (Expr.call f es).height (.call f es, s') := by
  have hgen := hs.current_genuine
  have htext : s.current.text = f := hw.text
  obtain ⟨m, hadv, hm, hm'⟩ := hw.advance
  have hkm : m.current.kind = .leftParen := hm'.kind.trans hl
  obtain ⟨n, hadv', hn, hn'⟩ := hm'.advance
  have hne : f ≠ "" := by
    rw [hw.current] at hgen
    obtain ⟨c, cs, hcs, -⟩ := hgen
    rintro rfl
    cases hcs
  unfold named
  dsimp only
  rw [hadv, htext, bareName_eq_iff.mpr hf]
  show (if f = "" then _ else if f = f ∧ m.current.kind = .leftParen then _ else _) = _
  rw [if_neg hne, if_pos ⟨rfl, hkm⟩, hadv']
  show (items .rightParen "')'" p n >>= _) = _
  rw [items_result hp ho hstop (.inl rfl) hi (hn.proper (hm.proper hs)) hn' hr]
  exact within_bind (fun _ => bounded_bind _ (·, s')) (within_tall (by rw [Expr.height]; omega))

theorem named_reference {s s' : Stream} {x : String} {ws : List Word} {fs : List String} (hs : s.Proper)
    (hw : Passes s (name x :: ws) s') (hx : bareName x ≠ "") (hpath : Path ws fs)
    (hend : EndsOperand s'.current.word) : named p s = .ok (.variable (bareName x) fs, s') := by
  have htext : s.current.text = x := hw.text
  obtain ⟨m, hadv, hm, hm'⟩ := hw.advance
  -- A point cannot be taken for the parenthesis of a call, and neither can what ends the operand.
  have hkm : m.current.kind ≠ .leftParen := by
    cases hpath with
    | none =>
      cases hm'
      exact hend.2
    | field hd _ =>
      rw [show m.current.kind = _ from hm'.kind.trans hd]
      decide
  unfold named
  dsimp only
  rw [hadv, htext]
  show (if bareName x = "" then _ else if bareName x = x ∧ m.current.kind = .leftParen then _ else _) = _
  rw [if_neg hx, if_neg fun h => hkm h.2]
  show (path m.rest.length m >>= _) = _
  rw [path_complete hpath _ (hm.proper hs) hm' hend.1 (le_refl _)]
  rfl

theorem literal_complete {s s' : Stream} {w : Word} (hw : Passes s [w] s') (v : Value) :
    literal v s = .ok (.literal v, s') := by
  obtain ⟨m, hadv, -, hm⟩ := hw.advance
  cases hm
  exact bind_eq_ok.mpr ⟨_, hadv, rfl⟩

theorem within_leaf {e : Expr} (hh : e.height = 1) (s : Stream) : within e.height (e, s) = .ok (e, s) :=
  within_of_le (by rw [hh]; decide)

theorem primary_result (hp : Reads p P stop) (ho : Opens P) (hstop : ∀ w, EndsItem w → stop w) {s s' : Stream}
    {ws : List Word} {e : Expr} (hs : s.Proper) (hw : Passes s ws s') (hP : Primary P ws e)
    (hend : EndsOperand s'.current.word) : primary p s = within e.height (e, s') := by
  unfold primary
  cases hP with
  | unit hl hr =>
    rw [hw.kind, hl]
    exact parenthesized_unit hw hr
  | group hl he hr =>
    rw [hw.kind, hl]
    exact parenthesized_group hp ho hstop hs hw he hr
  | tuple hl he hc hi hr =>
    rw [hw.kind, hl]
    exact parenthesized_tuple hp ho hstop hs hw he hc hi hr
  | bracket hl hi hr =>
    rw [hw.kind, hl]
    exact bracketed_result hp ho hstop hs hw hi hr
  | string =>
    rw [hw.kind, hw.text, within_leaf rfl]
    exact literal_complete hw _
  | number hv =>
    rw [hw.kind, within_leaf rfl]
    exact number_complete hw hv
  | true | false =>
    rw [hw.kind, hw.text, within_leaf rfl]
    exact literal_complete hw _
  | call hf hl hi hr =>
    rw [hw.kind]
    exact named_call hp ho hstop hs hw hf hl hi hr
  | reference hx hpath =>
    rw [hw.kind, within_leaf rfl]
    exact named_reference hs hw hx hpath hend

end operands

/-! ## Every depth -/

/-- The words that no operand and no operator begins to go on with. -/
def StopsExpression (w : Word) : Prop := w.kind ∉ [.dot, .leftParen, .operator, .identifier, .keyword]

theorem StopsExpression.operand {w : Word} (h : StopsExpression w) : EndsOperand w := by
  simp only [StopsExpression, List.mem_cons, not_or] at h
  exact ⟨h.1, h.2.1⟩

theorem StopsExpression.not_operator {w : Word} (h : StopsExpression w) {operators : Operators}
    (ho : ∀ x ∈ operators, x.1.kind = .operator ∨ x.1.kind = .identifier ∨ x.1.kind = .keyword) :
    ∀ op, (w, op) ∉ operators := by
  intro op hmem
  have hw := ho _ hmem
  simp only [StopsExpression, List.mem_cons, not_or] at h
  simp [h] at hw

/-- The words that stand after an expression. -/
def EndsExpression (w : Word) : Prop := EndsItem w ∨ w.kind = .endOfInput

theorem EndsExpression.stops {w : Word} (h : EndsExpression w) : StopsExpression w := by
  unfold StopsExpression
  rcases h with (h | h | h) | h <;> rw [h] <;> decide

/-- The words after a sum that cannot go on with it. -/
def EndsSum (w : Word) : Prop := (EndsOperand w ∧ ∀ op, (w, op) ∉ products) ∧ ∀ op, (w, op) ∉ sums

theorem StopsExpression.endsSum {w : Word} (h : StopsExpression w) : EndsSum w :=
  ⟨⟨h.operand, h.not_operator (by decide)⟩, h.not_operator (by decide)⟩

theorem Reads.sumOf {p : Parser Expr} {P : Phrase Expr} (hp : Reads p P EndsOperand) :
    Reads (Parser.chain sumOp? (Parser.chain productOp? p)) (SumOf P) EndsSum := by
  have hproduct := hp.chain products_found (by simp [products, sign, EndsOperand])
  exact hproduct.chain sums_found (by simp [products, sums, sign, EndsOperand])

/-- No two levels share an operator, so a level stops where an operator of another level stands. -/
theorem Reads.levels {p : Parser Expr} {P : Phrase Expr} (hp : Reads p P EndsOperand) :
    Reads (Parser.expressionOf p) (ExpressionOf P) StopsExpression := by
  have hcomparison := hp.sumOf.single comparisons_found
    (by simp [products, sums, comparisons, sign, name, keyword, EndsOperand, EndsSum])
  have hconjunction := hcomparison.chain conjunctions_found
    (by simp [products, sums, comparisons, conjunctions, sign, name, keyword, EndsOperand, EndsSum])
  have hexpression := hconjunction.chain disjunctions_found
    (by simp [products, sums, comparisons, conjunctions, disjunctions, sign, name, keyword, EndsOperand, EndsSum])
  refine hexpression.weaken fun w hw => ?_
  exact ⟨⟨⟨hw.endsSum, hw.not_operator (by decide)⟩, hw.not_operator (by decide)⟩, hw.not_operator (by decide)⟩

theorem Reads.expressionOf {p : Parser Expr} {P : Phrase Expr} (hp : Reads p P EndsOperand) :
    Reads (Parser.expressionOf p) (ExpressionOf P) EndsExpression :=
  hp.levels.weaken fun _ hw => hw.stops

theorem is_notSymbol_iff {s : Stream} : s.current.is .operator notSymbol = true ↔ s.current.word = sign notSymbol :=
  is_iff _ _ _

/-- The parser reads the operands of each depth: one more depth is one more negation, or an expression of operands of
the depth before. -/
theorem operand_reads : ∀ n : Nat, Reads (operand n) (Operand n) EndsOperand
  | 0 => ⟨fun _ h => (by cases h), fun _ _ h => h.elim⟩
  | n + 1 => by
    have ih := operand_reads n
    have hexpression := ih.expressionOf
    constructor
    · intro s s' e hs h
      rw [operand_succ, operandWith] at h
      split at h
      · next hnot =>
        rw [is_notSymbol_iff] at hnot
        obtain ⟨m, hadv, h⟩ := bind_eq_ok.mp h
        have hkind : s.current.kind = .operator := congrArg Word.kind hnot
        have hm := passes_of_advance hs (by rw [hkind]; decide) hadv
        obtain ⟨⟨e', n'⟩, he, h⟩ := bind_eq_ok.mp h
        obtain ⟨ws, hw, hP, -⟩ := ih.sound (hm.proper hs) he
        obtain ⟨b, hb, h⟩ := bind_eq_ok.mp h
        obtain ⟨rfl, hbh⟩ := bounded_eq_ok.mp hb
        cases h
        exact ⟨_, hm.trans hw, hnot ▸ .not hP, hbh⟩
      · obtain ⟨ws, hw, hP, hh⟩ := primary_sound hexpression hs h
        exact ⟨ws, hw, .primary hP, hh⟩
    · intro s s' ws e hs hw hP hend
      rw [operand_succ, operandWith]
      cases hP with
      | @not ws e he =>
        rw [if_pos (is_notSymbol_iff.mpr hw.current)]
        obtain ⟨m, hadv, hm, hm'⟩ := hw.advance
        rw [hadv]
        show (operand n m >>= _) = _
        rw [ih.result (hm.proper hs) hm' he hend]
        exact within_bind (fun _ => bounded_bind _ (·, s')) (within_tall (by rw [Expr.height]; omega))
      | primary hp =>
        rw [if_neg]
        · exact primary_result hexpression (ExpressionOf.opens (Operand.opens n)) (fun w hw => .inl hw) hs hw hp hend
        · intro hnot
          rw [is_notSymbol_iff] at hnot
          obtain ⟨w, vs, rfl, -, -, hsign⟩ := hp.head
          exact hsign (hw.current ▸ congrArg Word.kind hnot)

theorem expression_reads : Reads expression (Expression maxDepth) EndsExpression :=
  (operand_reads maxDepth).expressionOf

end Verdict.Parser
