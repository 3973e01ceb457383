import Verdict.Proofs.Grammar.Reading

/-!
# Operators, lists and paths

The parser finds the operators that the grammar has on each level, no others, and it reads the lists and the paths of
the grammar. A list ends with the token that closes it, which the parser takes along.
-/

namespace Verdict.Parser

open Verdict.Stream Verdict.Grammar

/-! ## The operators -/

theorem is_iff (t : Token) (kind : TokenKind) (text : String) : t.is kind text = true ↔ t.word = ⟨kind, text⟩ := by
  simp [Token.is, Token.word]

theorem disjunctions_found : Finds orOp? disjunctions where
  iff t _ op := by
    unfold orOp? disjunctions
    split
    · next h =>
      rw [is_iff] at h
      simp [h, sign, name, eq_comm]
    · next h =>
      split
      · next h' =>
        rw [is_iff] at h'
        simp [h', sign, name, eq_comm]
      · next h' =>
        rw [is_iff] at h h'
        simp [h, h', sign, name]
  goes_on := by decide

theorem conjunctions_found : Finds andOp? conjunctions where
  iff t _ op := by
    unfold andOp? conjunctions
    split
    · next h =>
      rw [is_iff] at h
      simp [h, sign, eq_comm]
    · next h =>
      rw [is_iff] at h
      simp [h, sign]
  goes_on := by decide

theorem sums_found : Finds sumOp? sums where
  iff t _ op := by
    unfold sumOp? sums
    simp only [is_iff]
    split_ifs with h₁ h₂ <;> simp_all [sign, eq_comm]
  goes_on := by decide

theorem products_found : Finds productOp? products where
  iff t _ op := by
    unfold productOp? products
    simp only [is_iff]
    split_ifs with h₁ h₂ h₃ h₄ <;> simp_all [sign, eq_comm]
  goes_on := by decide

theorem symbol_of_ofSymbol? {text : String} {op : BinaryOp} (h : BinaryOp.ofSymbol? text = some op) :
    text = "==" ∧ op = .eq ∨ text = op.symbol := by
  unfold BinaryOp.ofSymbol? at h
  split at h
  · next htext => exact .inl ⟨htext, (Option.some.inj h).symm⟩
  · right
    have := List.find?_some h
    simpa [eq_comm] using this

theorem comparison_sign (op : BinaryOp) :
    ∀ text ∈ Word.signs, (BinaryOp.ofSymbol? text).filter BinaryOp.isComparison = some op ↔
      (sign text, op) ∈ comparisons := by
  cases op <;> decide

theorem comparison_keyword (op : BinaryOp) :
    ∀ text ∈ Token.keywords, (BinaryOp.ofSymbol? text).filter BinaryOp.isComparison = some op ↔
      (keyword text, op) ∈ comparisons := by
  cases op <;> decide

/-- No sign and no keyword is a name, so a name is a comparison only if it is one of the four words. -/
theorem comparison_name (op : BinaryOp) {text : String} (h : Word.IsName text) :
    (BinaryOp.ofSymbol? text).filter BinaryOp.isComparison = some op ↔ (name text, op) ∈ comparisons := by
  obtain ⟨c, cs, htext, hc, -, hk⟩ := h
  constructor
  · intro hop
    rw [Option.filter_eq_some_iff] at hop
    obtain ⟨hsym, hcmp⟩ := hop
    rcases symbol_of_ofSymbol? hsym with ⟨rfl, -⟩ | rfl
    · cases htext
      cases hc
    · cases op <;> first
        | (cases hcmp; done)
        | (cases htext; cases hc; done)
        | exact absurd (by decide) hk
        | decide
  · intro hmem
    simp only [comparisons, sign, name, keyword, List.mem_cons, Prod.mk.injEq, Word.mk.injEq, reduceCtorEq, false_and,
      true_and, List.not_mem_nil, or_false, false_or] at hmem
    rcases hmem with ⟨rfl, rfl⟩ | ⟨rfl, rfl⟩ | ⟨rfl, rfl⟩ | ⟨rfl, rfl⟩ <;> decide

theorem comparisons_found : Finds comparisonOp? comparisons where
  iff t ht op := by
    obtain ⟨kind, text, position⟩ := t
    cases kind <;> try (simp [comparisonOp?, comparisons, sign, name, keyword, Token.word]; done)
    · exact comparison_name op ht
    · exact comparison_sign op text ht
    · exact comparison_keyword op text ht
  goes_on := by decide

/-! ## Lists -/

section lists

variable {p : Parser Expr} {P : Phrase Expr} {stop : Word → Prop} {close : TokenKind} {closeName : String}

theorem itemsUpTo_sound (hp : Reads p P stop) (hclose : close ≠ .endOfInput) :
    ∀ (fuel : Nat) {s s' : Stream} {es : List Expr}, s.Proper → itemsUpTo close closeName p fuel s = .ok (es, s') →
      ∃ ws c, Passes s (ws ++ [c]) s' ∧ c.kind = close ∧ Items P ws es ∧ Expr.heightOfAll es ≤ maxDepth := by
  intro fuel
  induction fuel with
  | zero =>
    intro s s' es _ h
    cases h
  | succ fuel ih =>
    intro s s' es hs h
    unfold itemsUpTo at h
    split at h
    · next hk =>
      obtain ⟨m, hm, h⟩ := bind_eq_ok.mp h
      cases h
      exact ⟨[], s.current.word, passes_of_advance hs (hk ▸ hclose) hm, hk, .none, Nat.zero_le _⟩
    · obtain ⟨⟨e, m⟩, he, h⟩ := bind_eq_ok.mp h
      obtain ⟨ws, hw, hP, hh⟩ := hp.sound hs he
      have hm := hw.proper hs
      dsimp only at h
      split at h
      · next hk =>
        obtain ⟨n, hadv, h⟩ := bind_eq_ok.mp h
        have hn := passes_of_advance hm (by rw [show m.current.kind = _ from hk]; decide) hadv
        obtain ⟨⟨es', n'⟩, hes, h⟩ := bind_eq_ok.mp h
        obtain ⟨vs, c, hv, hc, hi, hall⟩ := ih (hn.proper hm) hes
        cases h
        refine ⟨ws ++ m.current.word :: vs, c, ?_, hc, .more hP hk hi, ?_⟩
        · simpa using hw.trans (hn.trans hv)
        · rw [Expr.heightOfAll]
          exact max_le hh hall
      · split at h
        · next hk =>
          obtain ⟨n, hadv, h⟩ := bind_eq_ok.mp h
          cases h
          refine ⟨ws, m.current.word, hw.trans (passes_of_advance hm (hk ▸ hclose) hadv), hk, .last hP, ?_⟩
          rw [Expr.heightOfAll, Expr.heightOfAll]
          omega
        · cases h

theorem itemsUpTo_result (hp : Reads p P stop) (ho : Opens P)
    (hclose : close = .rightParen ∨ close = .rightBracket)
    (hstop : ∀ w : Word, w.kind = .comma ∨ w.kind = close → stop w) {ws : List Word} {es : List Expr}
    (hi : Items P ws es) :
    ∀ (fuel : Nat) {s s' : Stream} {c : Word}, s.Proper → Passes s (ws ++ [c]) s' → c.kind = close →
      s.rest.length < fuel → itemsUpTo close closeName p fuel s = within (Expr.heightOfAll es) (es, s') := by
  have hnot : ∀ {s m : Stream} {us vs : List Word} {e : Expr}, P us e → Passes s (us ++ vs) m →
      s.current.kind ≠ close := by
    intro s m us vs e hP hw
    obtain ⟨w, us, rfl, h₁, h₂⟩ := ho _ _ hP
    have hcur : s.current.kind = w.kind := hw.kind
    rcases hclose with rfl | rfl
    · rwa [hcur]
    · rwa [hcur]
  induction hi with
  | none =>
    intro fuel s s' c _ hw hc hfuel
    obtain ⟨k, rfl⟩ : ∃ k, fuel = k + 1 := ⟨fuel - 1, by omega⟩
    have hk : s.current.kind = close := hw.kind.trans hc
    obtain ⟨m, hadv, -, hm⟩ := hw.advance
    cases hm
    rw [itemsUpTo, if_pos hk, hadv]
    rfl
  | @last ws e hP =>
    intro fuel s s' c hs hw hc hfuel
    obtain ⟨k, rfl⟩ : ∃ k, fuel = k + 1 := ⟨fuel - 1, by omega⟩
    obtain ⟨m, hm, hm'⟩ := hw.split
    have hk : m.current.kind = close := hm'.kind.trans hc
    obtain ⟨n, hadv, -, hn⟩ := hm'.advance
    cases hn
    have hheight : Expr.heightOfAll [e] = e.height := by
      rw [Expr.heightOfAll, Expr.heightOfAll]
      omega
    rw [itemsUpTo, if_neg (hnot hP hw), hp.result hs hm hP (hstop _ (.inr hk)), hheight]
    refine within_bind (fun hh => ?_) (within_tall (le_refl _))
    show (if m.current.kind = .comma then _ else _) = _
    rw [if_neg (by rw [hk]; rcases hclose with rfl | rfl <;> decide), if_pos hk, hadv, within_of_le hh]
    rfl
  | @more ws vs c e es hP hc _ ih =>
    intro fuel s s' c' hs hw hc' hfuel
    obtain ⟨k, rfl⟩ : ∃ k, fuel = k + 1 := ⟨fuel - 1, by omega⟩
    rw [List.append_assoc] at hw
    obtain ⟨m, hm, hm'⟩ := hw.split
    have hk : m.current.kind = .comma := hm'.kind.trans hc
    obtain ⟨n, hadv, hn, hn'⟩ := hm'.advance
    have hlen := hm.length
    have hlen' := hn.length
    simp only [List.length_cons, List.length_nil] at hlen'
    rw [itemsUpTo, if_neg (hnot hP hw), hp.result hs hm hP (hstop _ (.inl hk)), Expr.heightOfAll]
    refine within_bind (fun hh => ?_) (within_tall (by omega))
    show (if m.current.kind = .comma then _ else _) = _
    rw [if_pos hk, hadv]
    show (itemsUpTo close closeName p k n >>= _) = _
    rw [ih k (hn.proper (hm.proper hs)) hn' hc' (by omega)]
    refine within_bind (fun hh' => ?_) (within_tall (by omega))
    exact (within_of_le (max_le hh hh')).symm

theorem items_sound (hp : Reads p P stop) (hclose : close ≠ .endOfInput) {s s' : Stream} {es : List Expr}
    (hs : s.Proper) (h : items close closeName p s = .ok (es, s')) :
    ∃ ws c, Passes s (ws ++ [c]) s' ∧ c.kind = close ∧ Items P ws es ∧ Expr.heightOfAll es ≤ maxDepth :=
  itemsUpTo_sound hp hclose _ hs h

end lists

/-! ## Paths -/

theorem path_sound : ∀ (fuel : Nat) {s s' : Stream} {fs : List String}, s.Proper → path fuel s = .ok (fs, s') →
    ∃ ws, Passes s ws s' ∧ Path ws fs := by
  intro fuel
  induction fuel with
  | zero =>
    intro s s' fs _ h
    cases h
    exact ⟨[], .refl s, .none⟩
  | succ fuel ih =>
    intro s s' fs hs h
    unfold path at h
    split at h
    · next hk =>
      obtain ⟨m, hadv, h⟩ := bind_eq_ok.mp h
      have hm := passes_of_advance hs (by rw [hk]; decide) hadv
      have hmp := hm.proper hs
      obtain ⟨⟨t, n⟩, hexp, h⟩ := bind_eq_ok.mp h
      obtain ⟨hkm, rfl, hadv'⟩ := expect_eq_ok.mp hexp
      have hn := passes_of_advance hmp (by rw [hkm]; decide) hadv'
      obtain ⟨⟨gs, n'⟩, hgs, h⟩ := bind_eq_ok.mp h
      obtain ⟨ws, hw, hP⟩ := ih (hn.proper hmp) hgs
      cases h
      refine ⟨s.current.word :: m.current.word :: ws, hm.trans (hn.trans hw), ?_⟩
      rw [show m.current.word = name m.current.text from congrArg (Word.mk · _) hkm]
      exact .field hk hP
    · cases h
      exact ⟨[], .refl s, .none⟩

theorem path_complete {ws : List Word} {fs : List String} (hP : Path ws fs) :
    ∀ (fuel : Nat) {s s' : Stream}, s.Proper → Passes s ws s' → s'.current.kind ≠ .dot → s.rest.length ≤ fuel →
      path fuel s = .ok (fs, s') := by
  induction hP with
  | none =>
    intro fuel s s' _ hw hk _
    cases hw
    cases fuel with
    | zero => rfl
    | succ fuel =>
      rw [path, if_neg hk]
      rfl
  | @field d f ws fs hd _ ih =>
    intro fuel s s' hs hw hk hfuel
    have hcur : s.current.kind = .dot := hw.kind.trans hd
    obtain ⟨m, hadv, hm, hm'⟩ := hw.advance
    obtain ⟨n, hadv', hn, hn'⟩ := hm'.advance
    have hlen := hm.length
    have hlen' := hn.length
    simp only [List.length_cons, List.length_nil] at hlen hlen'
    obtain ⟨k, rfl⟩ : ∃ k, fuel = k + 1 := ⟨fuel - 1, by omega⟩
    have hmk : m.current.kind = .identifier := hm'.kind
    have hmt : m.current.text = f := hm'.text
    rw [path, if_pos hcur, hadv]
    show (expect .identifier "field name" m >>= _) = _
    rw [expect_eq_ok.mpr ⟨hmk, rfl, hadv'⟩]
    show (path k n >>= _) = _
    rw [ih k (hn.proper (hm.proper hs)) hn' hk (by omega)]
    show Except.ok (m.current.text :: fs, s') = _
    rw [hmt]

end Verdict.Parser
