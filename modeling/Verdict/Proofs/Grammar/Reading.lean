import Verdict.Proofs.Grammar.Passes

/-!
# Parsers and the phrases that they read

`Reads p P stop` says that the parser `p` reads the phrases `P`, all of them and nothing else, where the word after
a phrase is one that `stop` allows; a phrase whose tree is too tall is refused for that and for nothing else. Each way
to make a parser out of others keeps this, level by level and then by induction on the depth that is left.
-/

namespace Verdict.Parser

open Verdict.Stream Verdict.Grammar

/-! ## The limit on heights -/

/-- What has been read, unless it is too tall. -/
def within {α : Type} (height : Nat) (a : α) : Except ParseError α :=
  if height ≤ maxDepth then .ok a else .error (.tooDeep maxDepth)

section within

variable {α β : Type} {h h' : Nat} {a : α} {b : β}

theorem within_of_le (hle : h ≤ maxDepth) : within h a = .ok a := if_pos hle

theorem within_of_lt (hlt : maxDepth < h) : within h a = .error (.tooDeep maxDepth) := if_neg (by omega)

theorem within_tall (hle : h ≤ h') (hlt : maxDepth < h) : within h' b = .error (.tooDeep maxDepth) :=
  within_of_lt (by omega)

theorem within_bind {f : α → Except ParseError β} {x : Except ParseError β} (hf : h ≤ maxDepth → f a = x)
    (hx : maxDepth < h → x = .error (.tooDeep maxDepth)) : (within h a >>= f) = x := by
  by_cases hle : h ≤ maxDepth
  · rw [within_of_le hle, ← hf hle]
    rfl
  · rw [within_of_lt (by omega), hx (by omega)]
    rfl

theorem bounded_bind (e : Expr) (f : Expr → β) :
    (bounded e >>= fun e => Except.ok (f e)) = within e.height (f e) := by
  unfold bounded within
  split <;> rfl

end within

/-! ## Reading -/

/-- The parser reads those phrases. A phrase is taken in full where the word after it cannot go on with it, and its
tree is what has been read unless it is too tall. -/
structure Reads (p : Parser Expr) (P : Phrase Expr) (stop : Word → Prop) : Prop where
  sound {s s' e} : s.Proper → p s = .ok (e, s') → ∃ ws, Passes s ws s' ∧ P ws e ∧ e.height ≤ maxDepth
  result {s s' ws e} : s.Proper → Passes s ws s' → P ws e → stop s'.current.word → p s = within e.height (e, s')

/-- The function finds exactly these operators. -/
structure Finds (op? : Token → Option BinaryOp) (operators : Operators) : Prop where
  iff (t : Token) : t.word.Genuine → ∀ op, op? t = some op ↔ (t.word, op) ∈ operators
  goes_on : ∀ x ∈ operators, x.1.kind ≠ .endOfInput

theorem Finds.eq_none {op? : Token → Option BinaryOp} {operators : Operators} (hf : Finds op? operators) {t : Token}
    (ht : t.word.Genuine) (h : ∀ op, (t.word, op) ∉ operators) : op? t = none := by
  rw [Option.eq_none_iff_forall_ne_some]
  intro op hop
  exact h op ((hf.iff t ht op).mp hop)

theorem bounded_eq_ok {e e' : Expr} : bounded e = .ok e' ↔ e' = e ∧ e.height ≤ maxDepth := by
  unfold bounded
  split
  · next h => simp [h, eq_comm]
  · next h => simp [h]

variable {op? : Token → Option BinaryOp} {operators : Operators} {p : Parser Expr} {P : Phrase Expr}
  {stop : Word → Prop}

theorem Reads.complete {s s' : Stream} {ws : List Word} {e : Expr} (hp : Reads p P stop) (hs : s.Proper)
    (hw : Passes s ws s') (hP : P ws e) (hh : e.height ≤ maxDepth) (hst : stop s'.current.word) : p s = .ok (e, s') := by
  rw [hp.result hs hw hP hst, within_of_le hh]

theorem Reads.weaken {stop' : Word → Prop} (hp : Reads p P stop) (h : ∀ w, stop' w → stop w) : Reads p P stop' :=
  ⟨hp.sound, fun hs hw hP hst => hp.result hs hw hP (h _ hst)⟩

/-! ## Operators of one level -/

theorem chainFrom_sound (hf : Finds op? operators) (hp : Reads p P stop) :
    ∀ (fuel : Nat) {left e : Expr} {s s' : Stream} {ws : List Word}, s.Proper →
      Chain operators P ws left → left.height ≤ maxDepth → chainFrom op? p fuel left s = .ok (e, s') →
      ∃ vs, Passes s vs s' ∧ Chain operators P (ws ++ vs) e ∧ e.height ≤ maxDepth := by
  intro fuel
  induction fuel with
  | zero =>
    intro left e s s' ws _ hc hh h
    cases h
    exact ⟨[], .refl s, by rwa [List.append_nil], hh⟩
  | succ fuel ih =>
    intro left e s s' ws hs hc hh h
    unfold chainFrom at h
    cases hop : op? s.current with
    | none =>
      rw [hop] at h
      cases h
      exact ⟨[], .refl s, by rwa [List.append_nil], hh⟩
    | some op =>
      rw [hop] at h
      have hmem := (hf.iff _ hs.current_genuine op).mp hop
      obtain ⟨m, hadv, h⟩ := bind_eq_ok.mp h
      have hw := passes_of_advance hs (hf.goes_on _ hmem) hadv
      obtain ⟨⟨r, m'⟩, hr, h⟩ := bind_eq_ok.mp h
      obtain ⟨us, hus, hPr, -⟩ := hp.sound (hw.proper hs) hr
      obtain ⟨b, hb, h⟩ := bind_eq_ok.mp h
      obtain ⟨rfl, hbh⟩ := bounded_eq_ok.mp hb
      obtain ⟨vs, hvs, hce, heh⟩ := ih (hus.proper (hw.proper hs)) (.more hc hmem hPr) hbh h
      refine ⟨s.current.word :: us ++ vs, (hw.trans hus).trans hvs, ?_, heh⟩
      rwa [List.append_assoc] at hce

theorem height_left (op : BinaryOp) (l r : Expr) : l.height ≤ (Expr.binary op l r).height := by
  rw [Expr.height]
  omega

theorem height_right (op : BinaryOp) (l r : Expr) : r.height ≤ (Expr.binary op l r).height := by
  rw [Expr.height]
  omega

theorem chain_reaches (hf : Finds op? operators) (hp : Reads p P stop) (hstop : ∀ x ∈ operators, stop x.1)
    {ws : List Word} {e : Expr} (hc : Chain operators P ws e) :
    ∀ {s s' : Stream}, s.Proper → Passes s ws s' → stop s'.current.word →
      ∃ fuel, s'.rest.length ≤ fuel ∧
        chain op? p s = within e.height (e, s') >>= fun x => chainFrom op? p fuel x.1 x.2 := by
  induction hc with
  | one hP =>
    intro s s' hs hw hst
    refine ⟨s'.rest.length, le_refl _, ?_⟩
    unfold chain
    rw [hp.result hs hw hP hst]
    refine within_bind (fun hh => ?_) (fun hlt => ?_)
    · rw [within_of_le hh]
      rfl
    · rw [within_of_lt hlt]
      rfl
  | @more ws vs w op l r _ hmem hPr ih =>
    intro s s' hs hw hst
    obtain ⟨m, hm, hm'⟩ := hw.split
    have hmp := hm.proper hs
    have hcur := hm'.current
    obtain ⟨fuel, hfuel, heq⟩ := ih hs hm (hcur ▸ hstop _ hmem)
    have hop : op? m.current = some op := (hf.iff _ hmp.current_genuine op).mpr (hcur ▸ hmem)
    obtain ⟨n, hadv, hn, hn'⟩ := hm'.advance
    have hlen := hn.length
    have hlen' := hn'.length
    simp only [List.length_cons, List.length_nil] at hlen
    obtain ⟨k, rfl⟩ : ∃ k, fuel = k + 1 := ⟨fuel - 1, by omega⟩
    refine ⟨k, by omega, heq.trans ?_⟩
    have htall {h : Nat} (hle : h ≤ (Expr.binary op l r).height) (hlt : maxDepth < h) :
        (within (Expr.binary op l r).height (Expr.binary op l r, s') >>= fun x => chainFrom op? p k x.1 x.2) =
          .error (.tooDeep maxDepth) := by
      rw [within_tall hle hlt]
      rfl
    refine within_bind (fun _ => ?_) (htall (height_left op l r))
    rw [chainFrom, hop]
    dsimp only
    rw [hadv]
    show (p n >>= _) = _
    rw [hp.result (hn.proper hmp) hn' hPr hst]
    refine within_bind (fun _ => ?_) (htall (height_right op l r))
    show (bounded (.binary op l r) >>= _) = _
    unfold bounded within
    split <;> rfl

theorem chainFrom_done {fuel : Nat} {e : Expr} {s : Stream} (h : op? s.current = none) :
    chainFrom op? p fuel e s = .ok (e, s) := by
  cases fuel with
  | zero => rfl
  | succ fuel =>
    rw [chainFrom, h]
    rfl

theorem Reads.chain (hf : Finds op? operators) (hp : Reads p P stop) (hstop : ∀ x ∈ operators, stop x.1) :
    Reads (chain op? p) (Chain operators P) fun w => stop w ∧ ∀ op, (w, op) ∉ operators where
  sound := by
    intro s s' e hs h
    obtain ⟨⟨l, m⟩, hl, h⟩ := bind_eq_ok.mp h
    obtain ⟨ws, hw, hP, hh⟩ := hp.sound hs hl
    obtain ⟨vs, hv, hc, hh⟩ := chainFrom_sound hf hp _ (hw.proper hs) (.one hP) hh h
    exact ⟨ws ++ vs, hw.trans hv, hc, hh⟩
  result := by
    intro s s' ws e hs hw hc hst
    obtain ⟨fuel, -, heq⟩ := chain_reaches hf hp hstop hc hs hw hst.1
    rw [heq]
    refine within_bind (fun hh => ?_) (within_tall (le_refl _))
    rw [chainFrom_done (hf.eq_none (hw.proper hs).current_genuine hst.2), within_of_le hh]

theorem Reads.single (hf : Finds op? operators) (hp : Reads p P stop) (hstop : ∀ x ∈ operators, stop x.1) :
    Reads (single op? p) (Single operators P) fun w => stop w ∧ ∀ op, (w, op) ∉ operators where
  sound := by
    intro s s' e hs h
    obtain ⟨⟨l, m⟩, hl, h⟩ := bind_eq_ok.mp h
    obtain ⟨ws, hw, hP, hh⟩ := hp.sound hs hl
    have hm := hw.proper hs
    cases hop : op? m.current with
    | none =>
      simp only [hop] at h
      cases h
      exact ⟨ws, hw, .one hP, hh⟩
    | some op =>
      simp only [hop] at h
      have hmem := (hf.iff _ hm.current_genuine op).mp hop
      obtain ⟨n, hadv, h⟩ := bind_eq_ok.mp h
      have hn := passes_of_advance hm (hf.goes_on _ hmem) hadv
      obtain ⟨⟨r, n'⟩, hr, h⟩ := bind_eq_ok.mp h
      obtain ⟨vs, hv, hPr, -⟩ := hp.sound (hn.proper hm) hr
      obtain ⟨b, hb, h⟩ := bind_eq_ok.mp h
      obtain ⟨rfl, hbh⟩ := bounded_eq_ok.mp hb
      cases h
      exact ⟨ws ++ m.current.word :: vs, hw.trans (hn.trans hv), .two hP hmem hPr, hbh⟩
  result := by
    intro s s' ws e hs hw hc hst
    unfold Parser.single
    cases hc with
    | one hP =>
      rw [hp.result hs hw hP hst.1]
      refine within_bind (fun hh => ?_) (within_tall (le_refl _))
      simp only [hf.eq_none (hw.proper hs).current_genuine hst.2]
      exact (within_of_le hh).symm
    | @two ws vs w op l r hl hmem hr =>
      obtain ⟨m, hm, hm'⟩ := hw.split
      have hmp := hm.proper hs
      have hcur := hm'.current
      rw [hp.result hs hm hl (hcur ▸ hstop _ hmem)]
      refine within_bind (fun _ => ?_) (within_tall (height_left op l r))
      have hop : op? m.current = some op := (hf.iff _ hmp.current_genuine op).mpr (hcur ▸ hmem)
      obtain ⟨n, hadv, hn, hn'⟩ := hm'.advance
      simp only [hop]
      rw [hadv]
      show (p n >>= _) = _
      rw [hp.result (hn.proper hmp) hn' hr hst.1]
      exact within_bind (fun _ => bounded_bind _ (·, s')) (within_tall (height_right op l r))

end Verdict.Parser
