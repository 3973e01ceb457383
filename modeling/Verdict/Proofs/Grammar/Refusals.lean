import Verdict.Proofs.Grammar.Depth
import Verdict.Proofs.Grammar.Loops

/-!
# Where a text is refused

The parser goes from token to token and never back, so what it makes of a text is settled by the tokens up to the one
that it has come to: any stream that begins with the same words is read alike, whatever follows (`Parser.Settles`).
All parsers have that from those they are made of. So an error is about one token of the text, no token before it is an
error, and every text that begins with the same words up to it is refused (`parse_error_about`).
-/

namespace Verdict

namespace ParseError

/-- The place that an error names, if it names one. -/
def position? : ParseError → Option Position
  | .lexical _ p | .unexpectedToken _ _ p | .trailingInput _ p | .invalidNumber _ p => some p
  | .unexpectedEnd _ | .tooDeep _ => none

/-- The error is about that token: it gives its place and says what the token is. -/
def IsAbout : ParseError → Token → Prop
  | .lexical m p, k => k.kind = .error ∧ m = k.text ∧ p = k.position
  | .unexpectedToken _ found p, k | .trailingInput found p, k => found = k.display ∧ p = k.position
  | .invalidNumber text p, k => text = k.text ∧ p = k.position
  | .unexpectedEnd _, _ | .tooDeep _, _ => False

end ParseError

/-! ## How streams begin -/

namespace Stream

/-- The tokens from the current one on. -/
def tokens (s : Stream) : List Token := s.current :: s.rest

variable {s s' t t' : Stream} {w : Word} {ws vs : List Word}

theorem Passes.words (h : Passes s ws s') : s.tokens.map Token.word = ws ++ s'.tokens.map Token.word := by
  induction h with
  | refl => rfl
  | step _ _ _ ih => exact congrArg _ ih

theorem Passes.tokens (h : Passes s ws s') (hs : s.Clear) :
    ∃ us, s.tokens = us ++ s'.tokens ∧ us.map Token.word = ws ∧ ∀ u ∈ us, u.kind ≠ .error := by
  induction h with
  | refl => exact ⟨[], rfl, rfl, List.forall_mem_nil _⟩
  | @step t u ts ws s' _ hu _ ih =>
    obtain ⟨us, htokens, hws, hus⟩ := ih ⟨hs.proper.tail, hu⟩
    exact ⟨t :: us, congrArg (t :: ·) htokens, congrArg (t.word :: ·) hws, List.forall_mem_cons.mpr ⟨hs.current, hus⟩⟩

theorem Passes.front (h : Passes s ws s') : ∃ vs, ws ++ [s'.current.word] = s.current.word :: vs := by
  cases h with
  | refl => exact ⟨[], rfl⟩
  | step => exact ⟨_, rfl⟩

theorem advance_of_error {u : Token} {us : List Token} (hrest : s.rest = u :: us) (hu : u.kind = .error) :
    s.advance = .error (.lexical u.text u.position) := by
  rw [advance, hrest]
  exact if_pos hu

theorem advance_of_token {u : Token} {us : List Token} (hrest : s.rest = u :: us) (hu : u.kind ≠ .error) :
    s.advance = .ok ⟨u, us⟩ := by
  rw [advance, hrest]
  exact if_neg hu

theorem front_of_tokens {before others : List Token} {k : Token} (h : s.tokens = before ++ k :: others) :
    ∃ seen, (before ++ [k]).map Token.word = s.current.word :: seen := by
  cases before with
  | nil =>
    obtain ⟨rfl, -⟩ := List.cons.inj h
    exact ⟨[], rfl⟩
  | cons u before =>
    obtain ⟨rfl, -⟩ := List.cons.inj h
    exact ⟨_, rfl⟩

/-- The stream begins with those words. -/
structure Starts (seen : List Word) (t : Stream) : Prop where
  proper : t.Proper
  front : seen <+: t.tokens.map Token.word

theorem Starts.current (h : Starts (w :: ws) t) : t.current.word = w := (List.cons_prefix_cons.mp h.front).1.symm

theorem Starts.clear (h : Starts (w :: ws) t) (hw : w.kind ≠ .error) : t.Clear :=
  ⟨h.proper, fun hk => hw ((congrArg Word.kind h.current).symm.trans hk)⟩

theorem Starts.upTo (h : Starts (ws ++ w :: vs) t) : Starts (ws ++ [w]) t :=
  ⟨h.proper, (List.prefix_append_right_inj ws |>.mpr ⟨vs, rfl⟩).trans h.front⟩

theorem Starts.second {w' : Word} (h : Starts (w :: w' :: ws) t) : ∃ v vs, t.rest = v :: vs ∧ v.word = w' := by
  have hrest := (List.cons_prefix_cons.mp h.front).2
  cases hts : t.rest with
  | nil => simp [hts] at hrest
  | cons v vs =>
    rw [hts, List.map_cons, List.cons_prefix_cons] at hrest
    exact ⟨v, vs, rfl, hrest.1.symm⟩

theorem Starts.after (h : Starts (ws ++ vs) t) (ht : Passes t ws t') : Starts vs t' := by
  have hfront := h.front
  rw [ht.words, List.prefix_append_right_inj] at hfront
  exact ⟨ht.proper h.proper, hfront⟩

end Stream

namespace Parser

open Verdict.Stream Verdict.Grammar

/-! ## Settled results -/

/-- What the parser makes of the stream is settled by the tokens up to one that it has come to. If it reads something,
it reads the same from every stream that begins with those words. If it gives an error about a token, it gives some
error for all of them. If it misses something at the end, it has come to the end. -/
inductive Settles {α : Type} (p : Parser α) (s : Stream) : Prop
  | ok {a ws s'} : p s = .ok (a, s') → Passes s ws s' →
      (∀ t, Starts (ws ++ [s'.current.word]) t → ∃ t', p t = .ok (a, t') ∧ Passes t ws t') → Settles p s
  | error {err before k others} : p s = .error err → s.tokens = before ++ k :: others →
      (∀ u ∈ before, u.kind ≠ .error) → err.IsAbout k →
      (∀ t, Starts ((before ++ [k]).map Token.word) t → ∃ err', p t = .error err') → Settles p s
  | ended {expected ws s'} : p s = .error (.unexpectedEnd expected) → Passes s ws s' →
      s'.current.kind = .endOfInput → Settles p s
  | tooDeep {limit} : p s = .error (.tooDeep limit) → Settles p s

/-- Whatever the stream is, what the parser makes of it is settled. -/
def Commits {α : Type} (p : Parser α) : Prop := ∀ s, s.Clear → Settles p s

section settles

variable {α β : Type} {p q : Parser α} {s : Stream}

theorem Commits.forward (h : Commits p) : Forward p := by
  intro s a s' hs hp
  cases h s hs with
  | ok hp' hw _ =>
    cases hp'.symm.trans hp
    exact ⟨_, hw⟩
  | error hp' | ended hp' | tooDeep hp' => cases hp'.symm.trans hp

theorem word_kind {t : Token} (h : t.word = s.current.word) : t.kind = s.current.kind := congrArg Word.kind h

theorem word_text {t : Token} (h : t.word = s.current.word) : t.text = s.current.text := congrArg Word.text h

/-- It is enough to look at streams with the same current word. -/
theorem Settles.of_eq (hs : s.Clear) (h : ∀ t, t.Clear → t.current.word = s.current.word → p t = q t)
    (hq : Settles q s) : Settles p s := by
  have hstart {seen : List Word} {t : Stream} (ht : Starts (s.current.word :: seen) t) : p t = q t :=
    h t (ht.clear hs.current) ht.current
  cases hq with
  | ok hq hw ht =>
    refine .ok ((h s hs rfl).trans hq) hw fun t hst => ?_
    obtain ⟨seen, hseen⟩ := hw.front
    rw [hstart (hseen ▸ hst)]
    exact ht t hst
  | error hq htokens hbefore habout ht =>
    refine .error ((h s hs rfl).trans hq) htokens hbefore habout fun t hst => ?_
    obtain ⟨seen, hseen⟩ := front_of_tokens htokens
    rw [hstart (hseen ▸ hst)]
    exact ht t hst
  | ended hq hw hend => exact .ended ((h s hs rfl).trans hq) hw hend
  | tooDeep hq => exact .tooDeep ((h s hs rfl).trans hq)

theorem Settles.done (a : α) : Settles (fun m => .ok (a, m)) s :=
  .ok rfl (.refl s) fun t _ => ⟨t, rfl, .refl t⟩

theorem Settles.bind {f : α × Stream → Except ParseError (β × Stream)} (hs : s.Clear) (hp : Settles p s)
    (hf : ∀ {a ws s'}, p s = .ok (a, s') → Passes s ws s' → Settles (fun m => f (a, m)) s') :
    Settles (fun m => p m >>= f) s := by
  have hok {t t' : Stream} {a : α} (h : p t = .ok (a, t')) : (p t >>= f) = f (a, t') := by
    rw [h]
    rfl
  have herror {t : Stream} {err : ParseError} (h : p t = .error err) : (p t >>= f) = .error err := by
    rw [h]
    rfl
  cases hp with
  | @ok a ws s' hps hw ht =>
    -- Whatever settles the second part begins with the word that the first one has come to, so it settles both.
    cases hf hps hw with
    | @ok b vs s'' hfs hv ht' =>
      refine .ok ((hok hps).trans hfs) (hw.trans hv) fun t hst => ?_
      obtain ⟨seen, hseen⟩ := hv.front
      rw [List.append_assoc] at hst
      obtain ⟨t', hpt, hwt⟩ := ht t (hseen ▸ hst).upTo
      obtain ⟨t'', hft, hvt⟩ := ht' t' (hst.after hwt)
      exact ⟨t'', (hok hpt).trans hft, hwt.trans hvt⟩
    | @error err before k others hfs htokens hbefore habout ht' =>
      obtain ⟨us, hus, rfl, hclean⟩ := hw.tokens hs
      refine .error ((hok hps).trans hfs) (by rw [hus, htokens, List.append_assoc])
        (List.forall_mem_append.mpr ⟨hclean, hbefore⟩) habout fun t hst => ?_
      obtain ⟨seen, hseen⟩ := front_of_tokens htokens
      rw [List.append_assoc, List.map_append] at hst
      obtain ⟨t', hpt, hwt⟩ := ht t (hseen ▸ hst).upTo
      obtain ⟨err', hft⟩ := ht' t' (hst.after hwt)
      exact ⟨err', (hok hpt).trans hft⟩
    | ended hfs hv hend => exact .ended ((hok hps).trans hfs) (hw.trans hv) hend
    | tooDeep hfs => exact .tooDeep ((hok hps).trans hfs)
  | error hps htokens hbefore habout ht =>
    refine .error (herror hps) htokens hbefore habout fun t hst => ?_
    obtain ⟨err', hpt⟩ := ht t hst
    exact ⟨err', herror hpt⟩
  | ended hps hw hend => exact .ended (herror hps) hw hend
  | tooDeep hps => exact .tooDeep (herror hps)

/-! ## Steps -/

theorem Settles.step (hs : s.Clear) (hk : s.current.kind ≠ .endOfInput) :
    Settles (fun m => m.advance.map fun n => ((), n)) s := by
  obtain ⟨u, us, hrest⟩ := List.exists_cons_of_length_pos (hs.proper.length_pos hk)
  have htokens : s.tokens = [s.current] ++ u :: us := by rw [tokens, hrest, List.singleton_append]
  by_cases hu : u.kind = .error
  · refine .error (congrArg (Except.map _) (advance_of_error hrest hu)) htokens
      (List.forall_mem_singleton.mpr hs.current) ⟨hu, rfl, rfl⟩ fun t ht => ?_
    obtain ⟨v, vs, hvs, hv⟩ := ht.second
    exact ⟨_, congrArg (Except.map _) (advance_of_error hvs ((congrArg Word.kind hv).trans hu))⟩
  · have hgoes {t : Stream} {v : Token} {vs : List Token} (ht : t.Proper) (hkt : t.current.kind ≠ .endOfInput)
        (hvs : t.rest = v :: vs) (hv : v.kind ≠ .error) :
        (t.advance.map fun n => ((), n)) = .ok ((), ⟨v, vs⟩) ∧ Passes t [t.current.word] ⟨v, vs⟩ := by
      have hadv := advance_of_token hvs hv
      exact ⟨congrArg (Except.map _) hadv, passes_of_advance ht hkt hadv⟩
    obtain ⟨hok, hpasses⟩ := hgoes hs.proper hk hrest hu
    refine .ok hok hpasses fun t ht => ?_
    obtain ⟨v, vs, hvs, hv⟩ := ht.second
    have hkt : t.current.kind ≠ .endOfInput := by rwa [word_kind ht.current]
    have hkv : v.kind ≠ .error := by rwa [show v.kind = u.kind from congrArg Word.kind hv]
    obtain ⟨hok', hpasses'⟩ := hgoes ht.proper hkt hvs hkv
    exact ⟨_, hok', ht.current ▸ hpasses'⟩

theorem Settles.advance {f : Stream → Except ParseError (β × Stream)} (hs : s.Clear)
    (hk : s.current.kind ≠ .endOfInput) (hf : ∀ {m}, m.Clear → s.rest.length = m.rest.length + 1 → Settles f m) :
    Settles (fun m => m.advance >>= f) s := by
  refine .of_eq hs (fun t _ _ => ?_) (.bind (f := fun x => f x.2) hs (.step hs hk) fun hstep _ => ?_)
  · cases t.advance <;> rfl
  · obtain ⟨m, hm, heq⟩ := map_eq_ok.mp hstep
    cases heq
    obtain ⟨hmc, hlen⟩ := hs.advance hk hm
    exact hf hmc hlen

/-- An error about the current token that is given after the token has been passed. -/
theorem Settles.judged (err : Stream → ParseError) (hs : s.Clear) (hk : s.current.kind ≠ .endOfInput)
    (habout : (err s).IsAbout s.current) :
    Settles (fun m => m.advance >>= fun _ => (Except.error (err m) : Except ParseError (α × Stream))) s := by
  have hfails (t : Stream) : ∃ err', (t.advance >>= fun _ => (Except.error (err t) : Except ParseError (α × Stream))) =
      .error err' := by
    cases t.advance <;> exact ⟨_, rfl⟩
  cases hadv : s.advance with
  | ok m =>
    refine .error (by rw [hadv]; rfl) (rfl : _ = [] ++ s.current :: s.rest) (List.forall_mem_nil _) habout ?_
    exact fun t _ => hfails t
  | error e =>
    have hstep : (s.advance.map fun n => ((), n)) = .error e := by
      rw [hadv]
      rfl
    cases Settles.step hs hk with
    | ok h => cases hstep.symm.trans h
    | error h htokens hbefore hlexical =>
      cases hstep.symm.trans h
      exact .error (by rw [hadv]; rfl) htokens hbefore hlexical fun t _ => hfails t
    | ended h hw hend =>
      cases hstep.symm.trans h
      exact .ended (by rw [hadv]; rfl) hw hend
    | tooDeep h =>
      cases hstep.symm.trans h
      exact .tooDeep (by rw [hadv]; rfl)

theorem Settles.unexpected (expected : String) :
    Settles (fun m => (Except.error (m.unexpected expected) : Except ParseError (α × Stream))) s := by
  by_cases hk : s.current.kind = .endOfInput
  · exact .ended (congrArg _ (if_pos hk)) (.refl s) hk
  · exact .error (congrArg _ (if_neg hk)) (rfl : _ = [] ++ s.current :: s.rest) (List.forall_mem_nil _) ⟨rfl, rfl⟩
      fun t _ => ⟨_, rfl⟩

theorem Settles.bounded {e : Expr} {f : Expr → Stream → Except ParseError (β × Stream)} (h : Settles (f e) s) :
    Settles (fun m => Parser.bounded e >>= fun e => f e m) s := by
  by_cases hle : e.height ≤ maxDepth
  · rw [show Parser.bounded e = .ok e from if_pos hle]
    exact h
  · rw [show Parser.bounded e = .error (.tooDeep maxDepth) from if_neg hle]
    exact .tooDeep rfl

theorem Settles.ite {c : Stream → Prop} [∀ m, Decidable (c m)] (hs : s.Clear)
    (hc : ∀ t : Stream, t.current.word = s.current.word → (c t ↔ c s)) (hp : c s → Settles p s)
    (hq : ¬ c s → Settles q s) : Settles (fun m => if c m then p m else q m) s := by
  by_cases h : c s
  · exact .of_eq hs (fun t _ ht => if_pos ((hc t ht).mpr h)) (hp h)
  · exact .of_eq hs (fun t _ ht => if_neg (mt (hc t ht).mp h)) (hq h)

theorem Settles.onKind {kind : TokenKind} (hs : s.Clear) (hp : s.current.kind = kind → Settles p s)
    (hq : s.current.kind ≠ kind → Settles q s) : Settles (fun m => if m.current.kind = kind then p m else q m) s :=
  .ite hs (fun _ ht => by rw [word_kind ht]) hp hq

theorem Settles.expect {kind : TokenKind} {expected : String} {f : String → Stream → Except ParseError (β × Stream)}
    (hs : s.Clear) (hkind : kind ≠ .endOfInput)
    (hf : ∀ {m}, m.Clear → s.rest.length = m.rest.length + 1 → Settles (f s.current.text) m) :
    Settles (fun m => Parser.expect kind expected m >>= fun x => f x.1.text x.2) s := by
  by_cases hk : s.current.kind = kind
  · refine .of_eq hs (fun t _ ht => ?_) (.advance hs (hk ▸ hkind) hf)
    rw [Parser.expect, if_pos ((word_kind ht).trans hk), ← word_text ht, bind_assoc]
    rfl
  · refine .of_eq hs (fun t _ ht => ?_) (.unexpected expected)
    rw [Parser.expect, if_neg (fun h => hk ((word_kind ht).symm.trans h))]
    rfl

end settles

/-! ## Parsers made of others -/

section combinators

variable {op? : Token → Option BinaryOp} {operators : Operators} {p : Parser Expr} {close : TokenKind}
  {closeName : String} {s : Stream}

theorem Finds.eq_of_word (hf : Finds op? operators) (hs : s.Clear) {t : Stream} (ht : t.Clear)
    (h : t.current.word = s.current.word) : op? t.current = op? s.current := by
  refine Option.ext fun op => ?_
  rw [hf.iff _ ht.proper.current_genuine, hf.iff _ hs.proper.current_genuine, h]

theorem Commits.chainFrom (hf : Finds op? operators) (hp : Commits p) (n : Nat) :
    ∀ {left : Expr} {s : Stream}, s.Clear → s.rest.length < n →
      Settles (fun m => Parser.chainFrom op? p m.rest.length left m) s := by
  induction n with
  | zero => exact fun _ hlen => absurd hlen (Nat.not_lt_zero _)
  | succ n ih =>
    intro left s hs hlen
    -- A stream with the same current word has the same operator there, or it has none either.
    cases hop : op? s.current with
    | none => exact .of_eq hs (fun t ht hw => chainFrom_done ((hf.eq_of_word hs ht hw).trans hop)) (.done left)
    | some op =>
      refine .of_eq hs (fun t ht hw => chainFrom_round hf hp.forward ht ((hf.eq_of_word hs ht hw).trans hop)) ?_
      refine .advance hs (hf.current_ne hs hop) fun {m} hm hlen' => .bind hm (hp m hm) fun _ hw => ?_
      have hle := hw.length_le
      dsimp only
      exact .bounded (ih (hw.clear hm) (by omega))

theorem Commits.chain (hf : Finds op? operators) (hp : Commits p) : Commits (chain op? p) := fun s hs =>
  .bind hs (hp s hs) fun _ hw => hp.chainFrom hf _ (hw.clear hs) (Nat.lt_succ_self _)

theorem Commits.single (hf : Finds op? operators) (hp : Commits p) : Commits (single op? p) := fun s hs =>
  .bind hs (hp s hs) fun {left _ s} _ hw => by
    have hs' := hw.clear hs
    cases hop : op? s.current with
    | none =>
      refine .of_eq hs' (fun t ht hword => ?_) (.done left)
      simp only [(hf.eq_of_word hs' ht hword).trans hop]
      rfl
    | some op =>
      refine .of_eq (q := fun m => m.advance >>= fun m => p m >>= fun x =>
        bounded (.binary op left x.1) >>= fun e => .ok (e, x.2)) hs' (fun t ht hword => ?_) ?_
      · simp only [(hf.eq_of_word hs' ht hword).trans hop]
        rfl
      · refine .advance hs' (hf.current_ne hs' hop) fun {m} hm _ => .bind hm (hp m hm) fun _ _ => ?_
        dsimp only
        exact .bounded (.done _)

theorem Commits.expressionOf (hp : Commits p) : Commits (expressionOf p) :=
  ((((hp.chain products_found).chain sums_found).single comparisons_found).chain conjunctions_found).chain
    disjunctions_found

theorem items_done (hk : s.current.kind = close) :
    items close closeName p s = s.advance >>= fun s => .ok ([], s) := by
  rw [items, itemsUpTo, if_pos hk]
  rfl

theorem Commits.itemsWithin (hp : Commits p) (hclose : close ≠ .endOfInput) (n : Nat) :
    ∀ {s : Stream}, s.Clear → s.rest.length < n → Settles (items close closeName p) s := by
  induction n with
  | zero => exact fun _ hlen => absurd hlen (Nat.not_lt_zero _)
  | succ n ih =>
    intro s hs hlen
    by_cases hk : s.current.kind = close
    · refine .of_eq hs (fun t _ ht => items_done ((word_kind ht).trans hk)) ?_
      exact .advance hs (hk ▸ hclose) fun _ _ => .done []
    · refine .of_eq hs (fun t ht hw => items_round hp.forward ht fun h => hk ((word_kind hw).symm.trans h)) ?_
      refine .bind hs (hp s hs) fun _ hw => ?_
      have hs' := hw.clear hs
      have hle := hw.length_le
      dsimp only
      refine .onKind hs' (fun hcomma => ?_) fun _ => .onKind hs' (fun hend => ?_) fun _ => .unexpected _
      · refine .advance hs' (by rw [hcomma]; decide) fun hm hlen' => .bind hm (ih hm (by omega)) fun _ _ => ?_
        dsimp only
        exact .done _
      · exact .advance hs' (hend ▸ hclose) fun _ _ => .done _

theorem Commits.items (hp : Commits p) (hclose : close ≠ .endOfInput) : Commits (items close closeName p) := fun _ hs =>
  hp.itemsWithin hclose _ hs (Nat.lt_succ_self _)

theorem path_settles (n : Nat) :
    ∀ {s : Stream}, s.Clear → s.rest.length < n → Settles (fun m => path m.rest.length m) s := by
  induction n with
  | zero => exact fun _ hlen => absurd hlen (Nat.not_lt_zero _)
  | succ n ih =>
    intro s hs hlen
    by_cases hk : s.current.kind = .dot
    · refine .of_eq hs (fun t ht hw => path_round ht ((word_kind hw).trans hk)) ?_
      refine .advance hs (by rw [hk]; decide) fun hm hlen' => ?_
      refine .expect (f := fun x m => path m.rest.length m >>= fun y => .ok (x :: y.1, y.2)) hm (by decide)
        fun hm' hlen'' => ?_
      refine .bind hm' (ih hm' (by omega)) fun _ _ => ?_
      dsimp only
      exact .done _
    · refine .of_eq hs (fun t ht hw => ?_) (.done [])
      have hkt : t.current.kind ≠ .dot := fun h => hk ((word_kind hw).symm.trans h)
      cases t.rest.length with
      | zero => rfl
      | succ k => exact if_neg hkt

theorem literal_settles (v : Value) (hs : s.Clear) (hk : s.current.kind ≠ .endOfInput) : Settles (literal v) s := by
  exact .advance (f := fun m => .ok (Expr.literal v, m)) hs hk fun _ _ => .done _

/-- A number without a value is refused after it has been passed. -/
theorem number_settles (hs : s.Clear) (hk : s.current.kind ≠ .endOfInput) : Settles number s := by
  cases hv : numberValue? s.current.text.toList with
  | none =>
    refine .of_eq hs (fun t _ ht => ?_)
      (.judged (fun m => .invalidNumber m.current.text m.current.position) hs hk ⟨rfl, rfl⟩)
    simp only [number, word_text ht, hv]
    rfl
  | some v =>
    refine .of_eq (q := fun m => m.advance >>= fun m => .ok (.literal v, m)) hs (fun t _ ht => ?_) ?_
    · simp only [number, word_text ht, hv]
      rfl
    · exact .advance hs hk fun _ _ => .done _

theorem Commits.named (hp : Commits p) (hs : s.Clear) (hk : s.current.kind = .identifier) : Settles (named p) s := by
  have hend : s.current.kind ≠ .endOfInput := by rw [hk]; decide
  -- The text of the name is the same in all streams that are compared, so it can be taken from this one.
  by_cases hname : bareName s.current.text = ""
  · refine .of_eq hs (fun t _ ht => ?_)
      (.judged (fun m => .unexpectedToken "variable name" m.current.text m.current.position) hs hend ?_)
    · simp only [Parser.named, word_text ht, hname, if_true]
      rfl
    · refine ⟨?_, rfl⟩
      simp only [Token.display, hk]
  · refine .of_eq (q := fun m => m.advance >>= fun m =>
      if bareName s.current.text = s.current.text ∧ m.current.kind = .leftParen then
        m.advance >>= fun m => Parser.items .rightParen "')'" p m >>= fun x =>
          bounded (.call (bareName s.current.text) x.1) >>= fun e => .ok (e, x.2)
      else path m.rest.length m >>= fun x => .ok (.variable (bareName s.current.text) x.1, x.2))
      hs (fun t _ ht => ?_) ?_
    · simp only [Parser.named, word_text ht, hname, if_false]
      rfl
    · refine .advance hs hend fun hm _ => .ite hm (fun t ht => by rw [word_kind ht]) (fun hcall => ?_) fun _ => ?_
      · refine .advance hm (by rw [hcall.2]; decide) fun {n} hn _ => .bind hn (hp.items (by decide) n hn) fun _ _ => ?_
        dsimp only
        exact .bounded (.done _)
      · refine .bind hm (path_settles _ hm (Nat.lt_succ_self _)) fun _ _ => ?_
        dsimp only
        exact .done _

theorem Commits.parenthesized (hp : Commits p) (hs : s.Clear) (hk : s.current.kind = .leftParen) :
    Settles (parenthesized p) s := by
  unfold Parser.parenthesized
  refine .advance hs (by rw [hk]; decide) fun {m} hm _ => .onKind hm (fun hclose => ?_) fun _ => ?_
  · exact .advance hm (by rw [hclose]; decide) fun _ _ => .done _
  · refine .bind hm (hp m hm) fun _ hw => ?_
    have hs' := hw.clear hm
    refine .onKind hs' (fun hcomma => ?_) fun _ => ?_
    · refine .advance hs' (by rw [hcomma]; decide) fun {n} hn _ => ?_
      exact .bind hn (hp.items (by decide) n hn) fun _ _ => .bounded (.done _)
    · exact .expect (f := fun _ m => .ok (_, m)) hs' (by decide) fun _ _ => .done _

theorem Commits.bracketed (hp : Commits p) (hs : s.Clear) (hk : s.current.kind = .leftBracket) :
    Settles (bracketed p) s := by
  refine .advance hs (by rw [hk]; decide) fun {m} hm _ => ?_
  exact .bind hm (hp.items (by decide) m hm) fun _ _ => .bounded (.done _)

theorem Commits.primary (hp : Commits p) : Commits (primary p) := fun s hs => by
  have hsame {q : Parser Expr} (hq : Settles q s)
      (h : ∀ t : Stream, t.current.kind = s.current.kind → t.current.text = s.current.text → Parser.primary p t = q t) :
      Settles (Parser.primary p) s := .of_eq hs (fun t _ ht => h t (word_kind ht) (word_text ht)) hq
  cases hk : s.current.kind with
  | leftParen => exact hsame (hp.parenthesized hs hk) fun t ht _ => by simp only [Parser.primary, ht, hk]
  | leftBracket => exact hsame (hp.bracketed hs hk) fun t ht _ => by simp only [Parser.primary, ht, hk]
  | string =>
    refine hsame (literal_settles (.string s.current.text) hs (by rw [hk]; decide)) fun t ht htext => ?_
    simp only [Parser.primary, ht, hk, htext]
  | number => exact hsame (number_settles hs (by rw [hk]; decide)) fun t ht _ => by simp only [Parser.primary, ht, hk]
  | identifier => exact hsame (hp.named hs hk) fun t ht _ => by simp only [Parser.primary, ht, hk]
  | keyword =>
    have hend : s.current.kind ≠ .endOfInput := by rw [hk]; decide
    by_cases htrue : s.current.text = "true"
    · refine hsame (literal_settles (.bool true) hs hend) fun t ht htext => ?_
      simp only [Parser.primary, ht, hk, htext, if_pos htrue]
    · by_cases hfalse : s.current.text = "false"
      · refine hsame (literal_settles (.bool false) hs hend) fun t ht htext => ?_
        simp only [Parser.primary, ht, hk, htext, if_neg htrue, if_pos hfalse]
      · refine hsame (.unexpected "expression") fun t ht htext => ?_
        simp only [Parser.primary, ht, hk, htext, if_neg htrue, if_neg hfalse, plain_refuse]
  | _ => exact hsame (.unexpected "expression") fun t ht _ => by simp only [Parser.primary, ht, hk, plain_refuse]

theorem Commits.operandWith (hp : Commits p) : Commits (operandWith p) := fun s hs => by
  refine .ite hs (fun t ht => by rw [is_iff, is_iff, ht]) (fun hnot => ?_) fun _ => hp.expressionOf.primary s hs
  have hk : s.current.kind = .operator := congrArg Word.kind ((is_iff _ _ _).mp hnot)
  refine .advance hs (by rw [hk]; decide) fun {m} hm _ => ?_
  exact .bind hm (hp m hm) fun _ _ => .bounded (.done _)

end combinators

theorem operand_commits : ∀ depth, Commits (operand depth)
  | 0 => fun _ _ => .tooDeep rfl
  | depth + 1 => (operand_commits depth).operandWith

/-! ## The whole text -/

/-- An expression with nothing but the end after it. -/
def ending : Parser Expr := fun s => do
  let (e, s) ← expression s
  if s.current.kind = .endOfInput then .ok (e, s) else .error (.trailingInput s.current.display s.current.position)

theorem ending_commits : Commits ending := fun s hs => by
  refine .bind hs ((operand_commits maxDepth).expressionOf s hs) fun _ hw => ?_
  refine .onKind (hw.clear hs) (fun _ => .done _) fun _ => ?_
  exact .error rfl (rfl : _ = [] ++ _ :: _) (List.forall_mem_nil _) ⟨rfl, rfl⟩ fun t _ => ⟨_, rfl⟩

theorem whole_eq {s : Stream} (hk : s.current.kind ≠ .error) : whole s = (ending s).map Prod.fst := by
  unfold whole wholeOf ending
  rw [if_neg hk]
  cases expression s with
  | error e => rfl
  | ok x =>
    show (if _ then _ else _) = Except.map Prod.fst (if _ then _ else _)
    split <;> rfl

theorem map_eq_error {ε α β : Type} {x : Except ε α} {f : α → β} {e : ε} : x.map f = .error e ↔ x = .error e := by
  cases x <;> simp [Except.map]

/-- A stream is refused for a token, at its end, or for its depth. -/
theorem whole_refused {s : Stream} (hs : s.Proper) {err : ParseError} (h : whole s = .error err) :
    (∃ before k others, s.tokens = before ++ k :: others ∧ err.IsAbout k ∧ (∀ u ∈ before, u.kind ≠ .error) ∧
      ∀ t, Starts ((before ++ [k]).map Token.word) t → ∃ err', whole t = .error err') ∨
    (∃ expected ws s', err = .unexpectedEnd expected ∧ s.Clear ∧ Passes s ws s' ∧ s'.current.kind = .endOfInput) ∨
    ∃ limit, err = .tooDeep limit := by
  by_cases hk : s.current.kind = .error
  · left
    have hfails {t : Stream} (ht : t.current.kind = .error) :
        whole t = .error (.lexical t.current.text t.current.position) := if_pos ht
    cases (hfails hk).symm.trans h
    refine ⟨[], s.current, s.rest, rfl, ⟨hk, rfl, rfl⟩, List.forall_mem_nil _, fun t ht => ⟨_, hfails ?_⟩⟩
    exact (word_kind ht.current).trans hk
  · have hclear : s.Clear := ⟨hs, hk⟩
    rw [whole_eq hk, map_eq_error] at h
    cases ending_commits s hclear with
    | ok h' => cases h'.symm.trans h
    | error h' htokens hbefore habout ht =>
      cases h'.symm.trans h
      refine .inl ⟨_, _, _, htokens, habout, hbefore, fun t hst => ?_⟩
      obtain ⟨err', herr⟩ := ht t hst
      obtain ⟨seen, hseen⟩ := front_of_tokens htokens
      have htk := ((hseen ▸ hst : Starts (_ :: seen) t).clear hk).current
      exact ⟨err', by rw [whole_eq htk, map_eq_error, herr]⟩
    | ended h' hw hend =>
      cases h'.symm.trans h
      exact .inr (.inl ⟨_, _, _, rfl, hclear, hw, hend⟩)
    | tooDeep h' =>
      cases h'.symm.trans h
      exact .inr (.inr ⟨_, rfl⟩)

end Parser

theorem ParseError.IsAbout.position? {err : ParseError} {k : Token} (h : err.IsAbout k) :
    err.position? = some k.position := by
  cases err with
  | lexical => exact congrArg some h.2.2
  | unexpectedToken | trailingInput | invalidNumber => exact congrArg some h.2
  | unexpectedEnd | tooDeep => exact h.elim

/-- **Errors are about the token at fault.** If a text is refused with an error that gives a place, the error is about a
token of the text and gives the place of that token; no token before it is an error token, and every text that begins
with the same words up to it is refused as well. If a text is refused for its end, it has no error token. -/
theorem parse_error_about {text : String} {err : ParseError} (h : Expr.parse text = .error err) :
    (∀ p, err.position? = some p → ∃ before k others, tokenize text = before ++ k :: others ∧ k.position = p ∧
      err.IsAbout k ∧ (∀ t ∈ before, t.kind ≠ .error) ∧
      ∀ other, (before ++ [k]).map Token.word <+: (tokenize other).map Token.word →
        ∃ err', Expr.parse other = .error err') ∧
    ∀ expected, err = .unexpectedEnd expected → ∀ t ∈ tokenize text, t.kind ≠ .error := by
  rw [Expr.parse_eq] at h
  obtain ⟨hproper, htokens, e, -, hto⟩ := Stream.ofText_passes text
  rcases Parser.whole_refused hproper h with ⟨before, k, others, hs, habout, hbefore, hstart⟩ |
    ⟨expected, ws, s', rfl, hclear, hw, hend⟩ | ⟨limit, rfl⟩
  · refine ⟨fun p hp => ⟨before, k, others, htokens.trans hs, ?_, habout, hbefore, fun other hother => ?_⟩, ?_⟩
    · exact Option.some.inj (habout.position?.symm.trans hp)
    · obtain ⟨hproper', htokens', -⟩ := Stream.ofText_passes other
      rw [htokens'] at hother
      rw [Expr.parse_eq]
      exact hstart _ ⟨hproper', hother⟩
    · rintro expected rfl
      exact habout.elim
  · refine ⟨nofun, fun _ _ => ?_⟩
    rw [htokens]
    exact List.forall_mem_cons.mpr ⟨hclear.current, (hto.mp ⟨hw, hend⟩).2.2⟩
  · exact ⟨nofun, nofun⟩

/-- The error is about the name that has no letters, though the token after it has been looked at. -/
theorem parse_error_about_sign : Expr.parse "a + $ b" = .error (.unexpectedToken "variable name" "$" ⟨1, 5⟩) ∧
    (∃ before k others, tokenize "a + $ b" = before ++ k :: others ∧ k.position = ⟨1, 5⟩ ∧
      (ParseError.unexpectedToken "variable name" "$" ⟨1, 5⟩).IsAbout k ∧ (∀ t ∈ before, t.kind ≠ .error) ∧
      ∀ other, (before ++ [k]).map Token.word <+: (tokenize other).map Token.word →
        ∃ err', Expr.parse other = .error err') ∧
    Expr.parse "a +" = .error (.unexpectedEnd "expression") ∧ ∀ t ∈ tokenize "a +", t.kind ≠ .error := by
  have hsign : Expr.parse "a + $ b" = .error (.unexpectedToken "variable name" "$" ⟨1, 5⟩) := rfl
  have hend : Expr.parse "a +" = .error (.unexpectedEnd "expression") := rfl
  exact ⟨hsign, (parse_error_about hsign).1 _ rfl, hend, (parse_error_about hend).2 _ rfl⟩

end Verdict
