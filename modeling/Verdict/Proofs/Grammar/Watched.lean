import Verdict.Proofs.Grammar.Refusals
import Verdict.Proofs.Token.Numerals

/-!
# The parser, watched

The parser in a monad that keeps the tokens from which it has gone on, also where it fails. It has the results of the
parser without that (`Watched.erasing`), goes on from the tokens of the text in their order and never from the end of the
text, and does not meet a number without a value (`Watched.Tells`). All parsers have that from those they are made of.
-/

namespace Verdict

/-- A run of a parser: the tokens from which it has gone on, and what came of it. -/
structure Watched (α : Type) where
  passed : List Token
  result : Except ParseError α

namespace Watched

instance : Monad Watched where
  pure a := ⟨[], .ok a⟩
  bind x f :=
    match x.result with
    | .ok a => ⟨x.passed ++ (f a).passed, (f a).result⟩
    | .error e => ⟨x.passed, .error e⟩

instance : Reading Watched Expr where
  advance s := ⟨[s.current], s.advance⟩
  refuse e := ⟨[], .error e⟩
  inside := id
  literal := .literal
  reference := .variable
  node b := ⟨[], Parser.bounded b.expr⟩

/-- A parser that is watched. -/
abbrev Watch (α : Type) := ParserOf Watched α

/-- An expression of the whole grammar. -/
def expression : Watch Expr := Parser.expressionOf (Parser.operand Parser.maxDepth)

/-- Reads a text as an expression, and tells from which tokens it has gone on. -/
def parse (text : String) : Watched Expr := Parser.wholeOf expression (Stream.ofText text)

section bind

variable {α β : Type}

theorem bind_result (run : Watched α) (f : α → Watched β) :
    (run >>= f).result = run.result >>= fun a => (f a).result := by
  obtain ⟨passed, result⟩ := run
  cases result <;> rfl

theorem bind_passed (run : Watched α) {f : α → Watched β} (hf : ∀ a, (f a).passed = []) :
    (run >>= f).passed = run.passed := by
  obtain ⟨passed, result⟩ := run
  cases result with
  | error e => rfl
  | ok a => exact (congrArg _ (hf a)).trans (List.append_nil _)

end bind

/-! ## Unwatched -/

/-- Watched or not, the parser does the same. -/
def erasing : Simulation Watched (Except ParseError) where
  toSamePlaces := .equal
  Tree := Eq
  Run r x y := Agree Eq r x.result y
  done h := .ok h
  bind hx hf := by
    rw [bind_result]
    exact hx.bind hf
  advance h := h ▸ .refl _
  refuse _ h why := .error (congrArg why.error h)
  literal _ := rfl
  reference _ _ := rfl
  node h := h.eq ▸ .refl _

/-- What the parser on the right does is what the one on the left does, unwatched. -/
def Erases {α : Type} (w : Watch α) (p : Parser α) : Prop := erasing.Same Eq w p

theorem Erases.result {α : Type} {w : Watch α} {p : Parser α} (h : Erases w p) (s : Stream) : (w s).result = p s :=
  ((h s s rfl).mono (fun _ _ => id) fun _ _ hxy => Prod.ext hxy.1 hxy.2).eq

theorem operand_erases (depth : Nat) : Erases (Parser.operand depth) (Parser.operand depth) :=
  Simulation.operand_same (S := erasing) (fun h => h) depth

theorem parse_result (text : String) : (parse text).result = Expr.parse text := by
  rw [Expr.parse_eq]
  exact ((operand_erases Parser.maxDepth).expressionOf.wholeOf rfl).eq

/-! ## What a run tells -/

open Verdict.Stream Verdict.Grammar Verdict.Parser

/-- The run has gone on from tokens at the front of the stream, none of them the end of the text; where it has read
something, what is left begins behind them. No number was met that has no value. -/
structure Tells {α : Type} (run : Watched (α × Stream)) (s : Stream) : Prop where
  front : run.passed <+: s.tokens
  within : ∀ t ∈ run.passed, t.kind ≠ .endOfInput
  left : ∀ a s', run.result = .ok (a, s') → s'.Clear ∧ s.tokens = run.passed ++ s'.tokens
  valued : ∀ text p, run.result ≠ .error (.invalidNumber text p)

/-- The runs of the parser tell that, wherever it stands. -/
def Telling {α : Type} (w : Watch α) : Prop := ∀ s, s.Clear → Tells (w s) s

section tells

variable {α β : Type} {s : Stream}

theorem Tells.done (hs : s.Clear) (a : α) : Tells (pure (a, s)) s where
  front := List.nil_prefix
  within := List.forall_mem_nil _
  left := by
    rintro _ _ ⟨⟩
    exact ⟨hs, rfl⟩
  valued := nofun

theorem Tells.refused {e : ParseError} (h : ∀ text p, e ≠ .invalidNumber text p) :
    Tells (Reading.refuse e : Watched (α × Stream)) s where
  front := List.nil_prefix
  within := List.forall_mem_nil _
  left := nofun
  valued text p heq := h text p (Except.error.inj heq)

theorem Tells.unexpected (expected : String) : Tells (Reading.refuse (s.unexpected expected) : Watched (α × Stream)) s :=
  .refused fun text p => by
    unfold Stream.unexpected
    split <;> nofun

theorem Tells.bind {w : Watched (α × Stream)} {f : α × Stream → Watched (β × Stream)} (h : Tells w s)
    (hf : ∀ a s', s'.Clear → Tells (f (a, s')) s') : Tells (w >>= f) s := by
  obtain ⟨hfront, hwithin, hleft, hvalued⟩ := h
  obtain ⟨passed, result⟩ := w
  cases result with
  | error e => exact ⟨hfront, hwithin, nofun, fun text p h => hvalued text p (congrArg _ (Except.error.inj h))⟩
  | ok x =>
    obtain ⟨a, s'⟩ := x
    obtain ⟨hs', htokens⟩ := hleft a s' rfl
    obtain ⟨hfront', hwithin', hleft', hvalued'⟩ := hf a s' hs'
    refine ⟨?_, List.forall_mem_append.mpr ⟨hwithin, hwithin'⟩, fun b s'' h => ?_, hvalued'⟩
    · rw [htokens]
      exact (List.prefix_append_right_inj passed).mpr hfront'
    · obtain ⟨hs'', htokens'⟩ := hleft' b s'' h
      refine ⟨hs'', ?_⟩
      rw [htokens, htokens']
      exact (List.append_assoc ..).symm

theorem Tells.advance {f : Stream → Watched (β × Stream)} (hs : s.Clear) (hk : s.current.kind ≠ .endOfInput)
    (hf : ∀ m, m.Clear → Tells (f m) m) : Tells (Reading.advance s >>= f) s := by
  -- An advance alone is a run that reads nothing, and the rest is bound to it.
  have hstep : Tells (⟨[s.current], s.advance.map fun m => ((), m)⟩ : Watched (Unit × Stream)) s := by
    refine ⟨⟨s.rest, rfl⟩, List.forall_mem_singleton.mpr hk, fun _ m h => ?_, fun text p h => ?_⟩
    · obtain ⟨m', hm', heq⟩ := map_eq_ok.mp h
      cases heq
      refine ⟨(hs.advance hk hm').1, ?_⟩
      cases passes_of_advance hs.proper hk hm' with
      | step _ _ h =>
        cases h
        rfl
    · change s.advance.map _ = _ at h
      unfold Stream.advance at h
      split at h
      · cases h
      · split at h <;> cases h
  have hbind := hstep.bind (f := fun x => f x.2) fun _ m hm => hf m hm
  have heq : (Reading.advance s : Watched Stream) = ⟨[s.current], s.advance⟩ := rfl
  revert hbind
  rw [heq]
  cases s.advance <;> exact id

theorem Tells.node {b : Branch Expr} {f : Expr → Watched (β × Stream)} (h : Tells (f b.expr) s) :
    Tells (Reading.node b >>= f) s := by
  have heq : (Reading.node b : Watched Expr) = ⟨[], bounded b.expr⟩ := rfl
  rw [heq]
  unfold bounded
  split
  · exact h
  · exact Tells.refused nofun

theorem Tells.expect (hs : s.Clear) {kind : TokenKind} (hkind : kind ≠ .endOfInput) (expected : String) :
    Tells (expect kind expected s : Watched (Token × Stream)) s := by
  unfold Parser.expect
  split
  · next h => exact .advance hs (h ▸ hkind) fun m hm => .done hm s.current
  · exact .unexpected expected

theorem Tells.ite {c : Prop} [Decidable c] {w w' : Watched (α × Stream)} (h : c → Tells w s) (h' : ¬ c → Tells w' s) :
    Tells (if c then w else w') s := by
  split
  · next hc => exact h hc
  · next hc => exact h' hc

end tells

/-! ## Parsers made of others -/

section combinators

variable {op? : Token → Option BinaryOp} {operators : Operators} {w : Watch Expr} {close : TokenKind}
  {closeName : String}

theorem Telling.chainFrom (hf : Finds op? operators) (h : Telling w) (fuel : Nat) :
    ∀ left, Telling (chainFrom op? w fuel left) := by
  induction fuel with
  | zero => exact fun left s hs => .done hs left
  | succ fuel ih =>
    intro left s hs
    unfold Parser.chainFrom
    cases hop : op? s.current with
    | none => exact .done hs left
    | some op =>
      refine .advance hs (hf.current_ne hs hop) fun m hm => .bind (h m hm) fun r n hn => ?_
      exact .node (ih _ n hn)

theorem Telling.chain (hf : Finds op? operators) (h : Telling w) : Telling (chain op? w) := fun s hs =>
  .bind (h s hs) fun left m hm => h.chainFrom hf _ left m hm

theorem Telling.single (hf : Finds op? operators) (h : Telling w) : Telling (single op? w) := fun s hs =>
  .bind (h s hs) fun left m hm => by
    dsimp only
    cases hop : op? m.current with
    | none => exact .done hm left
    | some op =>
      refine .advance hm (hf.current_ne hm hop) fun n hn => .bind (h n hn) fun r n' hn' => ?_
      exact .node (.done hn' _)

theorem Telling.expressionOf (h : Telling w) : Telling (expressionOf w) :=
  ((((h.chain products_found).chain sums_found).single comparisons_found).chain conjunctions_found).chain
    disjunctions_found

theorem Telling.itemsUpTo (h : Telling w) (hclose : close ≠ .endOfInput) (fuel : Nat) :
    Telling (itemsUpTo close closeName w fuel) := by
  induction fuel with
  | zero => exact fun s _ => .unexpected closeName
  | succ fuel ih =>
    intro s hs
    refine .ite (fun hk => .advance hs (hk ▸ hclose) fun m hm => .done hm _) fun _ => .bind (h s hs) fun e m hm => ?_
    refine .ite (fun hk => ?_) fun _ => .ite (fun hk => ?_) fun _ => .unexpected _
    · exact .advance hm (by rw [hk]; decide) fun n hn => .bind (ih n hn) fun es n' hn' => .done hn' _
    · exact .advance hm (hk ▸ hclose) fun n hn => .done hn _

theorem Telling.items (h : Telling w) (hclose : close ≠ .endOfInput) : Telling (items close closeName w) := fun s hs =>
  h.itemsUpTo hclose _ s hs

theorem path_telling (fuel : Nat) : Telling (path fuel) := by
  induction fuel with
  | zero => exact fun s hs => .done hs []
  | succ fuel ih =>
    intro s hs
    refine .ite (fun hk => ?_) fun _ => .done hs []
    refine .advance hs (by rw [hk]; decide) fun m hm => .bind (.expect hm (by decide) _) fun field n hn => ?_
    exact .bind (ih n hn) fun fields n' hn' => .done hn' _

variable {s : Stream}

theorem tells_literal (hs : s.Clear) (hk : s.current.kind ≠ .endOfInput) (v : Value) :
    Tells (literal v s : Watched (Expr × Stream)) s := .advance hs hk fun _ hm => .done hm _

/-- The token of a number is one that the lexer has cut off, so it has a value. -/
theorem tells_number (hs : s.Clear) (hk : s.current.kind = .number) : Tells (number s : Watched (Expr × Stream)) s :=
  .advance hs (by rw [hk]; decide) fun m hm => by
    have hnumeral : Word.IsNumeral s.current.text := by
      simpa only [Word.Genuine, Token.word, hk] using hs.proper.current_genuine
    obtain ⟨v, hv⟩ := Option.isSome_iff_exists.mp (numberValue?_isSome hnumeral)
    rw [hv]
    exact .done hm _

theorem Telling.named (h : Telling w) (hs : s.Clear) (hk : s.current.kind = .identifier) : Tells (named w s) s := by
  refine .advance hs (by rw [hk]; decide) fun m hm => .ite (fun _ => .refused nofun) fun _ => ?_
  refine .ite (fun hcall => ?_) fun _ => .bind (path_telling _ m hm) fun fields n hn => .done hn _
  refine .advance hm (by rw [hcall.2]; decide) fun n hn => ?_
  exact .bind (h.items (by decide) n hn) fun args n' hn' => .node (.done hn' _)

theorem Telling.parenthesized (h : Telling w) (hs : s.Clear) (hk : s.current.kind = .leftParen) :
    Tells (parenthesized w s) s := by
  refine .advance hs (by rw [hk]; decide) fun m hm => .ite (fun hclose => ?_) fun _ => ?_
  · exact .advance hm (by rw [hclose]; decide) fun n hn => .node (.done hn _)
  refine .bind (h m hm) fun first n hn => .ite (fun hcomma => ?_) fun _ => ?_
  · refine .advance hn (by rw [hcomma]; decide) fun n' hn' => ?_
    exact .bind (h.items (by decide) n' hn') fun others n'' hn'' => .node (.done hn'' _)
  · exact .bind (.expect hn (by decide) _) fun _ n' hn' => .done hn' _

theorem Telling.bracketed (h : Telling w) (hs : s.Clear) (hk : s.current.kind = .leftBracket) :
    Tells (bracketed w s) s :=
  .advance hs (by rw [hk]; decide) fun m hm => .bind (h.items (by decide) m hm) fun _ n hn => .node (.done hn _)

theorem Telling.primary (h : Telling w) : Telling (primary w) := by
  intro s hs
  unfold Parser.primary
  cases hk : s.current.kind with
  | leftParen => exact h.parenthesized hs hk
  | leftBracket => exact h.bracketed hs hk
  | string => exact tells_literal hs (by rw [hk]; decide) _
  | number => exact tells_number hs hk
  | identifier => exact h.named hs hk
  | keyword =>
    have hend : s.current.kind ≠ .endOfInput := by rw [hk]; decide
    exact .ite (fun _ => tells_literal hs hend _) fun _ => .ite (fun _ => tells_literal hs hend _) fun _ => .unexpected _
  | _ => exact .unexpected _

theorem Telling.operandWith (h : Telling w) : Telling (operandWith w) := fun s hs =>
  .ite (fun hnot => by
    have hk : s.current.kind = .operator := congrArg Word.kind ((is_iff _ _ _).mp hnot)
    exact .advance hs (by rw [hk]; decide) fun m hm => .bind (h m hm) fun e n hn => .node (.done hn _))
  fun _ => h.expressionOf.primary s hs

theorem operand_telling (depth : Nat) : Telling (operand depth) := by
  induction depth with
  | zero => exact fun s _ => .refused nofun
  | succ depth ih => exact fun s hs => ih.operandWith s hs

end combinators

/-! ## Runs that take a token -/

/-- Where something is read, the run has gone on from a token. -/
def Takes {α : Type} (run : Watched α) : Prop := ∀ a, run.result = .ok a → run.passed ≠ []

section takes

variable {α β : Type} {s : Stream}

theorem Takes.bind {run : Watched α} (h : Takes run) (f : α → Watched β) : Takes (run >>= f) := by
  intro b hb
  obtain ⟨passed, result⟩ := run
  cases result with
  | error e => cases hb
  | ok a => exact List.append_ne_nil_of_left_ne_nil (h a rfl) _

theorem takes_advance (s : Stream) (f : Stream → Watched β) : Takes (Reading.advance s >>= f) :=
  Takes.bind (fun _ _ => List.cons_ne_nil _ _) f

theorem takes_refuse (e : ParseError) : Takes (Reading.refuse e : Watched α) := nofun

theorem Takes.ite {c : Prop} [Decidable c] {run run' : Watched α} (h : Takes run) (h' : Takes run') :
    Takes (if c then run else run') := by
  split
  · exact h
  · exact h'

theorem primary_takes (w : Watch Expr) (s : Stream) : Takes (primary w s) := by
  unfold Parser.primary
  split
  · exact takes_advance s _
  · exact takes_advance s _
  · exact takes_advance s _
  · exact takes_advance s _
  · exact takes_advance s _
  · exact .ite (takes_advance s _) (.ite (takes_advance s _) (takes_refuse _))
  · exact takes_refuse _

theorem operand_takes (depth : Nat) (s : Stream) : Takes (operand depth s) := by
  cases depth with
  | zero => exact takes_refuse _
  | succ depth => exact .ite (takes_advance s _) (primary_takes _ s)

end takes

/-! ## Whole texts -/

theorem whole_passed {s : Stream} (hk : s.current.kind ≠ .error) :
    (wholeOf expression s).passed = (expression s).passed := by
  unfold wholeOf
  rw [if_neg hk]
  refine bind_passed _ fun x => ?_
  dsimp only
  split <;> rfl

theorem whole_valued {s : Stream} (hs : s.Proper) (text : String) (p : Position) :
    (wholeOf expression s).result ≠ .error (.invalidNumber text p) := by
  intro h
  unfold wholeOf at h
  split at h
  · cases h
  · next hk =>
    have hvalued := ((operand_telling maxDepth).expressionOf s ⟨hs, hk⟩).valued text p
    rw [bind_result] at h
    cases hx : (expression s).result with
    | error e =>
      rw [hx] at h
      exact hvalued (hx.trans (congrArg _ (Except.error.inj h)))
    | ok x =>
      rw [hx] at h
      change (if x.2.current.kind = .endOfInput then _ else _ : Watched Expr).result = _ at h
      split at h <;> cases h

theorem parse_tells (text : String) : (parse text).result = Expr.parse text ∧
    (parse text).passed <+: tokenize text ∧ (∀ t ∈ (parse text).passed, t.kind ≠ .endOfInput) ∧
    ∀ literal p, Expr.parse text ≠ .error (.invalidNumber literal p) := by
  obtain ⟨hproper, htokens, -⟩ := Stream.ofText_passes text
  refine ⟨parse_result text, ?_⟩
  rw [htokens, ← parse_result]
  by_cases hk : (Stream.ofText text).current.kind = .error
  · have hpassed : (parse text).passed = [] := by rw [parse, wholeOf, if_pos hk]; rfl
    rw [hpassed]
    exact ⟨List.nil_prefix, List.forall_mem_nil _, whole_valued hproper⟩
  · obtain ⟨hfront, hwithin, -, -⟩ := (operand_telling maxDepth).expressionOf _ ⟨hproper, hk⟩
    rw [parse, whole_passed hk]
    exact ⟨hfront, hwithin, whole_valued hproper⟩

end Watched

end Verdict
