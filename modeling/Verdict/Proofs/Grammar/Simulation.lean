import Verdict.Proofs.Grammar.Plain
import Verdict.Proofs.Token.Words
import Mathlib.Data.List.Forall2

/-!
# Parsers that do the same

The parser is written once for all monads that it may run in. Two runs of it are compared by a `Simulation`: a relation of
their trees, of their places and of what comes of them that holds for each step. Whatever is made of such steps then does
the same in both (`Simulation.Same.operandWith`).
-/

namespace Verdict

/-- Two nodes of one kind over related trees. -/
inductive Branch.Rel {τ σ : Type} (r : τ → σ → Prop) : Branch τ → Branch σ → Prop
  | not {a b} : r a b → Branch.Rel r (.not a) (.not b)
  | binary {op a b a' b'} : r a b → r a' b' → Branch.Rel r (.binary op a a') (.binary op b b')
  | list {as bs} : List.Forall₂ r as bs → Branch.Rel r (.list as) (.list bs)
  | call {f as bs} : List.Forall₂ r as bs → Branch.Rel r (.call f as) (.call f bs)

theorem Branch.Rel.eq {τ : Type} {b c : Branch τ} (h : Branch.Rel Eq b c) : b = c := by
  cases h with
  | not h => rw [h]
  | binary h h' => rw [h, h']
  | list h | call h => rw [(congrFun₂ List.forall₂_eq_eq_eq _ _).mp h]

/-- What the parser refuses a token for. -/
inductive Refusal where
  | lexical
  | unexpected (expected : String)
  | unnamed
  | valueless
  | trailing
  | tooDeep

def Refusal.error : Refusal → Stream → ParseError
  | .lexical, s => .lexical s.current.text s.current.position
  | .unexpected expected, s => s.unexpected expected
  | .unnamed, s => .unexpectedToken "variable name" s.current.text s.current.position
  | .valueless, s => .invalidNumber s.current.text s.current.position
  | .trailing, s => .trailingInput s.current.display s.current.position
  | .tooDeep, _ => .tooDeep Parser.maxDepth

/-- A relation of the trees of two parsers that holds for those without parts. -/
structure SameTrees (m n : Type → Type) {τ σ : Type} [Reading m τ] [Reading n σ] where
  Tree : τ → σ → Prop
  literal (v : Value) : Tree (Reading.literal m v) (Reading.literal n v)
  reference (name : String) (path : List String) : Tree (Reading.reference m name path) (Reading.reference n name path)

/-- A relation of places that have the same word, and as many words after it. -/
structure SamePlaces where
  Place : Stream → Stream → Prop
  word {s t : Stream} : Place s t → s.current.word = t.current.word
  length {s t : Stream} : Place s t → s.rest.length = t.rest.length

def SameTrees.equal (m : Type → Type) {τ : Type} [Reading m τ] : SameTrees m m where
  Tree := Eq
  literal _ := rfl
  reference _ _ := rfl

def SamePlaces.equal : SamePlaces where
  Place := Eq
  word h := congrArg (·.current.word) h
  length h := congrArg (·.rest.length) h

/-- Relations of the trees, the places and the runs of two parsers that hold for all that parsers are made of. -/
structure Simulation (m n : Type → Type) {τ σ : Type} [Reading m τ] [Reading n σ] extends SameTrees m n, SamePlaces where
  Run {α β : Type} : (α → β → Prop) → m α → n β → Prop
  done {α β : Type} {r : α → β → Prop} {a : α} {b : β} : r a b → Run r (pure a) (pure b)
  bind {α β α' β' : Type} {r : α → β → Prop} {r' : α' → β' → Prop} {x : m α} {y : n β} {f : α → m α'} {g : β → n β'} :
    Run r x y → (∀ a b, r a b → Run r' (f a) (g b)) → Run r' (x >>= f) (y >>= g)
  advance {s t : Stream} : Place s t → Run Place (Reading.advance s) (Reading.advance t)
  refuse {α β : Type} {s t : Stream} (r : α → β → Prop) (h : Place s t) (why : Refusal) :
    Run r (Reading.refuse (why.error s)) (Reading.refuse (why.error t))
  node {b c} : Branch.Rel Tree b c → Run Tree (Reading.node b) (Reading.node c)

/-- The function only looks at the word of a token. -/
def ReadsWord {α : Type} (f : Token → α) : Prop := ∀ t u : Token, t.word = u.word → f t = f u

section operators

open Verdict.Parser

theorem readsWord_is (kind : TokenKind) (text : String) : ReadsWord (Token.is · kind text) := fun t u h => by
  obtain ⟨hkind, htext⟩ := Word.mk.inj h
  simp only [Token.is, hkind, htext]

theorem readsWord_orOp? : ReadsWord orOp? := fun t u h => by simp only [orOp?, readsWord_is _ _ t u h]

theorem readsWord_andOp? : ReadsWord andOp? := fun t u h => by simp only [andOp?, readsWord_is _ _ t u h]

theorem readsWord_comparisonOp? : ReadsWord comparisonOp? := fun t u h => by
  obtain ⟨hkind, htext⟩ := Word.mk.inj h
  simp only [comparisonOp?, hkind, htext]

theorem readsWord_sumOp? : ReadsWord sumOp? := fun t u h => by simp only [sumOp?, readsWord_is _ _ t u h]

theorem readsWord_productOp? : ReadsWord productOp? := fun t u h => by simp only [productOp?, readsWord_is _ _ t u h]

end operators

namespace Simulation

variable {m n : Type → Type} {τ σ : Type} [Reading m τ] [Reading n σ] (S : Simulation m n)

/-- From related places the two parsers go on to related places, with related results. -/
def Same {α β : Type} (r : α → β → Prop) (p : ParserOf m α) (q : ParserOf n β) : Prop :=
  ∀ s t, S.Place s t → S.Run (fun x y => r x.1 y.1 ∧ S.Place x.2 y.2) (p s) (q t)

variable {S} {s t : Stream}

theorem kind (hst : S.Place s t) : s.current.kind = t.current.kind := congrArg Word.kind (S.word hst)

theorem text (hst : S.Place s t) : s.current.text = t.current.text := congrArg Word.text (S.word hst)

section steps

variable {α β α' β' : Type} {r : α → β → Prop} {r' : α' → β' → Prop}

theorem after_advance {f : Stream → m α} {g : Stream → n β} (h : ∀ s t, S.Place s t → S.Run r (f s) (g t))
    (hst : S.Place s t) : S.Run r (Reading.advance s >>= f) (Reading.advance t >>= g) :=
  S.bind (S.advance hst) h

theorem Same.andThen {p : ParserOf m α} {q : ParserOf n β} (h : S.Same r p q) {f : α × Stream → m α'}
    {g : β × Stream → n β'} (hf : ∀ a b s t, r a b → S.Place s t → S.Run r' (f (a, s)) (g (b, t)))
    (hst : S.Place s t) : S.Run r' (p s >>= f) (q t >>= g) :=
  S.bind (h s t hst) fun x y hxy => hf x.1 y.1 x.2 y.2 hxy.1 hxy.2

theorem branch {c d : Prop} [Decidable c] [Decidable d] (hcd : c ↔ d) {x x' : m α} {y y' : n β} (h : S.Run r x y)
    (h' : S.Run r x' y') : S.Run r (if c then x else x') (if d then y else y') := by
  by_cases hc : c
  · rw [if_pos hc, if_pos (hcd.mp hc)]
    exact h
  · rw [if_neg hc, if_neg (mt hcd.mpr hc)]
    exact h'

theorem branch_kind (hst : S.Place s t) (kind : TokenKind) {x x' : m α} {y y' : n β} (h : S.Run r x y)
    (h' : S.Run r x' y') :
    S.Run r (if s.current.kind = kind then x else x') (if t.current.kind = kind then y else y') :=
  branch (by rw [S.kind hst]) h h'

theorem expect (kind : TokenKind) (expected : String) :
    S.Same (fun a b => a.word = b.word) (Parser.expect kind expected) (Parser.expect kind expected) := fun _ _ hst =>
  branch_kind hst kind (after_advance (fun _ _ h => S.done ⟨S.word hst, h⟩) hst) (S.refuse _ hst (.unexpected expected))

end steps

/-! ## Parsers made of others -/

section combinators

variable {op? : Token → Option BinaryOp} {p : ParserOf m τ} {q : ParserOf n σ} {close : TokenKind} {closeName : String}

theorem Same.chainFrom (hop : ReadsWord op?) (h : S.Same S.Tree p q) (fuel : Nat) : ∀ {a b}, S.Tree a b →
    S.Same S.Tree (Parser.chainFrom op? p fuel a) (Parser.chainFrom op? q fuel b) := by
  induction fuel with
  | zero => exact fun hab s t hst => S.done ⟨hab, hst⟩
  | succ fuel ih =>
    intro a b hab s t hst
    unfold Parser.chainFrom
    rw [hop s.current t.current (S.word hst)]
    cases op? t.current with
    | none => exact S.done ⟨hab, hst⟩
    | some op =>
      refine after_advance (fun s t => h.andThen fun c d s t hcd hst => ?_) hst
      exact S.bind (S.node (.binary hab hcd)) fun e e' he => ih he s t hst

theorem Same.chain (hop : ReadsWord op?) (h : S.Same S.Tree p q) :
    S.Same S.Tree (Parser.chain op? p) (Parser.chain op? q) := fun s t =>
  h.andThen fun a b s t hab hst => by
    dsimp only
    rw [S.length hst]
    exact h.chainFrom hop t.rest.length hab s t hst

theorem node_last {b : Branch τ} {c : Branch σ} (h : Branch.Rel S.Tree b c) (hst : S.Place s t) :
    S.Run (fun x y => S.Tree x.1 y.1 ∧ S.Place x.2 y.2) (do let e ← Reading.node b; return (e, s))
      (do let e ← Reading.node c; return (e, t)) :=
  S.bind (S.node h) fun _ _ he => S.done ⟨he, hst⟩

theorem Same.single (hop : ReadsWord op?) (h : S.Same S.Tree p q) :
    S.Same S.Tree (Parser.single op? p) (Parser.single op? q) := fun s t =>
  h.andThen fun a b s t hab hst => by
    dsimp only
    rw [hop s.current t.current (S.word hst)]
    cases op? t.current with
    | none => exact S.done ⟨hab, hst⟩
    | some op => exact after_advance (fun s t => h.andThen fun c d s t hcd => node_last (.binary hab hcd)) hst

theorem Same.expressionOf (h : S.Same S.Tree p q) :
    S.Same S.Tree (Parser.expressionOf p) (Parser.expressionOf q) :=
  ((((h.chain readsWord_productOp?).chain readsWord_sumOp?).single readsWord_comparisonOp?).chain
    readsWord_andOp?).chain readsWord_orOp?

theorem Same.itemsUpTo (h : S.Same S.Tree p q) (fuel : Nat) :
    S.Same (List.Forall₂ S.Tree) (Parser.itemsUpTo close closeName p fuel)
      (Parser.itemsUpTo close closeName q fuel) := by
  induction fuel with
  | zero => exact fun s t hst => S.refuse _ hst (.unexpected closeName)
  | succ fuel ih =>
    intro s t hst
    refine branch_kind hst close (after_advance (fun _ _ h => S.done ⟨.nil, h⟩) hst) (h.andThen ?_ hst)
    intro a b s t hab hst
    refine branch_kind hst .comma (after_advance ?_ hst) (branch_kind hst close (after_advance ?_ hst) ?_)
    · exact fun s t => ih.andThen fun as bs s t habs hst => S.done ⟨.cons hab habs, hst⟩
    · exact fun s t hst => S.done ⟨.cons hab .nil, hst⟩
    · exact S.refuse _ hst (.unexpected _)

theorem Same.items (h : S.Same S.Tree p q) :
    S.Same (List.Forall₂ S.Tree) (Parser.items close closeName p) (Parser.items close closeName q) := fun s t hst => by
  unfold Parser.items
  rw [S.length hst]
  exact h.itemsUpTo _ s t hst

theorem literal_same (v : Value) : S.Same S.Tree (Parser.literal v) (Parser.literal v) := fun _ _ =>
  after_advance fun _ _ h => S.done ⟨S.literal v, h⟩

theorem number_same : S.Same S.Tree Parser.number Parser.number := fun s t hst =>
  after_advance (fun s' t' h => by
    have hvalue : Parser.numberValue? s.current.text.toList = Parser.numberValue? t.current.text.toList := by
      rw [S.text hst]
    rw [hvalue]
    cases Parser.numberValue? t.current.text.toList with
    | none => exact S.refuse _ hst .valueless
    | some v => exact S.done ⟨S.literal v, h⟩) hst

theorem path_same (fuel : Nat) : S.Same Eq (Parser.path fuel) (Parser.path fuel) := by
  induction fuel with
  | zero => exact fun s t hst => S.done ⟨rfl, hst⟩
  | succ fuel ih =>
    intro s t hst
    refine branch_kind hst .dot (after_advance (fun s t => (expect _ _).andThen ?_) hst) (S.done ⟨rfl, hst⟩)
    intro field field' s t hfield hst
    refine ih.andThen ?_ hst
    rintro fields _ s t rfl hst
    exact S.done ⟨congrArg (· :: fields) (congrArg Word.text hfield), hst⟩

theorem Same.parenthesized (h : S.Same S.Tree p q) :
    S.Same S.Tree (Parser.parenthesized p) (Parser.parenthesized q) := fun s t =>
  after_advance fun s t hst => by
    refine branch_kind hst .rightParen (after_advance (fun s t => node_last (.list .nil)) hst) (h.andThen ?_ hst)
    intro a b s t hab hst
    refine branch_kind hst .comma (after_advance (fun s t => h.items.andThen ?_) hst) ((expect _ _).andThen ?_ hst)
    · exact fun as bs s t habs => node_last (.list (.cons hab habs))
    · exact fun _ _ s t _ hst => S.done ⟨hab, hst⟩

theorem Same.bracketed (h : S.Same S.Tree p q) : S.Same S.Tree (Parser.bracketed p) (Parser.bracketed q) := fun _ _ =>
  after_advance fun _ _ => h.items.andThen fun _ _ _ _ habs => node_last (.list habs)

theorem Same.named (h : S.Same S.Tree p q) : S.Same S.Tree (Parser.named p) (Parser.named q) := fun s t hst =>
  after_advance (fun s' t' hst' => by
    have htext := S.text hst
    dsimp only
    refine branch (by rw [htext]) (S.refuse _ hst .unnamed) ?_
    rw [htext]
    refine branch (by rw [S.kind hst']) (after_advance (fun s t => h.items.andThen ?_) hst') ?_
    · exact fun _ _ _ _ habs => node_last (.call habs)
    · rw [S.length hst']
      refine (path_same _).andThen ?_ hst'
      rintro fields _ s t rfl hst
      exact S.done ⟨S.reference _ fields, hst⟩) hst

theorem Same.primary (h : S.Same S.Tree p q) : S.Same S.Tree (Parser.primary p) (Parser.primary q) := fun s t hst => by
  have htext := S.text hst
  unfold Parser.primary
  rw [S.kind hst]
  split
  · exact h.parenthesized s t hst
  · exact h.bracketed s t hst
  · rw [htext]
    exact literal_same _ s t hst
  · exact number_same s t hst
  · exact h.named s t hst
  · refine branch (by rw [htext]) (literal_same _ s t hst) (branch (by rw [htext]) (literal_same _ s t hst) ?_)
    exact S.refuse _ hst (.unexpected _)
  · exact S.refuse _ hst (.unexpected _)

/-- **An operand is read alike** if the operands in it are. -/
theorem Same.operandWith (h : S.Same S.Tree p q) : S.Same S.Tree (Parser.operandWith p) (Parser.operandWith q) :=
  fun s t hst => by
    have hnot : s.current.is .operator notSymbol = t.current.is .operator notSymbol := readsWord_is _ _ _ _ (S.word hst)
    refine branch (by rw [hnot]) ?_ (h.expressionOf.primary s t hst)
    exact after_advance (fun s t => h.andThen fun _ _ s t hab => node_last (.not hab)) hst

/-- Operands of any depth are read alike if nothing is done around them in either run, or what is done keeps them alike. -/
theorem operand_same (hinside : ∀ {α β : Type} {r : α → β → Prop} {x : m α} {y : n β}, S.Run r x y →
      S.Run r (Reading.inside x) (Reading.inside y)) (depth : Nat) :
    S.Same S.Tree (Parser.operand depth) (Parser.operand depth) := by
  induction depth with
  | zero => exact fun s t hst => S.refuse _ hst .tooDeep
  | succ depth ih => exact fun s t hst => hinside (ih.operandWith s t hst)

theorem Same.wholeOf (h : S.Same S.Tree p q) (hst : S.Place s t) :
    S.Run S.Tree (Parser.wholeOf p s) (Parser.wholeOf q t) := by
  refine branch_kind hst .error (S.refuse _ hst .lexical) (h.andThen (fun a b s t hab hst => ?_) hst)
  exact branch_kind hst .endOfInput (S.done hab) (S.refuse _ hst .trailing)

end combinators

end Simulation

/-! ## Results -/

/-- Two results that are related, or two errors that are. -/
inductive Agree {ε ε' α β : Type} (c : ε → ε' → Prop) (r : α → β → Prop) : Except ε α → Except ε' β → Prop
  | ok {a b} : r a b → Agree c r (.ok a) (.ok b)
  | error {e e'} : c e e' → Agree c r (.error e) (.error e')

namespace Agree

variable {ε ε' α β α' β' : Type} {c : ε → ε → Prop} {r : α → β → Prop} {r' : α' → β' → Prop} {x : Except ε α}
  {y : Except ε β}

theorem bind {f : α → Except ε α'} {g : β → Except ε β'} (h : Agree c r x y) (hf : ∀ a b, r a b → Agree c r' (f a) (g b)) :
    Agree c r' (x >>= f) (y >>= g) := by
  cases h with
  | ok hr => exact hf _ _ hr
  | error he => exact .error he

theorem mono {c' : ε → ε → Prop} {r' : α → β → Prop} (h : Agree c r x y) (hc : ∀ e e', c e e' → c' e e')
    (hr : ∀ a b, r a b → r' a b) : Agree c' r' x y := by
  cases h with
  | ok h => exact .ok (hr _ _ h)
  | error he => exact .error (hc _ _ he)

theorem map {r' : α' → β → Prop} {f : α → α'} (h : Agree c r x y) (hf : ∀ a b, r a b → r' (f a) b) :
    Agree c r' (x.map f) y := by
  cases h with
  | ok hr => exact .ok (hf _ _ hr)
  | error he => exact .error he

theorem map₂ {r' : α' → β' → Prop} {f : α → α'} {g : β → β'} (h : Agree c r x y) (hf : ∀ a b, r a b → r' (f a) (g b)) :
    Agree c r' (x.map f) (y.map g) := by
  cases h with
  | ok hr => exact .ok (hf _ _ hr)
  | error he => exact .error he

theorem map_eq {f : α → β} (h : Agree Eq (fun a b => f a = b) x y) : x.map f = y := by
  cases h with
  | ok hr => exact congrArg _ hr
  | error he => exact congrArg _ he

theorem mapError_eq {f : ε → ε'} {y : Except ε α} (h : Agree (fun e e' => f e = f e') Eq x y) :
    x.mapError f = y.mapError f := by
  cases h with
  | ok hr => rw [hr]
  | error he => exact congrArg Except.error he

theorem eq {y : Except ε α} (h : Agree Eq Eq x y) : x = y := by
  cases h with
  | ok hr => exact congrArg _ hr
  | error he => exact congrArg _ he

theorem refl (x : Except ε α) : Agree Eq Eq x x := by
  cases x with
  | ok a => exact .ok rfl
  | error e => exact .error rfl

end Agree

end Verdict
