import Verdict.Expr.Parser
import Verdict.Proofs.Token.Words

/-!
# The grammar of expressions

What rows of words are expressions, and the tree of each. A sort of phrases is a relation between the words of a
phrase and what they say; a level of the grammar makes its phrases out of those of the level below it. Operands
hold expressions again, so `Operand n` counts how deep operands may lie in each other: the grammar without a limit is
all of these together.
-/

namespace Verdict.Grammar

/-- The phrases of a sort, each with what it says. -/
abbrev Phrase (α : Type) := List Word → α → Prop

/-! ## Operators -/

def sign (text : String) : Word := ⟨.operator, text⟩

def name (text : String) : Word := ⟨.identifier, text⟩

def keyword (text : String) : Word := ⟨.keyword, text⟩

/-- The operators of a level and the words they are written as. -/
abbrev Operators := List (Word × BinaryOp)

def disjunctions : Operators := [(sign "||", .or), (name "xor", .xor)]

def conjunctions : Operators := [(sign "&&", .and)]

/-- Equality is written in two ways; the words are operators only here, between operands. -/
def comparisons : Operators :=
  [(sign "=", .eq), (sign "==", .eq), (sign "!=", .ne), (sign "<", .lt), (sign "<=", .le), (sign ">", .gt),
    (sign ">=", .ge), (keyword "in", .within), (name "contains", .contains), (name "startsWith", .startsWith),
    (name "endsWith", .endsWith), (name "matches", .matching)]

def sums : Operators := [(sign "+", .add), (sign "-", .sub)]

def products : Operators := [(sign "*", .mul), (sign "/", .div), (sign "%", .mod), (sign "**", .pow)]

/-- `operand (operator operand)*`, grouped to the left. -/
inductive Chain (operators : Operators) (operand : Phrase Expr) : Phrase Expr
  | one {ws e} : operand ws e → Chain operators operand ws e
  | more {ws vs w op l r} : Chain operators operand ws l → (w, op) ∈ operators → operand vs r →
      Chain operators operand (ws ++ w :: vs) (.binary op l r)

/-- `operand (operator operand)?` -/
inductive Single (operators : Operators) (operand : Phrase Expr) : Phrase Expr
  | one {ws e} : operand ws e → Single operators operand ws e
  | two {ws vs w op l r} : operand ws l → (w, op) ∈ operators → operand vs r →
      Single operators operand (ws ++ w :: vs) (.binary op l r)

/-! ## Lists and paths -/

/-- `(item (',' item)* ','?)?` -/
inductive Items (item : Phrase Expr) : Phrase (List Expr)
  | none : Items item [] []
  | last {ws e} : item ws e → Items item ws [e]
  | more {ws vs c e es} : item ws e → c.kind = .comma → Items item vs es → Items item (ws ++ c :: vs) (e :: es)

/-- `('.' identifier)*` -/
inductive Path : Phrase (List String)
  | none : Path [] []
  | field {d f ws fs} : d.kind = .dot → Path ws fs → Path (d :: name f :: ws) (f :: fs)

/-! ## Operands -/

/-- Whether a name begins with the sign of variables. -/
def IsSigned (text : String) : Prop := text.toList.head? = some '$'

/-- Operands without a negation, given what expressions are. A name without the sign is called where a parenthesis
follows it; any other name is a variable, and has to have more than signs. -/
inductive Primary (expression : Phrase Expr) : Phrase Expr
  | unit {l r} : l.kind = .leftParen → r.kind = .rightParen → Primary expression [l, r] (.list [])
  | group {l r ws e} : l.kind = .leftParen → expression ws e → r.kind = .rightParen →
      Primary expression (l :: ws ++ [r]) e
  | tuple {l c r ws vs e es} : l.kind = .leftParen → expression ws e → c.kind = .comma →
      Items expression vs es → r.kind = .rightParen → Primary expression (l :: ws ++ c :: vs ++ [r]) (.list (e :: es))
  | bracket {l r ws es} : l.kind = .leftBracket → Items expression ws es → r.kind = .rightBracket →
      Primary expression (l :: ws ++ [r]) (.list es)
  | string {s} : Primary expression [⟨.string, s⟩] (.literal (.string s))
  | number {s v} : Parser.numberValue? s.toList = some v → Primary expression [⟨.number, s⟩] (.literal v)
  | true : Primary expression [keyword "true"] (.literal (.bool true))
  | false : Primary expression [keyword "false"] (.literal (.bool false))
  | call {f l r ws es} : ¬ IsSigned f → l.kind = .leftParen → Items expression ws es → r.kind = .rightParen →
      Primary expression (name f :: l :: ws ++ [r]) (.call f es)
  | reference {x ws fs} : Parser.bareName x ≠ "" → Path ws fs →
      Primary expression (name x :: ws) (.variable (Parser.bareName x) fs)

/-- `'!' operand | primary`, given the operands and the expressions that lie in it. -/
inductive Unary (operand expression : Phrase Expr) : Phrase Expr
  | not {ws e} : operand ws e → Unary operand expression (sign notSymbol :: ws) (.not e)
  | primary {ws e} : Primary expression ws e → Unary operand expression ws e

/-! ## Levels -/

section levels

variable (operand : Phrase Expr)

def ProductOf : Phrase Expr := Chain products operand

def SumOf : Phrase Expr := Chain sums (ProductOf operand)

def ComparisonOf : Phrase Expr := Single comparisons (SumOf operand)

def ConjunctionOf : Phrase Expr := Chain conjunctions (ComparisonOf operand)

def ExpressionOf : Phrase Expr := Chain disjunctions (ConjunctionOf operand)

end levels

/-- Operands of which at most `n` lie in each other. -/
def Operand : Nat → Phrase Expr
  | 0 => fun _ _ => False
  | n + 1 => Unary (Operand n) (ExpressionOf (Operand n))

/-- Expressions with at most `n` operands lying in each other. -/
def Expression (n : Nat) : Phrase Expr := ExpressionOf (Operand n)

/-! ## More operands in each other -/

section mono

variable {P Q P' Q' : Phrase Expr} {operators : Operators}

theorem Chain.mono (h : ∀ ws e, P ws e → Q ws e) {ws e} (hc : Chain operators P ws e) : Chain operators Q ws e := by
  induction hc with
  | one he => exact .one (h _ _ he)
  | more _ hw hr ih => exact .more ih hw (h _ _ hr)

theorem Single.mono (h : ∀ ws e, P ws e → Q ws e) {ws e} (hs : Single operators P ws e) :
    Single operators Q ws e := by
  cases hs with
  | one he => exact .one (h _ _ he)
  | two hl hw hr => exact .two (h _ _ hl) hw (h _ _ hr)

theorem Items.mono (h : ∀ ws e, P ws e → Q ws e) {ws es} (hi : Items P ws es) : Items Q ws es := by
  induction hi with
  | none => exact .none
  | last he => exact .last (h _ _ he)
  | more he hc _ ih => exact .more (h _ _ he) hc ih

theorem Primary.mono (h : ∀ ws e, P ws e → Q ws e) {ws e} (hp : Primary P ws e) : Primary Q ws e := by
  cases hp with
  | unit hl hr => exact .unit hl hr
  | group hl he hr => exact .group hl (h _ _ he) hr
  | tuple hl he hc hes hr => exact .tuple hl (h _ _ he) hc (hes.mono h) hr
  | bracket hl hes hr => exact .bracket hl (hes.mono h) hr
  | string => exact .string
  | number hv => exact .number hv
  | true => exact .true
  | false => exact .false
  | call hf hl hes hr => exact .call hf hl (hes.mono h) hr
  | reference hx hp => exact .reference hx hp

theorem Unary.mono (h : ∀ ws e, P ws e → Q ws e) (h' : ∀ ws e, P' ws e → Q' ws e) {ws e}
    (hu : Unary P P' ws e) : Unary Q Q' ws e := by
  cases hu with
  | not he => exact .not (h _ _ he)
  | primary he => exact .primary (he.mono h')

theorem ExpressionOf.mono (h : ∀ ws e, P ws e → Q ws e) {ws e} (he : ExpressionOf P ws e) :
    ExpressionOf Q ws e :=
  Chain.mono (fun _ _ => Chain.mono fun _ _ => Single.mono fun _ _ => Chain.mono fun _ _ => Chain.mono h) he

end mono

theorem Operand.succ {n : Nat} : ∀ {ws e}, Operand n ws e → Operand (n + 1) ws e := by
  induction n with
  | zero => exact False.elim
  | succ n ih => exact fun h => h.mono (fun _ _ => ih) fun _ _ => ExpressionOf.mono fun _ _ => ih

theorem Operand.mono {n m : Nat} (h : n ≤ m) {ws e} (he : Operand n ws e) : Operand m ws e := by
  induction h with
  | refl => exact he
  | step _ ih => exact ih.succ

theorem ExpressionOf.single {operand : Phrase Expr} {ws e} (h : operand ws e) : ExpressionOf operand ws e :=
  .one (.one (.one (.one (.one h))))

/-! ## How phrases begin -/

/-- The phrases are not empty, and none of them begins with a token that closes a list. -/
def Opens (P : Phrase Expr) : Prop :=
  ∀ ws e, P ws e → ∃ w vs, ws = w :: vs ∧ w.kind ≠ .rightParen ∧ w.kind ≠ .rightBracket

theorem Chain.opens {P : Phrase Expr} {operators : Operators} (h : Opens P) : Opens (Chain operators P) := by
  intro ws e hc
  induction hc with
  | one he => exact h _ _ he
  | @more _ us v _ _ _ _ _ _ ih =>
    obtain ⟨w, vs, rfl, hw⟩ := ih
    exact ⟨w, vs ++ v :: us, rfl, hw⟩

theorem Single.opens {P : Phrase Expr} {operators : Operators} (h : Opens P) : Opens (Single operators P) := by
  intro ws e hs
  cases hs with
  | one he => exact h _ _ he
  | @two _ us v _ _ _ hl _ _ =>
    obtain ⟨w, vs, rfl, hw⟩ := h _ _ hl
    exact ⟨w, vs ++ v :: us, rfl, hw⟩

theorem Primary.head {P : Phrase Expr} {ws : List Word} {e : Expr} (hp : Primary P ws e) :
    ∃ w vs, ws = w :: vs ∧ w.kind ≠ .rightParen ∧ w.kind ≠ .rightBracket ∧ w.kind ≠ .operator := by
  cases hp with
  | unit hl | group hl | tuple hl | bracket hl => exact ⟨_, _, rfl, by simp [hl], by simp [hl], by simp [hl]⟩
  | string | number | true | false | call | reference =>
    exact ⟨_, _, rfl, by simp [keyword, name], by simp [keyword, name], by simp [keyword, name]⟩

theorem Operand.opens (n : Nat) : Opens (Operand n) := by
  intro ws e he
  cases n with
  | zero => exact he.elim
  | succ n =>
    cases he with
    | not _ => exact ⟨_, _, rfl, by decide, by decide⟩
    | primary hp =>
      obtain ⟨w, vs, hws, hr, hb, -⟩ := hp.head
      exact ⟨w, vs, hws, hr, hb⟩

theorem ExpressionOf.opens {P : Phrase Expr} (h : Opens P) : Opens (ExpressionOf P) :=
  Chain.opens (Chain.opens (Single.opens (Chain.opens (Chain.opens h))))

end Verdict.Grammar
