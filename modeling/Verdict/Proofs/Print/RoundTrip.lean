import Verdict.Proofs.Print.Origin

/-!
# Displaying and reading

The words that a tree is displayed as are an expression of the grammar with that tree, and operands lie in each other
no deeper than the tree is tall (`Writable.operand`). So a tree that was read from a text is read from its own text
again.
-/

namespace Verdict.Expr

open Verdict.Grammar

variable {P : Phrase Expr} {ws vs : List Word} {e l r : Expr} {op : BinaryOp}

theorem primary_literal {v : Value} (hv : IsWord v) : Primary P [literalWord v] (.literal v) := by
  cases hv with
  | bool b =>
    cases b with
    | true => exact .true
    | false => exact .false
  | int hn =>
    refine .number ?_
    rw [String.toList_ofList]
    exact Parser.numberValue?_displayInt hn
  | float hx =>
    obtain ⟨negative, whole, ds, htext, hwhole, hds, hx⟩ := withFraction_displayFloat hx
    refine .number ?_
    rw [String.toList_ofList]
    show Parser.numberValue? (withFraction _) = _
    rw [htext, Parser.numberValue?_point negative hwhole hds, hx]
  | string s => exact .string

theorem expression_operation {w : Word} (hop : (w, op) ∈ operators) (hl : P ws l) (hr : P vs r) :
    ExpressionOf P (ws ++ w :: vs) (.binary op l r) := by
  simp only [operators, List.mem_append] at hop
  rcases hop with (((hop | hop) | hop) | hop) | hop
  · exact .more (.one (.one (.one (.one (.one hl))))) hop (.one (.one (.one (.one hr))))
  · exact .one (.more (.one (.one (.one (.one hl)))) hop (.one (.one (.one hr))))
  · exact .one (.one (.two (.one (.one hl)) hop (.one (.one hr))))
  · exact .one (.one (.one (.more (.one (.one hl)) hop (.one hr))))
  · exact .one (.one (.one (.one (.more (.one hl) hop hr))))

theorem bareName_signed {x : String} (hx : ¬ IsSigned x) : Parser.bareName ("$" ++ x) = x := by
  have hdrop : Parser.bareName ("$" ++ x) = Parser.bareName x := by
    unfold Parser.bareName
    simp
  rw [hdrop, Parser.bareName_eq_iff]
  exact hx

theorem path_words : ∀ path : List String, Path (pathWords path) path
  | [] => .none
  | _ :: fs => .field rfl (path_words fs)

theorem primary_reference {x : String} (hx : IsVariable x) (path : List String) :
    Primary P (name ("$" ++ x) :: pathWords path) (.variable x path) := by
  have hbare := bareName_signed hx.not_signed
  have hprimary : Primary P (name ("$" ++ x) :: pathWords path) (.variable (Parser.bareName ("$" ++ x)) path) :=
    .reference (by rw [hbare]; exact hx.ne_empty) (path_words path)
  rwa [hbare] at hprimary

theorem items_spoken {es : List Expr} (h : ∀ e ∈ es, Operand e.height e.spoken e) {n : Nat} (hn : heightOfAll es ≤ n) :
    Items (Expression n) (spokenItems es) es := by
  have item {e : Expr} (he : Operand e.height e.spoken e) (hle : e.height ≤ n) : Expression n e.spoken e :=
    .single (he.mono hle)
  induction es with
  | nil => exact .none
  | cons e es ih =>
    rw [List.forall_mem_cons] at h
    rw [heightOfAll] at hn
    cases es with
    | nil =>
      rw [spokenItems, spokenRest, List.append_nil]
      exact .last (item h.1 (by omega))
    | cons e' es => exact .more (item h.1 (by omega)) rfl (ih h.2 (by omega))

/-- **The words of a displayed tree** are an operand of the grammar, nested as deep as the tree is tall. -/
theorem Writable.operand (h : Writable IsWord e) : Operand e.height e.spoken e := by
  induction h with
  | value hv => exact .primary (primary_literal hv)
  | reference hx _ => exact .primary (primary_reference hx _)
  | negation _ ih => exact .not ih
  | operation hop _ _ ihl ihr =>
    refine .primary (.group rfl (expression_operation (operatorWord_mem hop).1 ?_ ?_) rfl)
    · exact ihl.mono (le_max_left _ _)
    · exact ihr.mono (le_max_right _ _)
  | items _ ih => exact .primary (.bracket rfl (items_spoken ih (le_refl _)) rfl)
  | application _ hsign _ ih => exact .primary (.call hsign rfl (items_spoken ih (le_refl _)) rfl)

/-! ## No errors -/

def IsLegal (ws : List Word) : Prop := ∀ w ∈ ws, w.kind ≠ .error

theorem IsLegal.nil : IsLegal [] := fun _ h => absurd h List.not_mem_nil

theorem IsLegal.cons {w : Word} (h : IsLegal ws) (hw : w.kind ≠ .error) : IsLegal (w :: ws) :=
  List.forall_mem_cons.mpr ⟨hw, h⟩

theorem IsLegal.append (h : IsLegal ws) (h' : IsLegal vs) : IsLegal (ws ++ vs) :=
  List.forall_mem_append.mpr ⟨h, h'⟩

theorem legal_literalWord (v : Value) : (literalWord v).kind ≠ .error := by
  cases v <;> simp [literalWord, keyword]

theorem legal_operatorWord (op : BinaryOp) : (operatorWord op).kind ≠ .error := by
  cases op <;> decide

theorem legal_pathWords (path : List String) : IsLegal (pathWords path) := by
  intro w hw
  obtain ⟨f, -, hw⟩ := List.mem_flatMap.mp hw
  rcases List.mem_pair.mp hw with rfl | rfl <;> simp [name]

theorem legal_rest {es : List Expr} (h : ∀ e ∈ es, IsLegal e.spoken) : IsLegal (spokenRest es) := by
  induction es with
  | nil => exact .nil
  | cons e es ih =>
    rw [List.forall_mem_cons] at h
    exact (h.1.append (ih h.2)).cons (by decide)

theorem legal_items {es : List Expr} (h : ∀ e ∈ es, IsLegal e.spoken) : IsLegal (spokenItems es) := by
  cases es with
  | nil => exact .nil
  | cons e es =>
    rw [List.forall_mem_cons] at h
    exact h.1.append (legal_rest h.2)

theorem legal_spoken (e : Expr) : IsLegal e.spoken := by
  induction e using Expr.induction with
  | literal v => exact IsLegal.nil.cons (legal_literalWord v)
  | reference x path => exact (legal_pathWords path).cons (by simp [name])
  | negation e ih => exact ih.cons (by decide)
  | operation op l r ihl ihr =>
    exact ((ihl.cons (by decide)).append (ihr.cons (legal_operatorWord op))).append (IsLegal.nil.cons (by decide))
  | items es ih => exact ((legal_items ih).cons (by decide)).append (IsLegal.nil.cons (by decide))
  | application f es ih =>
    exact (((legal_items ih).cons (by decide)).cons (by simp [name])).append (IsLegal.nil.cons (by decide))

/-! ## Reading again -/

theorem Writable.reads_display (h : Writable IsWord e) (hh : e.height ≤ Parser.maxDepth) :
    Expr.parse e.display = .ok e := by
  have hwords := h.words_display
  rw [parse_words_iff, no_error_iff, hwords]
  exact ⟨legal_spoken e, .single (h.operand.mono hh), hh⟩

/-- **Displaying undoes reading.** A tree that was read from a text and has no infinite number in it is read from its
own text again. -/
theorem parse_display {text : String} {e : Expr} (h : Expr.parse text = .ok e)
    (hfinite : ∀ x : Float, .float64 x ∈ e.literals → x.isInf = false) : Expr.parse e.display = .ok e := by
  obtain ⟨-, -, hh⟩ := (parse_words_iff text e).mp h
  have hwritable := (parse_writable h).imp fun v hv hread => hread.isWord fun x hx => hfinite x (hx ▸ hv)
  exact hwritable.reads_display hh

/-- A list with a negative fraction before an operator and a negative integer after a comma. -/
def mixedList : Expr :=
  .list [.binary .add (.literal (.float64 (Binary.ofDecimal true 15 (-1)))) (.variable "a" ["b"]),
    .literal (.int ⟨.int64, -2, by decide, by decide⟩)]

theorem parse_display_mixedList :
    Expr.parse "(-1.5 + a.b, -2)" = .ok mixedList ∧ Expr.parse mixedList.display = .ok mixedList := by
  have hparse : Expr.parse "(-1.5 + a.b, -2)" = .ok mixedList := rfl
  refine ⟨hparse, parse_display hparse fun x hx => ?_⟩
  have hx' : x = Binary.ofDecimal true 15 (-1) := by
    simpa [mixedList, literals, literalsOfAll] using hx
  rw [hx']
  decide

end Verdict.Expr
