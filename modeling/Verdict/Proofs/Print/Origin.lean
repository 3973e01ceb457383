import Verdict.Proofs.Expr.Literals
import Verdict.Proofs.Grammar.Acceptance
import Verdict.Proofs.Number.Kinds
import Verdict.Proofs.Print.Words

/-!
# What trees texts are read as

A tree that was read from a text can be written in the language again, its literals being those that words are read
as (`parse_writable`). With no infinite number among them they all have words (`Writable.isWord`).
-/

namespace Verdict.Expr

open Verdict.Grammar Verdict.Lexeme

theorem Writable.imp {P Q : Value → Prop} {e : Expr} (h : Writable P e) (hv : ∀ v ∈ e.literals, P v → Q v) :
    Writable Q e := by
  induction h with
  | value hP => exact .value (hv _ (List.mem_singleton_self _) hP)
  | reference hx hpath => exact .reference hx hpath
  | negation _ ih => exact .negation (ih hv)
  | operation hop _ _ ihl ihr =>
    exact .operation hop (ihl fun v h => hv v (List.mem_append_left _ h)) (ihr fun v h => hv v (List.mem_append_right _ h))
  | items _ ih => exact .items fun e he => ih e he fun v h => hv v (mem_literalsOfAll.mpr ⟨e, he, h⟩)
  | application hf hsign _ ih =>
    exact .application hf hsign fun e he => ih e he fun v h => hv v (mem_literalsOfAll.mpr ⟨e, he, h⟩)

/-! ## What words are read as -/

/-- The values that literals have where they come from a text. -/
inductive IsRead : Value → Prop
  | bool (b : Bool) : IsRead (.bool b)
  | number {text : List Char} {v : Value} : Parser.numberValue? text = some v → IsRead v
  | string (s : String) : IsRead (.string s)

theorem numberValue?_cases {text : List Char} {v : Value} (h : Parser.numberValue? text = some v) :
    (∃ n : Integer, n.kind = .int64 ∧ v = .int n) ∨ ∃ negative n j, v = .float64 (Binary.ofDecimal negative n j) := by
  unfold Parser.numberValue? at h
  split at h
  dsimp only at h
  split at h
  · cases h
  · split at h
    · split at h
      · next n hn =>
        cases h
        exact .inl ⟨n, Integer.kind_of_ofInt? hn, rfl⟩
      · cases h
        exact .inr ⟨_, _, _, rfl⟩
    · split at h
      · cases h
      · cases h
        exact .inr ⟨_, _, _, rfl⟩
    · cases h

/-- Of the numbers that are read, only the infinite ones have no word. -/
theorem IsRead.isWord {v : Value} (hv : IsRead v) (hfinite : ∀ x, v = .float64 x → x.isInf = false) : IsWord v := by
  cases hv with
  | bool b => exact .bool b
  | string s => exact .string s
  | number h =>
    rcases numberValue?_cases h with ⟨n, hn, rfl⟩ | ⟨negative, n, j, rfl⟩
    · exact .int hn
    · refine .float (Rounding.isFinite_of (hfinite _ rfl) (Rounding.isNaN_ofDecimal negative n j))

/-! ## Through the grammar -/

/-- Phrases of words of the language say trees that can be written. -/
def Yields (P : Phrase Expr) : Prop := ∀ ws e, P ws e → (∀ w ∈ ws, w.Genuine) → Writable IsRead e

variable {P Q : Phrase Expr} {table : Operators}

theorem yields_chain (hP : Yields P) (ht : ∀ x ∈ table, x ∈ operators) : Yields (Chain table P) := by
  intro ws e h
  induction h with
  | one he => exact hP _ _ he
  | more _ hop hr ih =>
    intro hw
    refine .operation ⟨_, ht _ hop⟩ (ih fun w h => hw w (List.mem_append_left _ h)) (hP _ _ hr fun w h => hw w ?_)
    exact List.mem_append_right _ (List.mem_cons_of_mem _ h)

theorem yields_single (hP : Yields P) (ht : ∀ x ∈ table, x ∈ operators) : Yields (Single table P) := by
  intro ws e h hw
  cases h with
  | one he => exact hP _ _ he hw
  | two hl hop hr =>
    refine .operation ⟨_, ht _ hop⟩ (hP _ _ hl fun w h => hw w (List.mem_append_left _ h)) (hP _ _ hr fun w h => hw w ?_)
    exact List.mem_append_right _ (List.mem_cons_of_mem _ h)

theorem yields_items (hP : Yields P) {ws : List Word} {es : List Expr} (h : Items P ws es) :
    (∀ w ∈ ws, w.Genuine) → ∀ e ∈ es, Writable IsRead e := by
  induction h with
  | none => exact fun _ e he => absurd he (List.not_mem_nil)
  | last he =>
    intro hw e hmem
    cases List.mem_singleton.mp hmem
    exact hP _ _ he hw
  | more he _ _ ih =>
    intro hw
    rw [List.forall_mem_cons]
    refine ⟨hP _ _ he fun w h => hw w (List.mem_append_left _ h), ih fun w h => hw w ?_⟩
    exact List.mem_append_right _ (List.mem_cons_of_mem _ h)

theorem isVariable_bareName {x : String} (hx : Word.IsName x) (hne : Parser.bareName x ≠ "") :
    IsVariable (Parser.bareName x) := by
  obtain ⟨c, cs, htext, hc, hcs, -⟩ := hx
  refine ⟨hne, ?_, ?_⟩
  · unfold IsSigned Parser.bareName
    rw [String.toList_ofList]
    intro h
    have := List.head?_dropWhile_not (fun c => decide (c = '$')) x.toList
    rw [h] at this
    simp at this
  · intro d hd
    rw [Parser.bareName, String.toList_ofList] at hd
    have hmem := (List.dropWhile_suffix _).subset hd
    rw [htext] at hmem
    rcases List.mem_cons.mp hmem with rfl | h
    · exact continuesWord_of_startsWord hc
    · exact hcs d h

theorem isName_path {ws : List Word} {fs : List String} (h : Path ws fs) :
    (∀ w ∈ ws, w.Genuine) → ∀ f ∈ fs, Word.IsName f := by
  induction h with
  | none => exact fun _ f hf => absurd hf (List.not_mem_nil)
  | field _ _ ih =>
    intro hw
    rw [List.forall_mem_cons, List.forall_mem_cons] at hw
    rw [List.forall_mem_cons]
    exact ⟨hw.2.1, ih hw.2.2⟩

theorem yields_primary (hP : Yields P) : Yields (Primary P) := by
  intro ws e h hw
  cases h with
  | unit => exact .items fun e he => absurd he (List.not_mem_nil)
  | group _ he _ => exact hP _ _ he fun w h => hw w (by simp [h])
  | tuple _ he _ hes _ =>
    refine .items ?_
    rw [List.forall_mem_cons]
    exact ⟨hP _ _ he fun w h => hw w (by simp [h]), yields_items hP hes fun w h => hw w (by simp [h])⟩
  | bracket _ hes _ => exact .items (yields_items hP hes fun w h => hw w (by simp [h]))
  | string => exact .value (.string _)
  | number hv => exact .value (.number hv)
  | true => exact .value (.bool _)
  | false => exact .value (.bool _)
  | call hf _ hes _ =>
    exact .application (hw _ (List.mem_cons_self ..)) hf (yields_items hP hes fun w h => hw w (by simp [h]))
  | reference hne hpath =>
    rw [List.forall_mem_cons] at hw
    exact .reference (isVariable_bareName hw.1 hne) (isName_path hpath hw.2)

theorem yields_expression (hP : Yields P) : Yields (ExpressionOf P) := by
  refine yields_chain (yields_chain (yields_single (yields_chain (yields_chain hP ?_) ?_) ?_) ?_) ?_ <;>
    intro x hx <;> simp only [operators, List.mem_append, hx, true_or, or_true]

theorem yields_operand : ∀ n : Nat, Yields (Operand n)
  | 0 => fun _ _ h => h.elim
  | n + 1 => by
    intro ws e h hw
    cases h with
    | not he => exact .negation (yields_operand n _ _ he fun w h => hw w (List.mem_cons_of_mem _ h))
    | primary hp => exact yields_primary (yields_expression (yields_operand n)) _ _ hp hw

/-- **A tree that was read from a text** can be written in the language. -/
theorem parse_writable {text : String} {e : Expr} (h : Expr.parse text = .ok e) : Writable IsRead e := by
  obtain ⟨-, he, -⟩ := (parse_words_iff text e).mp h
  exact yields_expression (yields_operand _) _ _ he fun w hw => (Lexer.scan_spec _ _ w hw).1

end Verdict.Expr
