import Verdict.Proofs.Grammar.Depth
import Verdict.Proofs.Print.RoundTrip

/-!
# Texts put together from texts

A text that is an expression on its own stays that expression in parentheses, in a list and in a call: the lexer cuts
it into the same words there, and the parser reads them as the same tree. So the tree of a text that is put together
from such parts is put together from their trees, unless it is too deep (`parse_composed`).
-/

namespace Verdict

open Verdict.Grammar Verdict.Lexeme Verdict.Lexer Verdict.Expr

/-! ## Words -/

section words

variable {text : String} {texts : List String} {rest : List Char}

theorem scan_parenthesized (h : IsLegal (words text)) (a : Bool) (rest : List Char) :
    scan a ('(' :: (text.toList ++ ')' :: rest)) = leftParen :: (words text ++ rightParen :: scan true rest) := by
  rw [scan_leftParen, scan_append h (apart_mark (by decide) rest), scan_rightParen]
  rfl

theorem scan_intercalated (h : ∀ text ∈ texts, IsLegal (words text)) (hrest : Apart rest) :
    ∃ a, scan false ((", ".intercalate texts).toList ++ rest) =
      [comma].intercalate (texts.map words) ++ scan a rest := by
  rw [String.toList_intercalate, show ", ".toList = [',', ' '] from rfl]
  induction texts with
  | nil => exact ⟨false, rfl⟩
  | cons text texts ih =>
    rw [List.forall_mem_cons] at h
    cases texts with
    | nil =>
      refine ⟨endsAfter false (words text), ?_⟩
      simp only [List.map_cons, List.map_nil, List.intercalate_singleton]
      exact scan_append h.1 hrest
    | cons next texts =>
      obtain ⟨a, ha⟩ := ih h.2
      refine ⟨a, ?_⟩
      simp only [List.map_cons, List.intercalate_cons_cons, List.append_assoc, List.cons_append, List.nil_append] at ha ⊢
      rw [scan_append h.1 (apart_mark (by decide) _), scan_comma, scan_blank _ (by decide), ha]
      rfl

variable {a b f : String}

theorem words_operation (ha : IsLegal (words a)) (hb : IsLegal (words b)) {x : Word × BinaryOp} (hx : x ∈ operators) :
    words ("(" ++ a ++ ") " ++ x.1.text ++ " (" ++ b ++ ")") =
      (leftParen :: words a ++ [rightParen]) ++ x.1 :: (leftParen :: words b ++ [rightParen]) := by
  have htext : ("(" ++ a ++ ") " ++ x.1.text ++ " (" ++ b ++ ")").toList =
      '(' :: (a.toList ++ ')' :: ([' '] ++ (x.1.text.toList ++ ([' '] ++ '(' :: (b.toList ++ ')' :: []))))) := by simp
  have hblank : ∀ c ∈ [' '], Text.isBlank c = true := List.forall_mem_singleton.mpr (by decide)
  rw [words, htext, scan_parenthesized ha, scan_between hx hblank hblank (by simp), scan_parenthesized hb,
    scan_nil_of_blank rfl]
  simp

theorem words_negation (ha : IsLegal (words a)) :
    words ("!(" ++ a ++ ")") = sign notSymbol :: (leftParen :: words a ++ [rightParen]) := by
  have htext : ("!(" ++ a ++ ")").toList = '!' :: '(' :: (a.toList ++ ')' :: []) := by simp
  rw [words, htext, scan_plain (by decide) (first_not (by simp)), scan_parenthesized ha, scan_nil_of_blank rfl]
  rfl

theorem words_list (h : ∀ text ∈ texts, IsLegal (words text)) : words ("[" ++ ", ".intercalate texts ++ "]") =
    leftBracket :: [comma].intercalate (texts.map words) ++ [rightBracket] := by
  have htext : ("[" ++ ", ".intercalate texts ++ "]").toList = '[' :: ((", ".intercalate texts).toList ++ [']']) := by
    simp
  obtain ⟨a, ha⟩ := scan_intercalated h (apart_mark (c := ']') (by decide) [])
  rw [words, htext, scan_leftBracket, ha, scan_rightBracket, scan_nil_of_blank rfl]
  rfl

theorem words_call (hf : Word.IsName f) (h : ∀ text ∈ texts, IsLegal (words text)) :
    words (f ++ "(" ++ ", ".intercalate texts ++ ")") =
      name f :: leftParen :: [comma].intercalate (texts.map words) ++ [rightParen] := by
  have htext : (f ++ "(" ++ ", ".intercalate texts ++ ")").toList =
      f.toList ++ '(' :: ((", ".intercalate texts).toList ++ [')']) := by simp
  obtain ⟨a, ha⟩ := scan_intercalated h (apart_mark (c := ')') (by decide) [])
  rw [words, htext, scan_name _ hf rfl, scan_leftParen, ha, scan_rightParen, scan_nil_of_blank rfl]
  rfl

theorem legal_intercalated (h : ∀ text ∈ texts, IsLegal (words text)) :
    IsLegal ([comma].intercalate (texts.map words)) := by
  induction texts with
  | nil => exact .nil
  | cons text texts ih =>
    rw [List.forall_mem_cons] at h
    cases texts with
    | nil =>
      rw [List.map_cons, List.map_nil, List.intercalate_singleton]
      exact h.1
    | cons next texts =>
      rw [List.map_cons, List.map_cons, List.intercalate_cons_cons]
      exact (h.1.append (IsLegal.nil.cons (by decide))).append (ih h.2)

end words

/-! ## Trees -/

section trees

variable {P : Phrase Expr} {parts : List (String × Expr)}

theorem items_intercalated (h : ∀ p ∈ parts, P (words p.1) p.2) :
    Items P ([comma].intercalate ((parts.map Prod.fst).map words)) (parts.map Prod.snd) := by
  induction parts with
  | nil => exact .none
  | cons part parts ih =>
    rw [List.forall_mem_cons] at h
    cases parts with
    | nil =>
      simp only [List.map_cons, List.map_nil, List.intercalate_singleton]
      exact .last h.1
    | cons next parts =>
      have hitems := ih h.2
      simp only [List.map_cons, List.intercalate_cons_cons, List.append_assoc, List.cons_append,
        List.nil_append] at hitems ⊢
      exact .more h.1 rfl hitems

end trees

/-! ## Texts -/

namespace Expr

/-- A text that is put together from others, `levels` deep in it, is read as a tree or is too deep; and it is read if
the others are not nested too deeply for that and the tree is not too tall. -/
structure Composes (levels : Nat) (parts : List (String × Expr)) (text : String) (e : Expr) : Prop where
  read_or_tooDeep : parse text = .ok e ∨ parse text = .error (.tooDeep Parser.maxDepth)
  isRead : (∀ p ∈ parts, Expression (Parser.maxDepth - levels) (sentence p.1) p.2) → e.height ≤ Parser.maxDepth →
    parse text = .ok e

/-- It is enough that the text is an expression wherever the parts are, as many levels deeper. -/
theorem composes {levels : Nat} (hlevels : levels ≤ Parser.maxDepth) {parts : List (String × Expr)} {text : String}
    {e : Expr} (hparts : ∀ p ∈ parts, parse p.1 = .ok p.2) (hlegal : IsLegal (words text))
    (h : ∀ n, (∀ p ∈ parts, Expression n (words p.1) p.2) → Expression (n + levels) (words text) e) :
    Composes levels parts text e where
  read_or_tooDeep := parse_or_tooDeep hlegal (h Parser.maxDepth fun p hp => ((parse_words_iff ..).mp (hparts p hp)).2.1)
  isRead hsmall hheight := by
    refine (parse_words_iff ..).mpr ⟨(no_error_iff text).mpr hlegal, ?_, hheight⟩
    have hwhole := h (Parser.maxDepth - levels) fun p hp => sentence_eq p.1 ▸ hsmall p hp
    rwa [Nat.sub_add_cancel hlevels] at hwhole

variable {a b f : String} {ta tb : Expr} {parts : List (String × Expr)} {n : Nat}

theorem operand_parenthesized {ws : List Word} {e : Expr} (h : Expression n ws e) :
    Operand (n + 1) (leftParen :: ws ++ [rightParen]) e :=
  .primary (.group rfl h rfl)

theorem legal_parenthesized (h : IsLegal (words a)) : IsLegal (leftParen :: words a ++ [rightParen]) :=
  (h.cons (by decide)).append (IsLegal.nil.cons (by decide))

theorem composes_operation (ha : parse a = .ok ta) (hb : parse b = .ok tb) {x : Word × BinaryOp}
    (hx : x ∈ operators) :
    Composes 1 [(a, ta), (b, tb)] ("(" ++ a ++ ") " ++ x.1.text ++ " (" ++ b ++ ")") (.binary x.2 ta tb) := by
  have hwords := words_operation (no_error_of_parse ha) (no_error_of_parse hb) hx
  have hkind : ∀ x ∈ operators, x.1.kind ≠ .error := by decide
  refine composes (by decide) (by simp [ha, hb]) ?_ fun n hn => ?_
  · rw [hwords]
    exact (legal_parenthesized (no_error_of_parse ha)).append ((legal_parenthesized (no_error_of_parse hb)).cons (hkind x hx))
  · have hta : Expression n (words a) ta := hn (a, ta) (by simp)
    have htb : Expression n (words b) tb := hn (b, tb) (by simp)
    rw [hwords]
    exact expression_operation hx (operand_parenthesized hta) (operand_parenthesized htb)

theorem composes_negation (ha : parse a = .ok ta) : Composes 2 [(a, ta)] ("!(" ++ a ++ ")") (.not ta) := by
  have hwords := words_negation (no_error_of_parse ha)
  refine composes (by decide) (by simp [ha]) ?_ fun n hn => ?_
  · rw [hwords]
    exact (legal_parenthesized (no_error_of_parse ha)).cons (by decide)
  · have hta : Expression n (words a) ta := hn _ (List.mem_singleton_self _)
    rw [hwords]
    exact .single (.not (operand_parenthesized hta))

theorem legal_parts (h : ∀ p ∈ parts, parse p.1 = .ok p.2) : ∀ text ∈ parts.map Prod.fst, IsLegal (words text) :=
  List.forall_mem_map.mpr fun p hp => no_error_of_parse (h p hp)

theorem composes_list (h : ∀ p ∈ parts, parse p.1 = .ok p.2) :
    Composes 1 parts ("[" ++ ", ".intercalate (parts.map Prod.fst) ++ "]") (.list (parts.map Prod.snd)) := by
  have hwords := words_list (legal_parts h)
  refine composes (by decide) h ?_ fun n hn => ?_
  · rw [hwords]
    exact ((legal_intercalated (legal_parts h)).cons (by decide)).append (IsLegal.nil.cons (by decide))
  · rw [hwords]
    exact .single (.primary (.bracket rfl (items_intercalated hn) rfl))

theorem composes_call (h : ∀ p ∈ parts, parse p.1 = .ok p.2) (hf : Word.IsName f) (hsign : ¬ IsSigned f) :
    Composes 1 parts (f ++ "(" ++ ", ".intercalate (parts.map Prod.fst) ++ ")") (.call f (parts.map Prod.snd)) := by
  have hwords := words_call hf (legal_parts h)
  refine composes (by decide) h ?_ fun n hn => ?_
  · rw [hwords]
    exact (((legal_intercalated (legal_parts h)).cons (by decide)).cons (by simp [name])).append
      (IsLegal.nil.cons (by decide))
  · rw [hwords]
    exact .single (.primary (.call hsign rfl (items_intercalated hn) rfl))

/-- **Texts are composed as trees are.** Texts that are read on their own, in parentheses with an operator between them
or a negation before them, in a list or as the arguments of a call, are read as their trees in one tree of that form,
or the whole is too deep. It is not too deep where the parts leave the parser enough depth and the tree is not too
tall. -/
theorem parse_composed :
    (∀ a b ta tb, parse a = .ok ta → parse b = .ok tb → ∀ x ∈ operators,
      Composes 1 [(a, ta), (b, tb)] ("(" ++ a ++ ") " ++ x.1.text ++ " (" ++ b ++ ")") (.binary x.2 ta tb)) ∧
    (∀ a ta, parse a = .ok ta → Composes 2 [(a, ta)] ("!(" ++ a ++ ")") (.not ta)) ∧
    ∀ parts : List (String × Expr), (∀ p ∈ parts, parse p.1 = .ok p.2) →
      Composes 1 parts ("[" ++ ", ".intercalate (parts.map Prod.fst) ++ "]") (.list (parts.map Prod.snd)) ∧
      ∀ f, Word.IsName f → ¬ IsSigned f →
        Composes 1 parts (f ++ "(" ++ ", ".intercalate (parts.map Prod.fst) ++ ")") (.call f (parts.map Prod.snd)) :=
  ⟨fun _ _ _ _ ha hb _ hx => composes_operation ha hb hx, fun _ _ ha => composes_negation ha,
    fun _ h => ⟨composes_list h, fun _ hf hsign => composes_call h hf hsign⟩⟩

/-- A field that is named as an operator is, and a negative number: what a minus is depends on the word before it. -/
def fieldAndNumber : List (String × Expr) :=
  [("$a.matches", .variable "a" ["matches"]), ("-1", .literal (.int ⟨.int64, -1, by decide, by decide⟩))]

theorem parse_composed_fieldAndNumber :
    Composes 1 fieldAndNumber "($a.matches) xor (-1)"
      (.binary .xor (.variable "a" ["matches"]) (.literal (.int ⟨.int64, -1, by decide, by decide⟩))) ∧
    parse "!(-1)" = .ok (.not (.literal (.int ⟨.int64, -1, by decide, by decide⟩))) ∧
    Composes 1 fieldAndNumber "[$a.matches, -1]" (.list (fieldAndNumber.map Prod.snd)) ∧
    Composes 1 fieldAndNumber "max($a.matches, -1)" (.call "max" (fieldAndNumber.map Prod.snd)) := by
  obtain ⟨hoperation, hnegation, hitems⟩ := parse_composed
  have hfield : parse "$a.matches" = .ok (.variable "a" ["matches"]) := rfl
  have hnumber : parse "-1" = .ok (.literal (.int ⟨.int64, -1, by decide, by decide⟩)) := rfl
  have hparts : ∀ p ∈ fieldAndNumber, parse p.1 = .ok p.2 :=
    List.forall_mem_cons.mpr ⟨hfield, List.forall_mem_singleton.mpr hnumber⟩
  have hwords : sentence "-1" = [⟨.number, "-1"⟩] := by decide
  have hsmall : Expression 254 (sentence "-1") (.literal (.int ⟨.int64, -1, by decide, by decide⟩)) := by
    rw [hwords]
    exact .single (.primary (.number rfl))
  have hname : Word.IsName "max" := ⟨'m', ['a', 'x'], rfl, rfl, List.all_eq_true.mp rfl, by decide⟩
  refine ⟨hoperation _ _ _ _ hfield hnumber (name "xor", .xor) (by decide), ?_, (hitems _ hparts).1,
    (hitems _ hparts).2 "max" hname (by simp [IsSigned])⟩
  exact (hnegation _ _ hnumber).isRead (List.forall_mem_singleton.mpr hsmall) (by decide)

end Expr

end Verdict
