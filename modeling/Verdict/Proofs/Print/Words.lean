import Verdict.Proofs.Grammar.Basic
import Verdict.Proofs.Print.Numbers
import Verdict.Proofs.Token.Joining

/-!
# The words of a displayed expression

The trees that can be written in the language, and the words that each is displayed as: the lexer cuts the text of
the tree into those words again (`Writable.says`).
-/

namespace Verdict.Expr

open Verdict.Grammar Verdict.Lexeme Verdict.Lexer

/-! ## Trees that can be written -/

/-- All operators that an expression can be written with. -/
def operators : Operators := disjunctions ++ conjunctions ++ comparisons ++ sums ++ products

/-- The name of a variable without the sign in front of it. -/
structure IsVariable (x : String) : Prop where
  ne_empty : x ≠ ""
  not_signed : ¬ IsSigned x
  goes_on : ∀ c ∈ x.toList, continuesWord c = true

/-- A tree with literals of that sort, with operators of the language and with names that are names. -/
inductive Writable (literal : Value → Prop) : Expr → Prop
  | value {v} : literal v → Writable literal (.literal v)
  | reference {x path} : IsVariable x → (∀ f ∈ path, Word.IsName f) → Writable literal (.variable x path)
  | negation {e} : Writable literal e → Writable literal (.not e)
  | operation {op l r} : (∃ w, (w, op) ∈ operators) → Writable literal l → Writable literal r →
      Writable literal (.binary op l r)
  | items {es} : (∀ e ∈ es, Writable literal e) → Writable literal (.list es)
  | application {f es} : Word.IsName f → ¬ IsSigned f → (∀ e ∈ es, Writable literal e) → Writable literal (.call f es)

/-- The literals that the language has words for. -/
inductive IsWord : Value → Prop
  | bool (b : Bool) : IsWord (.bool b)
  | int {n : Integer} : n.kind = .int64 → IsWord (.int n)
  | float {x : Float} : x.isFinite = true → IsWord (.float64 x)
  | string (s : String) : IsWord (.string s)

/-! ## The words -/

def comma : Word := ⟨.comma, ","⟩

def leftParen : Word := ⟨.leftParen, "("⟩

def rightParen : Word := ⟨.rightParen, ")"⟩

def leftBracket : Word := ⟨.leftBracket, "["⟩

def rightBracket : Word := ⟨.rightBracket, "]"⟩

def literalWord : Value → Word
  | .string s => ⟨.string, s⟩
  | .bool b => keyword (if b then "true" else "false")
  | v => ⟨.number, String.ofList (literalText v)⟩

def operatorWord (op : BinaryOp) : Word :=
  match op with
  | .within => keyword op.symbol
  | .xor | .contains | .startsWith | .endsWith | .matching => name op.symbol
  | _ => sign op.symbol

def pathWords (path : List String) : List Word := path.flatMap fun field => [⟨.dot, "."⟩, name field]

mutual

/-- The words that a tree is displayed as. -/
def spoken : Expr → List Word
  | .literal v => [literalWord v]
  | .variable x path => name ("$" ++ x) :: pathWords path
  | .not operand => sign notSymbol :: spoken operand
  | .binary op left right => leftParen :: spoken left ++ operatorWord op :: spoken right ++ [rightParen]
  | .list items => leftBracket :: spokenItems items ++ [rightBracket]
  | .call function args => name function :: leftParen :: spokenItems args ++ [rightParen]
termination_by structural e => e

def spokenItems : List Expr → List Word
  | [] => []
  | e :: es => spoken e ++ spokenRest es
termination_by structural es => es

/-- The items after the first. -/
def spokenRest : List Expr → List Word
  | [] => []
  | e :: es => comma :: (spoken e ++ spokenRest es)
termination_by structural es => es

end

/-! ## What follows an expression -/

/-- No word goes on there. -/
def Breaks (rest : List Char) : Prop :=
  ∀ c, rest.head? = some c → c = ' ' ∨ c = ',' ∨ c = ')' ∨ c = ']'

theorem Breaks.any_eq_false {rest : List Char} (h : Breaks rest) {p : Char → Bool} (hspace : p ' ' = false)
    (hcomma : p ',' = false) (hparen : p ')' = false) (hbracket : p ']' = false) : rest.head?.any p = false := by
  cases hrest : rest.head? with
  | none => rfl
  | some c => rcases h c hrest with rfl | rfl | rfl | rfl <;> assumption

theorem Breaks.no_dot {rest : List Char} (h : Breaks rest) : rest.head? ≠ some '.' := by
  intro hdot
  rcases h _ hdot with h | h | h | h <;> revert h <;> decide

/-- Where an operand is expected, the text is cut into those words. -/
structure Says (text : List Char) (ws : List Word) : Prop where
  head : text.head? ≠ some '='
  scan (rest : List Char) : Breaks rest → ∃ a, scan false (text ++ rest) = ws ++ Lexer.scan a rest

/-! ## Marks -/

theorem scan_comma (a : Bool) (cs : List Char) : Lexer.scan a (',' :: cs) = comma :: Lexer.scan false cs :=
  scan_plain (by decide) (show first a ',' cs = plain .comma [','] cs from rfl)

theorem scan_leftParen (a : Bool) (cs : List Char) : Lexer.scan a ('(' :: cs) = leftParen :: Lexer.scan false cs :=
  scan_plain (by decide) (show first a '(' cs = plain .leftParen ['('] cs from rfl)

theorem scan_rightParen (a : Bool) (cs : List Char) : Lexer.scan a (')' :: cs) = rightParen :: Lexer.scan true cs :=
  scan_plain (by decide) (show first a ')' cs = plain .rightParen [')'] cs from rfl)

theorem scan_leftBracket (a : Bool) (cs : List Char) : Lexer.scan a ('[' :: cs) = leftBracket :: Lexer.scan false cs :=
  scan_plain (by decide) (show first a '[' cs = plain .leftBracket ['['] cs from rfl)

theorem scan_rightBracket (a : Bool) (cs : List Char) : Lexer.scan a (']' :: cs) = rightBracket :: Lexer.scan true cs :=
  scan_plain (by decide) (show first a ']' cs = plain .rightBracket [']'] cs from rfl)

theorem scan_dot (a : Bool) (cs : List Char) : Lexer.scan a ('.' :: cs) = ⟨.dot, "."⟩ :: Lexer.scan false cs :=
  scan_plain (by decide) (show first a '.' cs = plain .dot ['.'] cs from rfl)

/-! ## Literals -/

/-- A character of a literal stands for itself, or is escaped by the one that is read as it. -/
theorem literalChar_cases (c : Char) : literalChar c = [c] ∧ c ≠ '"' ∧ c ≠ '\\' ∨
    ∃ e, literalChar c = ['\\', e] ∧ unescape e = c := by
  unfold literalChar
  split
  case h_6 hquote hslash _ _ _ => exact .inl ⟨rfl, hquote, hslash⟩
  all_goals exact .inr ⟨_, rfl, rfl⟩

theorem contents_literal (cs rest : List Char) :
    contents '"' (cs.flatMap literalChar ++ '"' :: rest) = ⟨cs, cs.flatMap literalChar ++ ['"'], rest, true⟩ := by
  induction cs with
  | nil =>
    rw [List.flatMap_nil, List.nil_append, contents.eq_def]
    rfl
  | cons c cs ih =>
    rw [List.flatMap_cons, List.append_assoc]
    rcases literalChar_cases c with ⟨h, hquote, hslash⟩ | ⟨e, h, he⟩
    · rw [h, List.singleton_append, contents_plain hquote hslash, ih]
      rfl
    · rw [h, List.cons_append, List.singleton_append, contents_escaped (by decide), ih, he]
      rfl

theorem says_string (s : String) : Says ('"' :: s.toList.flatMap literalChar ++ ['"']) [⟨.string, s⟩] where
  head := by simp
  scan rest _ := by
    have hfirst : Lexeme.first false '"' (s.toList.flatMap literalChar ++ '"' :: rest) =
        ⟨.string, s.toList, '"' :: (s.toList.flatMap literalChar ++ ['"']), rest⟩ := by
      show Lexeme.string '"' _ = _
      rw [Lexeme.string, contents_literal]
      rfl
    refine ⟨true, ?_⟩
    rw [List.cons_append, List.cons_append, List.append_assoc, List.singleton_append, scan_of_dropWhile rfl, hfirst]
    show Word.mk .string (String.ofList s.toList) :: _ = _
    rw [String.ofList_toList]
    rfl

/-! ## Numbers -/

theorem says_number (negative : Bool) {whole fraction : List Char} (hw : Word.IsDigits whole)
    (hf : fraction = [] ∨ ∃ ds, fraction = '.' :: ds ∧ Word.IsDigits ds) :
    Says (Decimal.signed negative (whole ++ fraction))
      [⟨.number, String.ofList (Decimal.signed negative (whole ++ fraction))⟩] where
  head := by
    cases negative with
    | true => simp [Decimal.signed]
    | false => exact hw.head_ne rfl fraction
  scan rest hrest :=
    ⟨true, scan_number negative hw hf (hrest.any_eq_false rfl rfl rfl rfl) hrest.no_dot⟩

theorem says_bool (b : Bool) : Says (if b then "true" else "false").toList [keyword (if b then "true" else "false")] where
  head := by cases b <;> decide
  scan rest hrest := by
    have hgoes : rest.head?.any continuesWord = false := hrest.any_eq_false rfl rfl rfl rfl
    refine ⟨true, ?_⟩
    cases b with
    | true =>
      exact scan_plain (by decide) ((first_word (by decide) ..).trans (word_run ['r', 'u', 'e'] (List.all_eq_true.mp rfl) hgoes))
    | false =>
      exact scan_plain (by decide) ((first_word (by decide) ..).trans (word_run ['a', 'l', 's', 'e'] (List.all_eq_true.mp rfl) hgoes))

theorem says_literal {v : Value} (hv : IsWord v) : Says (literalText v) [literalWord v] := by
  cases hv with
  | bool b => exact says_bool b
  | @int n _ =>
    have h := says_number (decide (n.val < 0)) (Decimal.isDigits_digitsOf n.val.natAbs) (.inl rfl)
    rwa [List.append_nil, ← Decimal.displayInt_eq] at h
  | @float x hx =>
    obtain ⟨negative, whole, ds, htext, hwhole, hds, -⟩ := withFraction_displayFloat hx
    have h := says_number negative hwhole (.inr ⟨ds, rfl, hds⟩)
    rwa [← htext] at h
  | string s => exact says_string s

/-! ## Names and operators -/

theorem isName_signed {x : String} (hx : IsVariable x) : Word.IsName ("$" ++ x) := by
  refine ⟨'$', x.toList, by simp, by decide, hx.goes_on, ?_⟩
  intro h
  have hhead : ∀ k ∈ Token.keywords, k.toList.head? ≠ some '$' := by decide
  exact hhead _ h (by simp)

theorem pathText_ends (path : List String) {rest : List Char} (hrest : Breaks rest) :
    (pathText path ++ rest).head?.any continuesWord = false := by
  cases path with
  | nil => exact hrest.any_eq_false rfl rfl rfl rfl
  | cons f fs => rfl

theorem scan_path {path : List String} (hpath : ∀ f ∈ path, Word.IsName f) :
    ∀ (a : Bool) (rest : List Char), Breaks rest →
      ∃ a', Lexer.scan a (pathText path ++ rest) = pathWords path ++ Lexer.scan a' rest := by
  induction path with
  | nil => exact fun a rest _ => ⟨a, rfl⟩
  | cons f fs ih =>
    intro a rest hrest
    rw [List.forall_mem_cons] at hpath
    obtain ⟨a', ha'⟩ := ih hpath.2 (Token.endsOperand .identifier f) rest hrest
    refine ⟨a', ?_⟩
    show Lexer.scan a ('.' :: (f.toList ++ pathText fs) ++ rest) = _
    rw [List.cons_append, List.append_assoc, scan_dot, scan_name _ hpath.1 (pathText_ends fs hrest), ha']
    rfl

theorem says_reference {x : String} {path : List String} (hx : IsVariable x) (hpath : ∀ f ∈ path, Word.IsName f) :
    Says ('$' :: x.toList ++ pathText path) (name ("$" ++ x) :: pathWords path) where
  head := by simp
  scan rest hrest := by
    obtain ⟨a, ha⟩ := scan_path hpath (Token.endsOperand .identifier ("$" ++ x)) rest hrest
    have hname : '$' :: x.toList = ("$" ++ x).toList := by simp
    refine ⟨a, ?_⟩
    rw [hname, List.append_assoc, scan_name _ (isName_signed hx) (pathText_ends path hrest), ha]
    rfl

theorem scan_operatorText {x : Word × BinaryOp} (hx : x ∈ operators) (a : Bool) :
    Lexer.scan a x.1.text.toList = [x.1] ∧ Token.endsOperand x.1.kind x.1.text = false := by
  have hall : ∀ x ∈ operators, Token.endsOperand x.1.kind x.1.text = false ∧ x.1.text.toList ≠ [] ∧
      Text.isBlank (x.1.text.toList.headD ' ') = false ∧
        ∀ a, first a (x.1.text.toList.headD ' ') x.1.text.toList.tail = plain x.1.kind x.1.text.toList [] := by
    decide
  obtain ⟨hends, hne, hblank, hplain⟩ := hall x hx
  obtain ⟨c, cs, htext⟩ := List.exists_cons_of_ne_nil hne
  rw [htext, List.headD_cons] at hblank hplain
  rw [List.tail_cons] at hplain
  rw [htext, scan_plain hblank (hplain a), scan_nil_of_blank rfl, ← htext, String.ofList_toList]
  exact ⟨rfl, hends⟩

/-- An operator between white space is its word whatever goes before it, and an operand is expected after it. -/
theorem scan_between {x : Word × BinaryOp} (hx : x ∈ operators) {gap gap' : List Char}
    (hgap : ∀ c ∈ gap, Text.isBlank c = true) (hgap' : ∀ c ∈ gap', Text.isBlank c = true) (hne : gap' ≠ []) (a : Bool)
    (cs : List Char) : Lexer.scan a (gap ++ (x.1.text.toList ++ (gap' ++ cs))) = x.1 :: Lexer.scan false cs := by
  obtain ⟨hscan, hends⟩ := scan_operatorText hx a
  have hkind : ∀ x ∈ operators, x.1.kind ≠ .error := by decide
  have hapart : Apart (gap' ++ cs) := by
    obtain ⟨b, bs, rfl⟩ := List.exists_cons_of_ne_nil hne
    exact apart_blank (hgap' b (List.mem_cons_self ..)) _
  rw [scan_blanks a hgap, scan_append (by simpa [hscan] using hkind x hx) hapart, hscan, scan_blanks _ hgap']
  show x.1 :: Lexer.scan (Token.endsOperand x.1.kind x.1.text) cs = _
  rw [hends]

theorem operatorWord_mem {op : BinaryOp} (hop : ∃ w, (w, op) ∈ operators) :
    (operatorWord op, op) ∈ operators ∧ (operatorWord op).text = op.symbol := by
  obtain ⟨w, hw⟩ := hop
  have hall : ∀ x ∈ operators, (operatorWord x.2, x.2) ∈ operators ∧ (operatorWord x.2).text = x.2.symbol := by decide
  exact hall _ hw

theorem scan_operator {op : BinaryOp} (hop : ∃ w, (w, op) ∈ operators) (a : Bool) (cs : List Char) :
    Lexer.scan a (' ' :: op.symbol.toList ++ ' ' :: cs) = operatorWord op :: Lexer.scan false cs := by
  obtain ⟨hmem, hsymbol⟩ := operatorWord_mem hop
  have hblank : ∀ c ∈ [' '], Text.isBlank c = true := List.forall_mem_singleton.mpr (by decide)
  rw [← hsymbol]
  exact scan_between hmem hblank hblank (by simp) a cs

/-! ## Trees -/

theorem first_not {a : Bool} {cs : List Char} (h : cs.head? ≠ some '=') : first a '!' cs = plain .operator ['!'] cs := by
  show oneOrTwo '!' '=' cs = _
  unfold oneOrTwo
  split
  · next d rest =>
    rw [if_neg]
    · rfl
    · rintro rfl
      exact h rfl
  · rfl

theorem breaks_cons {c : Char} (hc : c = ' ' ∨ c = ',' ∨ c = ')' ∨ c = ']') (rest : List Char) : Breaks (c :: rest) := by
  intro d hd
  cases Option.some.inj hd
  exact hc

theorem Says.not {text : List Char} {ws : List Word} (h : Says text ws) :
    Says (notSymbol.toList ++ text) (sign notSymbol :: ws) where
  head := by
    show some '!' ≠ some '='
    decide
  scan rest hrest := by
    obtain ⟨a, ha⟩ := h.scan rest hrest
    have hnext : (text ++ rest).head? ≠ some '=' := by
      cases text with
      | nil =>
        intro heq
        rcases hrest _ heq with h | h | h | h <;> revert h <;> decide
      | cons c cs => exact h.head
    have hsign : Lexer.scan false ('!' :: (text ++ rest)) = sign notSymbol :: Lexer.scan false (text ++ rest) :=
      scan_plain (by decide) (first_not hnext)
    exact ⟨a, hsign.trans (congrArg _ ha)⟩

theorem Says.binary {left right : List Char} {ws vs : List Word} {op : BinaryOp} (hop : ∃ w, (w, op) ∈ operators)
    (hl : Says left ws) (hr : Says right vs) :
    Says ('(' :: left ++ ' ' :: op.symbol.toList ++ ' ' :: right ++ [')'])
      (leftParen :: ws ++ operatorWord op :: vs ++ [rightParen]) where
  head := by simp
  scan rest hrest := by
    obtain ⟨b, hb⟩ := hr.scan (')' :: rest) (breaks_cons (by decide) _)
    obtain ⟨a, ha⟩ := hl.scan (' ' :: op.symbol.toList ++ ' ' :: (right ++ ')' :: rest)) (breaks_cons (by decide) _)
    have htext : '(' :: left ++ ' ' :: op.symbol.toList ++ ' ' :: right ++ [')'] ++ rest =
        '(' :: (left ++ (' ' :: op.symbol.toList ++ ' ' :: (right ++ ')' :: rest))) := by simp
    refine ⟨true, ?_⟩
    rw [htext, scan_leftParen, ha, scan_operator hop, hb, scan_rightParen]
    simp

theorem breaks_rest (es : List Expr) {rest : List Char} (hrest : Breaks rest) : Breaks (textOfRest es ++ rest) := by
  cases es with
  | nil => exact hrest
  | cons e es => exact breaks_cons (by decide) _

theorem scan_rest {es : List Expr} (h : ∀ e ∈ es, Says e.text e.spoken) : ∀ (a : Bool) (rest : List Char),
    Breaks rest → ∃ a', Lexer.scan a (textOfRest es ++ rest) = spokenRest es ++ Lexer.scan a' rest := by
  induction es with
  | nil => exact fun a rest _ => ⟨a, rfl⟩
  | cons e es ih =>
    intro a rest hrest
    rw [List.forall_mem_cons] at h
    obtain ⟨b, hb⟩ := h.1.scan _ (breaks_rest es hrest)
    obtain ⟨a', ha'⟩ := ih h.2 b rest hrest
    refine ⟨a', ?_⟩
    rw [textOfRest, List.append_assoc, List.cons_append, List.cons_append, scan_comma, scan_blank _ (by decide), hb,
      ha', spokenRest]
    simp

theorem scan_items {e : Expr} {es : List Expr} (h : ∀ x ∈ e :: es, Says x.text x.spoken) {rest : List Char}
    (hrest : Breaks rest) :
    ∃ a, Lexer.scan false (e.text ++ textOfRest es ++ rest) = spokenItems (e :: es) ++ Lexer.scan a rest := by
  rw [List.forall_mem_cons] at h
  obtain ⟨b, hb⟩ := h.1.scan _ (breaks_rest es hrest)
  obtain ⟨a, ha⟩ := scan_rest h.2 b rest hrest
  refine ⟨a, ?_⟩
  rw [List.append_assoc, hb, ha, spokenItems, List.append_assoc]

theorem says_list {es : List Expr} (h : ∀ e ∈ es, Says e.text e.spoken) : Says (text (.list es)) (spoken (.list es)) where
  head := by cases es <;> simp [text]
  scan rest hrest := by
    refine ⟨true, ?_⟩
    cases es with
    | nil =>
      show Lexer.scan false ('[' :: ']' :: rest) = _
      rw [scan_leftBracket, scan_rightBracket]
      rfl
    | cons e es =>
      obtain ⟨a, ha⟩ := scan_items h (breaks_cons (c := ']') (by decide) rest)
      have htext : text (.list (e :: es)) ++ rest = '[' :: (e.text ++ textOfRest es ++ ']' :: rest) := by simp [text]
      rw [htext, scan_leftBracket, ha, scan_rightBracket]
      simp [spoken]

theorem says_call {f : String} (hf : Word.IsName f) {es : List Expr} (h : ∀ e ∈ es, Says e.text e.spoken) :
    Says (text (.call f es)) (spoken (.call f es)) where
  head := by
    obtain ⟨c, ds, htext, hc, -⟩ := hf
    have hhead : (text (.call f es)).head? = some c := by cases es <;> simp [text, htext]
    rw [hhead]
    rintro heq
    cases Option.some.inj heq
    exact absurd hc (by decide)
  scan rest hrest := by
    refine ⟨true, ?_⟩
    cases es with
    | nil =>
      have htext : text (.call f []) ++ rest = f.toList ++ '(' :: ')' :: rest := by simp [text]
      rw [htext, scan_name _ hf rfl, scan_leftParen, scan_rightParen]
      rfl
    | cons e es =>
      obtain ⟨a, ha⟩ := scan_items h (breaks_cons (c := ')') (by decide) rest)
      have htext : text (.call f (e :: es)) ++ rest = f.toList ++ '(' :: (e.text ++ textOfRest es ++ ')' :: rest) := by
        simp [text]
      rw [htext, scan_name _ hf rfl, scan_leftParen, ha, scan_rightParen]
      simp [spoken, name]

/-- **The text of a tree** is cut into the words that the tree is displayed as. -/
theorem Writable.says {e : Expr} (h : Writable IsWord e) : Says e.text e.spoken := by
  induction h with
  | value hv => exact says_literal hv
  | reference hx hpath => exact says_reference hx hpath
  | negation _ ih => exact ih.not
  | operation hop _ _ ihl ihr => exact .binary hop ihl ihr
  | items _ ih => exact says_list ih
  | application hf _ _ ih => exact says_call hf ih

theorem Writable.words_display {e : Expr} (h : Writable IsWord e) : words e.display = e.spoken := by
  obtain ⟨a, ha⟩ := h.says.scan [] (by simp [Breaks])
  have hend : Lexer.scan a [] = [] := scan_nil_of_blank rfl
  rw [List.append_nil, hend, List.append_nil] at ha
  rw [words, display, String.toList_ofList, ha]

end Verdict.Expr
