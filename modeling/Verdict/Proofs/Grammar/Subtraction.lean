import Verdict.Proofs.Grammar.Acceptance
import Verdict.Proofs.Number.Kinds
import Verdict.Proofs.Print.Words
import Verdict.Proofs.Token.Numerals

/-!
# A minus after an operand and after an operator

The lexer tells from the word before a minus whether it is a sign; the grammar has an operator after an operand and
nowhere else. The two agree on every word that a sum can end with but one sort: a name that is also an operator, such
as `matches` in `$a.matches`. It ends an operand, and the lexer takes a minus after it for a sign
(`Expr.minus_after_sum`).
-/

namespace Verdict

namespace Grammar

variable {P Q : Phrase Expr} {table others : Operators} {ws vs : List Word} {w : Word} {e t r : Expr} {op : BinaryOp}

/-! ## How sums end -/

/-- A name that is an operator where one is expected. -/
def IsOperatorName (w : Word) : Prop := w.kind = .identifier ∧ w.text ∈ Token.operatorWords

/-- A word that ends an operand for the lexer too, or the name of an operator. -/
def IsLast (w : Word) : Prop := Token.endsOperand w.kind w.text = true ∨ IsOperatorName w

/-- The phrases end with such a word. -/
def Closes (P : Phrase Expr) : Prop := ∀ ws e, P ws e → ∃ vs w, ws = vs ++ [w] ∧ IsLast w

theorem isLast_closing (hw : w.kind = .rightParen ∨ w.kind = .rightBracket) : IsLast w := by
  left
  rcases hw with hw | hw <;> rw [hw] <;> rfl

theorem isLast_name (f : String) : IsLast (name f) := by
  by_cases hf : f ∈ Token.operatorWords
  · exact .inr ⟨rfl, hf⟩
  · left
    show (!Token.operatorWords.contains f) = true
    simpa using hf

theorem Path.last {fs : List String} (h : Path ws fs) : ∀ x, ∃ vs f, name x :: ws = vs ++ [name f] := by
  induction h with
  | none => exact fun x => ⟨[], x, rfl⟩
  | @field d f ws fs _ _ ih =>
    intro x
    obtain ⟨vs, g, hvs⟩ := ih f
    exact ⟨name x :: d :: vs, g, by rw [hvs]; rfl⟩

theorem Primary.closes : Closes (Primary P) := by
  intro ws e h
  cases h with
  | @unit l r _ hr => exact ⟨[l], r, rfl, isLast_closing (.inl hr)⟩
  | group _ _ hr | tuple _ _ _ _ hr | call _ _ _ hr => exact ⟨_, _, rfl, isLast_closing (.inl hr)⟩
  | bracket _ _ hr => exact ⟨_, _, rfl, isLast_closing (.inr hr)⟩
  | string | number | true | false => exact ⟨[], _, rfl, .inl rfl⟩
  | @reference x ws fs _ hp =>
    obtain ⟨vs, f, hvs⟩ := hp.last x
    exact ⟨vs, name f, hvs, isLast_name f⟩

theorem Operand.closes : ∀ n, Closes (Operand n)
  | 0 => fun _ _ h => h.elim
  | n + 1 => by
    intro ws e h
    cases h with
    | not he =>
      obtain ⟨vs, w, rfl, hw⟩ := Operand.closes n _ _ he
      exact ⟨sign notSymbol :: vs, w, rfl, hw⟩
    | primary hp => exact Primary.closes _ _ hp

theorem Chain.closes (h : Closes P) : Closes (Chain table P) := by
  intro ws e hc
  cases hc with
  | one he => exact h _ _ he
  | @more us _ v _ _ _ _ _ hr =>
    obtain ⟨vs, w, rfl, hw⟩ := h _ _ hr
    exact ⟨us ++ v :: vs, w, by simp, hw⟩

theorem SumOf.closes (n : Nat) : Closes (SumOf (Operand n)) := Chain.closes (Chain.closes (Operand.closes n))

/-! ## How expressions begin -/

/-- A phrase of the first sort is one of the second, or one of these begins it with one of the operators behind it,
and that is not taller. -/
def Begins (P Q : Phrase Expr) (table : Operators) : Prop :=
  ∀ ws e, P ws e → Q ws e ∨
    ∃ us w op vs l, ws = us ++ w :: vs ∧ Q us l ∧ (w, op) ∈ table ∧ l.height ≤ e.height

theorem Begins.chain (h : Begins P Q others) : Begins (Chain table P) Q (table ++ others) := by
  intro ws e hc
  induction hc with
  | one hP =>
    rcases h _ _ hP with hQ | ⟨us, w, op, vs, l, hws, hQ, hw, hl⟩
    · exact .inl hQ
    · exact .inr ⟨us, w, op, vs, l, hws, hQ, List.mem_append_right _ hw, hl⟩
  | @more ws vs w op l r _ hw _ ih =>
    right
    have hle : l.height ≤ (Expr.binary op l r).height := by
      rw [Expr.height]
      omega
    rcases ih with hQ | ⟨us, w', op', vs', l', rfl, hQ, hw', hl'⟩
    · exact ⟨ws, w, op, vs, l, rfl, hQ, List.mem_append_left _ hw, hle⟩
    · exact ⟨us, w', op', vs' ++ w :: vs, l', by simp, hQ, hw', hl'.trans hle⟩

theorem Begins.single : Begins (Single table Q) Q table := by
  intro ws e hs
  cases hs with
  | one hQ => exact .inl hQ
  | @two us vs w op l r hl hw _ =>
    refine .inr ⟨us, w, op, vs, l, rfl, hl, hw, ?_⟩
    rw [Expr.height]
    omega

/-- An expression is a sum, or begins with a sum and an operator that sums do not have. -/
theorem ExpressionOf.begins :
    Begins (ExpressionOf P) (SumOf P) (disjunctions ++ (conjunctions ++ comparisons)) :=
  Begins.single.chain.chain

theorem endsSum_operator : ∀ x ∈ disjunctions ++ (conjunctions ++ comparisons), Parser.EndsSum x.1 := by
  simp [products, sums, comparisons, conjunctions, disjunctions, sign, name, keyword, Parser.EndsOperand, Parser.EndsSum]

end Grammar

open Grammar

/-! ## Reading a whole text -/

section reading

variable {text : String} {us : List Word} {w : Word} {t : Expr} {n : Nat}

theorem parse_trailing (herror : ∀ w ∈ words text, w.kind ≠ .error) (hw : words text = us ++ [w])
    (h : Expression Parser.maxDepth us t) (hh : t.height ≤ Parser.maxDepth) (hstop : Parser.StopsExpression w) :
    ∃ u : Token, u.word = w ∧ Expr.parse text = .error (.trailingInput u.display u.position) := by
  have hproper := (Stream.ofText_passes text).1
  obtain ⟨s', hpasses, -, hfirst⟩ := Stream.passes_words herror
  rw [hw] at hpasses
  obtain ⟨m, hm, hm'⟩ := hpasses.split
  have hcurrent : m.current.word = w := hm'.current
  have hread : Parser.expression (Stream.ofText text) = .ok (t, m) :=
    (Parser.operand_reads Parser.maxDepth).levels.complete hproper hm h hh (hcurrent ▸ hstop)
  have hkind : m.current.kind ≠ .endOfInput := by
    cases hm'
    assumption
  refine ⟨m.current, hcurrent, ?_⟩
  rw [Expr.parse_eq, Parser.whole, Parser.wholeOf, if_neg hfirst, hread]
  exact if_neg hkind

/-- A sum that is read lies within the limit of the parser, whatever the depth it was found with: the parser of sums
reads all of it, so that no operator of another level stands in it. -/
theorem sum_within_limit (hparse : Expr.parse text = .ok t) (h : SumOf (Operand n) (words text) t) :
    SumOf (Operand Parser.maxDepth) (words text) t := by
  obtain ⟨-, hexpression, hh⟩ := (parse_words_iff text t).mp hparse
  rcases ExpressionOf.begins _ _ hexpression with hsum | ⟨us, w, op, vs, l, hws, hl, hop, hle⟩
  · exact hsum
  · exfalso
    have hproper := (Stream.ofText_passes text).1
    obtain ⟨s', hpasses, hend, -⟩ := Stream.passes_words (no_error_of_parse hparse)
    have mono {k : Nat} (hk : k ≤ max n Parser.maxDepth) {ws : List Word} {e : Expr} (he : SumOf (Operand k) ws e) :
        SumOf (Operand (max n Parser.maxDepth)) ws e :=
      Chain.mono (fun _ _ => Chain.mono fun _ _ => Operand.mono hk) he
    have hreads := (Parser.operand_reads (max n Parser.maxDepth)).sumOf
    -- The sum ends where the text does, and the sum that begins it ends before its operator.
    have hstop : Parser.StopsExpression s'.current.word := Parser.EndsExpression.stops (.inr hend)
    have hwhole := hreads.complete hproper hpasses (mono (le_max_left ..) h) hh hstop.endsSum
    rw [hws] at hpasses
    obtain ⟨m, hm, hm'⟩ := hpasses.split
    have hcurrent : m.current.word = w := hm'.current
    have hpart := hreads.complete hproper hm (mono (le_max_right ..) hl) (hle.trans hh)
      (hcurrent ▸ endsSum_operator _ hop)
    rw [hwhole] at hpart
    cases hpart
    have hlength := hm'.length
    rw [List.length_cons] at hlength
    omega

end reading

/-! ## A minus in front of digits -/

section minus

open Lexer

variable {e d : String} {vs : List Word} {w : Word} {t : Expr} {n : Nat}

/-- A minus is an operator after an operand, and part of the number otherwise. -/
theorem scan_minus (a : Bool) (hd : Word.IsDigits d.toList) :
    scan a ('-' :: d.toList) = if a then [sign "-", ⟨.number, d⟩] else [⟨.number, "-" ++ d⟩] := by
  have hnumber (negative : Bool) : scan false (Decimal.signed negative d.toList) =
      [⟨.number, String.ofList (Decimal.signed negative d.toList)⟩] := by
    have h := scan_number negative hd (.inl rfl) (show ([] : List Char).head?.any Decimal.isDigit = false from rfl)
      (by simp)
    rwa [List.append_nil, List.append_nil, show scan true [] = [] from scan_nil_of_blank rfl] at h
  cases a with
  | true =>
    have hplain := hnumber false
    rw [Decimal.signed, if_neg Bool.false_ne_true, String.ofList_toList] at hplain
    rw [if_pos rfl, scan_plain (by decide) (show Lexeme.first true '-' d.toList = .plain .operator ['-'] d.toList from rfl)]
    show sign "-" :: scan false d.toList = _
    rw [hplain]
  | false =>
    have htext : String.ofList ('-' :: d.toList) = "-" ++ d := by
      rw [← String.toList_inj]
      simp
    rw [if_neg Bool.false_ne_true, ← htext]
    exact hnumber true

theorem endsAfter_last (a : Bool) (vs : List Word) (w : Word) :
    endsAfter a (vs ++ [w]) = Token.endsOperand w.kind w.text := by
  rw [endsAfter, List.foldl_append]
  rfl

/-- Some words end with the name of an operator. -/
def EndsInOperatorName (ws : List Word) : Prop := ∃ w ∈ ws.getLast?, IsOperatorName w

/-- After a sum the lexer sees that an operand has ended, unless the sum ends with the name of an operator. -/
theorem endsAfter_sum_iff {ws : List Word} (h : SumOf (Operand n) ws t) (a : Bool) :
    endsAfter a ws = true ↔ ¬ EndsInOperatorName ws := by
  obtain ⟨vs, w, rfl, hlast⟩ := SumOf.closes n _ _ h
  have hname : EndsInOperatorName (vs ++ [w]) ↔ IsOperatorName w := by simp [EndsInOperatorName]
  rw [endsAfter_last, hname]
  constructor
  · rintro hends ⟨hkind, htext⟩
    rw [hkind] at hends
    simp [Token.endsOperand, htext] at hends
  · intro hnot
    rcases hlast with hends | hoperator
    · exact hends
    · exact absurd hoperator hnot

/-- White space or nothing. -/
def IsGap (gap : String) : Prop := ∀ c ∈ gap.toList, Text.isBlank c = true

theorem words_minus (herror : ∀ w ∈ words e, w.kind ≠ .error) {gap : String} (hgap : IsGap gap)
    (hd : Word.IsDigits d.toList) : words (e ++ gap ++ "-" ++ d) = words e ++
      if endsAfter false (words e) then [sign "-", ⟨.number, d⟩] else [⟨.number, "-" ++ d⟩] := by
  have htext : (e ++ gap ++ "-" ++ d).toList = e.toList ++ (gap.toList ++ '-' :: d.toList) := by simp
  have hapart : Lexeme.Apart (gap.toList ++ '-' :: d.toList) := by
    cases hcs : gap.toList with
    | nil => exact Lexeme.apart_mark (by decide) _
    | cons c cs => exact Lexeme.apart_blank (hgap c (by simp [hcs])) _
  rw [words, htext, scan_append herror hapart, scan_blanks _ hgap, scan_minus _ hd]
  rfl

theorem words_operator (herror : ∀ w ∈ words e, w.kind ≠ .error) {x : Word × BinaryOp} (hx : x ∈ Expr.operators)
    {gap gap' : String} (hgap : IsGap gap) (hgap' : IsGap gap') (hne : gap ≠ "") (hne' : gap' ≠ "")
    (hd : Word.IsDigits d.toList) :
    words (e ++ gap ++ x.1.text ++ gap' ++ "-" ++ d) = words e ++ [x.1, ⟨.number, "-" ++ d⟩] := by
  have htext : (e ++ gap ++ x.1.text ++ gap' ++ "-" ++ d).toList =
      e.toList ++ (gap.toList ++ (x.1.text.toList ++ (gap'.toList ++ '-' :: d.toList))) := by simp
  obtain ⟨c, cs, hcs⟩ : ∃ c cs, gap.toList = c :: cs := List.exists_cons_of_ne_nil (by simpa using hne)
  have hapart : Lexeme.Apart (gap.toList ++ (x.1.text.toList ++ (gap'.toList ++ '-' :: d.toList))) := by
    rw [hcs]
    exact Lexeme.apart_blank (hgap c (by simp [hcs])) _
  rw [words, htext, scan_append herror hapart, Expr.scan_between hx hgap hgap' (by simpa using hne'), scan_minus _ hd]
  rfl

end minus

/-! ## One more operand -/

namespace Expr

theorem height_pos (e : Expr) : 0 < e.height := by
  cases e <;> rw [height] <;> omega

/-- The operand that stands last among those of the operators at the top of a tree. -/
def lastOperand : Expr → Expr
  | .binary _ _ right => right.lastOperand
  | e => e

variable {P : Phrase Expr} {ws vs : List Word} {w : Word} {t r : Expr} {op : BinaryOp}

/-- A sum goes on with any operator and an operand, which is the last one of the tree. A product takes the last operand
of the sum with it. -/
theorem sum_operation (h : SumOf P ws t) (hop : (w, op) ∈ operators) (hr : P vs r) (hleaf : r.height = 1) :
    ∃ u, ExpressionOf P (ws ++ w :: vs) u ∧ u.lastOperand = r.lastOperand ∧ u.height ≤ t.height + 1 := by
  have hpos := t.height_pos
  have hle : (Expr.binary op t r).height ≤ t.height + 1 := by
    rw [height]
    omega
  have hsum : SumOf P vs r := .one (.one hr)
  simp only [operators, List.mem_append] at hop
  rcases hop with (((hop | hop) | hop) | hop) | hop
  · exact ⟨.binary op t r, .more (.one (.one (.one h))) hop (.one (.one hsum)), rfl, hle⟩
  · exact ⟨.binary op t r, .one (.more (.one (.one h)) hop (.one hsum)), rfl, hle⟩
  · exact ⟨.binary op t r, .one (.one (.two h hop hsum)), rfl, hle⟩
  · exact ⟨.binary op t r, .one (.one (.one (.more h hop (.one hr)))), rfl, hle⟩
  · cases h with
    | one hp => exact ⟨.binary op t r, .one (.one (.one (.one (.more hp hop hr)))), rfl, hle⟩
    | @more us vs' w' op' l r' hl hmem hr' =>
      have hproduct : SumOf P (us ++ w' :: (vs' ++ w :: vs)) (.binary op' l (.binary op r' r)) :=
        .more hl hmem (.more hr' hop hr)
      refine ⟨.binary op' l (.binary op r' r), ?_, rfl, ?_⟩
      · rw [List.append_assoc, List.cons_append]
        exact .one (.one (.one hproduct))
      · have hpos' := r'.height_pos
        simp only [height]
        omega

theorem exists_integer (negative : Bool) {d : String} (hd : Word.IsDigits d.toList)
    (hfits : (Decimal.natOf d.toList : Int) ≤ IntKind.int64.max) : ∃ k : Integer, k.kind = .int64 ∧
      k.val = (if negative then -Decimal.natOf d.toList else Decimal.natOf d.toList : Int) ∧
      Parser.numberValue? (Decimal.signed negative d.toList) = some (.int k) := by
  have hmin : IntKind.int64.min = -IntKind.int64.max - 1 := by decide
  have hholds : IntKind.int64.Holds (if negative then -Decimal.natOf d.toList else Decimal.natOf d.toList : Int) := by
    cases negative with
    | true => exact ⟨by rw [if_pos rfl]; omega, by rw [if_pos rfl]; omega⟩
    | false => exact ⟨by rw [if_neg Bool.false_ne_true]; omega, hfits⟩
  refine ⟨hholds.integer, rfl, rfl, ?_⟩
  rw [Parser.numberValue?_whole negative hd, Integer.ofInt?_of_holds hholds]

theorem operand_number {s : String} {v : Value} (h : Parser.numberValue? s.toList = some v) :
    Operand Parser.maxDepth [⟨.number, s⟩] (.literal v) :=
  .primary (.number h)

/-- **A minus after a sum.** Behind the text of a sum a minus and digits are subtracted from it, white space or not,
unless the sum ends with the name of an operator: there the minus is taken for a sign, and the text is refused. Behind
the sum and any operator they are a negative number. -/
theorem minus_after_sum {e d : String} {n : Nat} (hparse : parse e = .ok t) (hsum : SumOf (Operand n) (sentence e) t)
    (hheight : t.height ≤ 255) (hd : Word.IsDigits d.toList)
    (hfits : (Decimal.natOf d.toList : Int) ≤ IntKind.int64.max) :
    ∃ k m : Integer, k.kind = .int64 ∧ k.val = Decimal.natOf d.toList ∧ m.kind = .int64 ∧
      m.val = -Decimal.natOf d.toList ∧
      (∀ gap, IsGap gap →
        (¬ EndsInOperatorName (sentence e) → parse (e ++ gap ++ "-" ++ d) = .ok (.binary .sub t (.literal (.int k)))) ∧
        (EndsInOperatorName (sentence e) → ∃ p, parse (e ++ gap ++ "-" ++ d) = .error (.trailingInput ("-" ++ d) p))) ∧
      ∀ x ∈ operators, ∀ gap gap', IsGap gap → IsGap gap' → gap ≠ "" → gap' ≠ "" →
        ∃ u, parse (e ++ gap ++ x.1.text ++ gap' ++ "-" ++ d) = .ok u ∧
          (sentence (e ++ gap ++ x.1.text ++ gap' ++ "-" ++ d)).getLast? = some ⟨.number, "-" ++ d⟩ ∧
          u.lastOperand = .literal (.int m) := by
  rw [sentence_eq] at hsum ⊢
  have hlimit := sum_within_limit hparse hsum
  have herror := no_error_of_parse hparse
  obtain ⟨k, hkind, hval, hnumber⟩ := exists_integer false hd hfits
  obtain ⟨m, hkind', hval', hnumber'⟩ := exists_integer true hd hfits
  have hminus : Decimal.signed true d.toList = ("-" ++ d).toList := by simp [Decimal.signed]
  have hsubtrahend := operand_number hnumber
  rw [hminus] at hnumber'
  have hnegative := operand_number hnumber'
  refine ⟨k, m, hkind, hval, hkind', hval', fun gap hgap => ⟨fun hnot => ?_, fun hends => ?_⟩, ?_⟩
  · have hwords := words_minus herror hgap hd
    rw [if_pos ((endsAfter_sum_iff hlimit false).mpr hnot)] at hwords
    rw [parse_words_iff, no_error_iff, hwords]
    refine ⟨?_, .one (.one (.one (.more hlimit (by decide) (.one hsubtrahend)))), ?_⟩
    · simpa [or_imp, forall_and, sign] using herror
    · rw [height, height, Parser.maxDepth]
      omega
  · have hwords := words_minus herror hgap hd
    rw [if_neg fun h => (endsAfter_sum_iff hlimit false).mp h hends] at hwords
    have herror' : ∀ w ∈ words (e ++ gap ++ "-" ++ d), w.kind ≠ .error := by
      rw [hwords]
      simpa [or_imp, forall_and] using herror
    have hstop : Parser.StopsExpression ⟨.number, "-" ++ d⟩ := by
      show TokenKind.number ∉ _
      decide
    obtain ⟨u, hu, herr⟩ := parse_trailing herror' hwords (.one (.one (.one hlimit)))
      (by rw [Parser.maxDepth]; omega) hstop
    have hkind : u.kind = .number := congrArg Word.kind hu
    have hdisplay : u.display = "-" ++ d := by
      rw [Token.display, hkind]
      exact congrArg Word.text hu
    exact ⟨u.position, by rw [herr, hdisplay]⟩
  · intro x hx gap gap' hgap hgap' hne hne'
    have hwords := words_operator herror hx hgap hgap' hne hne' hd
    obtain ⟨u, hu, hlast, hle⟩ := sum_operation hlimit hx hnegative (by rw [height])
    have hkinds : ∀ x ∈ operators, x.1.kind ≠ .error := by decide
    rw [sentence_eq, hwords]
    refine ⟨u, ?_, by simp, hlast⟩
    rw [parse_words_iff, no_error_iff, hwords]
    refine ⟨?_, hu, ?_⟩
    · simpa [or_imp, forall_and, hkinds x hx] using herror
    · rw [Parser.maxDepth]
      omega

/-- A call and a path, added. -/
def callAndPath : Expr := .binary .add (.call "size" [.variable "xs" []]) (.variable "a" ["b"])

theorem minus_after_sum_callAndPath :
    parse "size($xs) + $a.b" = .ok callAndPath ∧
      ∃ k m : Integer, k.val = 12 ∧ m.val = -12 ∧
        parse "size($xs) + $a.b-12" = .ok (.binary .sub callAndPath (.literal (.int k))) ∧
        ∃ u, parse "size($xs) + $a.b matches -12" = .ok u ∧ u.lastOperand = .literal (.int m) := by
  have hparse : parse "size($xs) + $a.b" = .ok callAndPath := rfl
  have hwords : sentence "size($xs) + $a.b" =
      [name "size", leftParen, name "$xs", rightParen, sign "+", name "$a", ⟨.dot, "."⟩, name "b"] := by decide
  have hargument : Operand 1 [name "$xs"] (.variable "xs" []) := .primary (.reference (x := "$xs") (by decide) .none)
  have hcall : Operand 2 (name "size" :: leftParen :: [name "$xs"] ++ [rightParen]) (.call "size" [.variable "xs" []]) :=
    .primary (.call (by simp [IsSigned]) rfl (.last (ExpressionOf.single hargument)) rfl)
  have hpath : Operand 2 [name "$a", ⟨.dot, "."⟩, name "b"] (.variable "a" ["b"]) :=
    .primary (.reference (x := "$a") (by decide) (.field rfl .none))
  have hsum : SumOf (Operand 2) (sentence "size($xs) + $a.b") callAndPath := by
    rw [hwords]
    exact Chain.more (.one (Chain.one hcall)) (by decide) (Chain.one hpath)
  have hname : ¬ EndsInOperatorName (sentence "size($xs) + $a.b") := by
    rw [hwords]
    simp [EndsInOperatorName, IsOperatorName, name, Token.operatorWords]
  have hspace : IsGap " " := by
    show ∀ c ∈ [' '], Text.isBlank c = true
    exact List.forall_mem_singleton.mpr (by decide)
  obtain ⟨k, m, -, hk, -, hm, hafter, hbetween⟩ :=
    minus_after_sum (d := "12") hparse hsum (by decide) ⟨by decide, List.all_eq_true.mp rfl⟩ (by decide)
  obtain ⟨u, hu, -, hlast⟩ := hbetween (name "matches", .matching) (by decide) " " " " hspace hspace (by decide) (by decide)
  exact ⟨hparse, k, m, hk, hm, (hafter "" (by simp [IsGap])).1 hname, u, hu, hlast⟩

/-- The field `matches` is an operand like any other, yet the minus after it is taken for a sign. -/
theorem minus_after_operatorName :
    parse "$a.matches" = .ok (.variable "a" ["matches"]) ∧
      SumOf (Operand 1) (sentence "$a.matches") (.variable "a" ["matches"]) ∧
      parse "$a.matches-1" = .error (.trailingInput "-1" ⟨1, 11⟩) := by
  have hwords : sentence "$a.matches" = [name "$a", ⟨.dot, "."⟩, name "matches"] := by decide
  refine ⟨rfl, ?_, rfl⟩
  rw [hwords]
  exact .one (.one (.primary (.reference (x := "$a") (by decide) (.field rfl .none))))

end Expr

end Verdict
