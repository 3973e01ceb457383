import Verdict.Proofs.Grammar.Watched

/-!
# The parser goes on

Each level of the grammar that reads something takes a token, and so does each round of a loop; a loop is one round and the
loop again for what is left. The parser never goes on from the end of the text, so it looks at no more tokens than there
are, whether it reads the text or refuses it (`parser_progress`).
-/

namespace Verdict.Parser

open Verdict.Stream Verdict.Grammar

/-- Where the parser reads something from the stream, fewer tokens are left. -/
def Shortens {α : Type} (p : Parser α) (s : Stream) : Prop := ∀ a s', p s = .ok (a, s') → s'.rest.length < s.rest.length

/-! ## Levels -/

/-- The comparisons at a depth, and what they compare. -/
def sumAt (depth : Nat) : Parser Expr := chain sumOp? (chain productOp? (operand depth))

/-- The loops over operators at a depth: which operators they take, and the operands between them. -/
def loopsAt (depth : Nat) : List ((Token → Option BinaryOp) × Parser Expr) :=
  [(productOp?, operand depth), (sumOp?, chain productOp? (operand depth)),
    (andOp?, single comparisonOp? (sumAt depth)), (orOp?, chain andOp? (single comparisonOp? (sumAt depth)))]

/-- The levels of the grammar at a depth, from the tightest to the loosest. -/
def levelsAt (depth : Nat) : List (Parser Expr) :=
  [primary (expressionOf (operand depth)), operand depth, chain productOp? (operand depth), sumAt depth,
    single comparisonOp? (sumAt depth), chain andOp? (single comparisonOp? (sumAt depth)), expressionOf (operand depth)]

/-! ## Rounds -/

/-- A round of a loop over operators: an operator and the operand behind it. -/
def operation (p : Parser Expr) (op : BinaryOp) (left : Expr) : Parser Expr := fun s => do
  let s ← s.advance
  let (right, s) ← p s
  let e ← bounded (.binary op left right)
  return (e, s)

/-- A round of a list: an item with the comma or the closing token behind it, and whether that was a comma. -/
def entry (close : TokenKind) (closeName : String) (item : Parser Expr) : Parser (Expr × Bool) := fun s => do
  let (e, s) ← item s
  if s.current.kind = .comma then
    let s ← s.advance
    return ((e, true), s)
  else if s.current.kind = close then
    let s ← s.advance
    return ((e, false), s)
  else .error (s.unexpected ("',' or " ++ closeName))

/-- A round of a path: a point and the field behind it. -/
def field : Parser String := fun s => do
  let s ← s.advance
  let (t, s) ← expect .identifier "field name" s
  return (t.text, s)

/-! ## Levels take a token -/

section levels

variable {op? : Token → Option BinaryOp} {operators : Operators} {p : Parser Expr} {s : Stream}

/-- The parser, watched, goes on from a token wherever it reads something. -/
def Steps (p : Parser Expr) : Prop := ∃ w, Watched.Erases w p ∧ Watched.Telling w ∧ ∀ s, Watched.Takes (w s)

theorem Steps.shortens (h : Steps p) (hs : s.Clear) : Shortens p s := by
  obtain ⟨w, herases, htells, htakes⟩ := h
  intro e s' hp
  rw [← herases.result] at hp
  obtain ⟨-, htokens⟩ := (htells s hs).left e s' hp
  have hpassed := List.length_pos_iff.mpr (htakes s _ hp)
  have hlength := congrArg List.length htokens
  rw [List.length_append, Stream.tokens, Stream.tokens, List.length_cons, List.length_cons] at hlength
  omega

theorem Steps.chain (hop : ReadsWord op?) (hf : Finds op? operators) (h : Steps p) : Steps (chain op? p) := by
  obtain ⟨w, herases, htells, htakes⟩ := h
  exact ⟨_, herases.chain hop, htells.chain hf, fun s => (htakes s).bind _⟩

theorem Steps.single (hop : ReadsWord op?) (hf : Finds op? operators) (h : Steps p) : Steps (single op? p) := by
  obtain ⟨w, herases, htells, htakes⟩ := h
  exact ⟨_, herases.single hop, htells.single hf, fun s => (htakes s).bind _⟩

theorem operand_steps (depth : Nat) : Steps (operand depth) :=
  ⟨_, Watched.operand_erases depth, Watched.operand_telling depth, Watched.operand_takes depth⟩

theorem primary_steps (depth : Nat) : Steps (primary (expressionOf (operand depth))) :=
  ⟨_, (Watched.operand_erases depth).expressionOf.primary, (Watched.operand_telling depth).expressionOf.primary,
    Watched.primary_takes _⟩

theorem product_steps (depth : Nat) : Steps (Parser.chain productOp? (operand depth)) :=
  (operand_steps depth).chain readsWord_productOp? products_found

theorem sum_steps (depth : Nat) : Steps (sumAt depth) := (product_steps depth).chain readsWord_sumOp? sums_found

theorem comparison_steps (depth : Nat) : Steps (Parser.single comparisonOp? (sumAt depth)) :=
  (sum_steps depth).single readsWord_comparisonOp? comparisons_found

theorem conjunction_steps (depth : Nat) : Steps (Parser.chain andOp? (Parser.single comparisonOp? (sumAt depth))) :=
  (comparison_steps depth).chain readsWord_andOp? conjunctions_found

theorem expression_steps (depth : Nat) : Steps (expressionOf (operand depth)) :=
  (conjunction_steps depth).chain readsWord_orOp? disjunctions_found

theorem levels_step {depth : Nat} (h : p ∈ levelsAt depth) : Steps p := by
  simp only [levelsAt, List.mem_cons, List.not_mem_nil, or_false] at h
  rcases h with rfl | rfl | rfl | rfl | rfl | rfl | rfl
  · exact primary_steps depth
  · exact operand_steps depth
  · exact product_steps depth
  · exact sum_steps depth
  · exact comparison_steps depth
  · exact conjunction_steps depth
  · exact expression_steps depth

end levels

/-! ## Rounds take a token -/

section rounds

variable {op? : Token → Option BinaryOp} {operators : Operators} {p : Parser Expr} {close : TokenKind}
  {closeName : String} {s : Stream}

theorem operation_shortens (hp : Forward p) (hs : s.Clear) (hk : s.current.kind ≠ .endOfInput) (op : BinaryOp)
    (left : Expr) : Shortens (operation p op left) s := by
  intro e s' h
  obtain ⟨m, hm, h⟩ := bind_eq_ok.mp h
  obtain ⟨⟨r, n⟩, hn, h⟩ := bind_eq_ok.mp h
  obtain ⟨e', -, h⟩ := bind_eq_ok.mp h
  cases h
  obtain ⟨hmc, hmlen⟩ := hs.advance hk hm
  obtain ⟨-, hnlen⟩ := hp.clear hmc hn
  omega

theorem entry_shortens (hp : Forward p) (hshort : Shortens p s) (hs : s.Clear) (hclose : close ≠ .endOfInput) :
    Shortens (entry close closeName p) s := by
  intro x s' h
  obtain ⟨⟨e, m⟩, hm, h⟩ := bind_eq_ok.mp h
  obtain ⟨hmc, -⟩ := hp.clear hs hm
  have hmlen := hshort e m hm
  dsimp only at h
  split at h
  · next hk =>
    obtain ⟨n, hn, h⟩ := bind_eq_ok.mp h
    cases h
    obtain ⟨-, hnlen⟩ := hmc.advance (by rw [hk]; decide) hn
    omega
  · split at h
    · next hk =>
      obtain ⟨n, hn, h⟩ := bind_eq_ok.mp h
      cases h
      obtain ⟨-, hnlen⟩ := hmc.advance (hk ▸ hclose) hn
      omega
    · cases h

theorem field_shortens (hs : s.Clear) (hk : s.current.kind = .dot) : Shortens field s := by
  intro x s' h
  obtain ⟨m, hm, h⟩ := bind_eq_ok.mp h
  obtain ⟨⟨t, n⟩, hn, h⟩ := bind_eq_ok.mp h
  cases h
  obtain ⟨hmc, hmlen⟩ := hs.advance (by rw [hk]; decide) hm
  obtain ⟨hk', -, hadv⟩ := expect_eq_ok.mp hn
  obtain ⟨-, hnlen⟩ := hmc.advance (by rw [hk']; decide) hadv
  omega

theorem chainFrom_operation (hf : Finds op? operators) (hp : Forward p) (hs : s.Clear) {op : BinaryOp}
    (hop : op? s.current = some op) (left : Expr) : chainFrom op? p s.rest.length left s =
      operation p op left s >>= fun x => chainFrom op? p x.2.rest.length x.1 x.2 := by
  rw [chainFrom_round hf hp hs hop]
  simp only [operation, bind_assoc, pure_bind]

theorem items_entry (hp : Forward p) (hs : s.Clear) (hk : s.current.kind ≠ close) : items close closeName p s =
    entry close closeName p s >>= fun x =>
      if x.1.2 then items close closeName p x.2 >>= fun y => .ok (x.1.1 :: y.1, y.2) else .ok ([x.1.1], x.2) := by
  rw [items_round hp hs hk]
  simp only [entry, bind_assoc]
  refine bind_congr fun x => ?_
  split
  · simp only [bind_assoc, pure_bind, if_true]
  · split
    · simp only [bind_assoc, pure_bind, Bool.false_eq_true, if_false]
    · rfl

theorem path_field (hs : s.Clear) (hk : s.current.kind = .dot) : path s.rest.length s =
    field s >>= fun x => path x.2.rest.length x.2 >>= fun y => .ok (x.1 :: y.1, y.2) := by
  rw [path_round hs hk]
  simp only [field, bind_assoc, pure_bind]

end rounds

theorem loop_found {depth : Nat} {x : (Token → Option BinaryOp) × Parser Expr} (h : x ∈ loopsAt depth) :
    (∃ operators, Finds x.1 operators) ∧ Forward x.2 := by
  have hoperand := operand_commits depth
  have hproduct := hoperand.chain products_found
  have hcomparison := (hproduct.chain sums_found).single comparisons_found
  have hconjunction := hcomparison.chain conjunctions_found
  simp only [loopsAt, List.mem_cons, List.not_mem_nil, or_false] at h
  rcases h with rfl | rfl | rfl | rfl
  · exact ⟨⟨_, products_found⟩, hoperand.forward⟩
  · exact ⟨⟨_, sums_found⟩, hproduct.forward⟩
  · exact ⟨⟨_, conjunctions_found⟩, hcomparison.forward⟩
  · exact ⟨⟨_, disjunctions_found⟩, hconjunction.forward⟩

/-! ## Whole texts -/

/-- No token before the end of a text is its end, so there are fewer of them than there are tokens. -/
theorem length_lt_of_front {text : String} {passed : List Token} (hfront : passed <+: tokenize text)
    (hwithin : ∀ t ∈ passed, t.kind ≠ .endOfInput) : passed.length < (tokenize text).length := by
  obtain ⟨us, e, htokens, -, -, he⟩ := tokenize_eq text
  refine lt_of_le_of_ne hfront.length_le fun hlength => ?_
  refine hwithin e ?_ (congrArg Word.kind he)
  rw [hfront.eq_of_length hlength, htokens]
  exact List.mem_append_right _ (List.mem_singleton.mpr rfl)

/-- **The parser always goes on, and not past the end.** At any depth and wherever the parser stands, each level of the
grammar that reads something leaves fewer tokens. A loop over operators, items or fields is one round and the loop again,
and a round that does not fail leaves fewer tokens. While a text is read, with success or without, the parser goes on from
the tokens at its front, each once, but never from its end; so with the first token it asks for no more tokens than there
are. -/
theorem parser_progress (text : String) :
    (∀ depth s, s.Clear →
      (∀ p ∈ levelsAt depth, Shortens p s) ∧
      (∀ x ∈ loopsAt depth, ∀ op, x.1 s.current = some op → ∀ left,
        Shortens (operation x.2 op left) s ∧ chainFrom x.1 x.2 s.rest.length left s =
          operation x.2 op left s >>= fun y => chainFrom x.1 x.2 y.2.rest.length y.1 y.2) ∧
      (∀ close ∈ [TokenKind.rightParen, .rightBracket], s.current.kind ≠ close → ∀ closeName,
        let item := expressionOf (operand depth)
        Shortens (entry close closeName item) s ∧ items close closeName item s =
          entry close closeName item s >>= fun x =>
            if x.1.2 then items close closeName item x.2 >>= fun y => .ok (x.1.1 :: y.1, y.2)
            else .ok ([x.1.1], x.2)) ∧
      (s.current.kind = .dot → Shortens field s ∧ path s.rest.length s =
        field s >>= fun x => path x.2.rest.length x.2 >>= fun y => .ok (x.1 :: y.1, y.2))) ∧
    let run := Watched.parse text
    run.result = Expr.parse text ∧ run.passed <+: tokenize text ∧ (∀ t ∈ run.passed, t.kind ≠ .endOfInput) ∧
      1 + run.passed.length ≤ (tokenize text).length := by
  refine ⟨fun depth s hs => ⟨fun p hp => (levels_step hp).shortens hs, ?_, ?_, ?_⟩, ?_⟩
  · intro x hx op hop left
    obtain ⟨⟨operators, hf⟩, hp⟩ := loop_found hx
    exact ⟨operation_shortens hp hs (hf.current_ne hs hop) op left, chainFrom_operation hf hp hs hop left⟩
  · intro close hclose hk closeName
    have hend : close ≠ .endOfInput := by
      rintro rfl
      revert hclose
      decide
    have hp : Forward (expressionOf (operand depth)) := (operand_commits depth).expressionOf.forward
    exact ⟨entry_shortens hp ((expression_steps depth).shortens hs) hs hend, items_entry hp hs hk⟩
  · exact fun hk => ⟨field_shortens hs hk, path_field hs hk⟩
  · obtain ⟨hresult, hfront, hwithin, -⟩ := Watched.parse_tells text
    have hlength := length_lt_of_front hfront hwithin
    exact ⟨hresult, hfront, hwithin, by omega⟩

/-- A text that breaks off is refused at its end, behind all other tokens. -/
example : ((Watched.parse "[1, (2,").passed.length, (tokenize "[1, (2,").length) = (6, 7) := by
  decide +kernel

end Verdict.Parser
