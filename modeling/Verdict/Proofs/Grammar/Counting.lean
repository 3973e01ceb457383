import Verdict.Proofs.Grammar.Passes
import Verdict.Proofs.Grammar.Simulation
import Mathlib.Logic.Function.Iterate

/-!
# Counting operands

The parser that runs counts the operands that it is inside of and keeps the heights of its trees. It does what the plain
one does with the depth that the counter leaves, and gives the counter back as it was (`operand_counts`). What stands inside
`k` operands is read with `k` on the counter, and so not at all if there are too many (`expressionRun_inside`).
-/

namespace Verdict

namespace Parser

theorem agree_lift {α β : Type} {r : α → β → Prop} {x : Except ParseError α} {y : Except ParseError β}
    (h : Agree Eq r x y) (c : Nat) : Agree Eq (fun a b => r a.1 b ∧ a.2 = c) ((liftM x : Run α) c) y := by
  cases h with
  | ok hr => exact .ok ⟨hr, rfl⟩
  | error he => exact .error he

theorem map_eq_of_forall₂ {α β : Type} {f : α → β} {as : List α} {bs : List β}
    (h : List.Forall₂ (fun a b => f a = b) as bs) : as.map f = bs :=
  (congrFun₂ List.forall₂_eq_eq_eq _ _).mp (List.forall₂_map_left_iff.mpr h)

theorem map_of_rel {b : Branch Parsed} {c : Branch Expr} (h : Branch.Rel (fun p e => p.expr = e) b c) :
    b.map Parsed.expr = c := by
  cases h with
  | not h => exact congrArg Branch.not h
  | binary h h' => exact congrArg₂ (Branch.binary _) h h'
  | list h => exact congrArg Branch.list (map_eq_of_forall₂ h)
  | call h => exact congrArg (Branch.call _) (map_eq_of_forall₂ h)

/-- The height that is kept is that of the tree, so a node is refused where the plain parser finds it too tall. -/
theorem node_agrees (b : Branch Parsed) :
    Agree Eq (fun p e => p.expr = e) (Parsed.node b) (bounded (b.map Parsed.expr).expr) := by
  unfold Parsed.node bounded
  rw [Parsed.height_branch]
  split
  · exact .ok rfl
  · exact .error rfl

/-- The parser that runs, from a counter that it gives back as it was, and the plain one. -/
def counting (c : Nat) : Simulation Run (Except ParseError) where
  toSamePlaces := .equal
  Tree p e := p.expr = e
  Run r x y := Agree Eq (fun a b => r a.1 b ∧ a.2 = c) (x c) y
  done h := .ok ⟨h, rfl⟩
  bind hx hf := Agree.bind hx fun a b ⟨hr, hc⟩ => hc ▸ hf a.1 b hr
  advance {s t} h := h ▸ agree_lift (.refl s.advance) c
  refuse _ h why := .error (congrArg why.error h)
  literal _ := rfl
  reference _ _ := rfl
  node {b d} h := by
    obtain rfl := map_of_rel h
    exact agree_lift (node_agrees b) c

theorem counted_apply {α : Type} (x : Run α) (c : Nat) : counted x c =
    if maxDepth ≤ c then .error (.tooDeep maxDepth) else (x (c + 1)).map fun a => (a.1, a.2 - 1) := by
  show (counted x).run c = _
  by_cases h : maxDepth ≤ c
  · have hlt : maxDepth < c + 1 := Nat.lt_succ_of_le h
    simp only [counted, StateT.run_bind, StateT.run_modify, StateT.run_get, pure_bind, hlt, if_true, h]
    rfl
  · have hle : ¬ maxDepth < c + 1 := by omega
    simp only [counted, StateT.run_bind, StateT.run_modify, StateT.run_get, pure_bind, hle, if_false, h]
    rw [StateT.run]
    cases x (c + 1) <;> rfl

theorem operand_refused {fuel c : Nat} {s : Stream} (h : maxDepth ≤ c) :
    operand (m := Run) (fuel + 1) s c = .error (.tooDeep maxDepth) :=
  (counted_apply (operandWith (operand fuel) s) c).trans (if_pos h)

/-- **The counter does what the depth that is left does**, and is given back as it was. -/
theorem operand_counts (fuel : Nat) :
    ∀ c, (counting c).Same (counting c).Tree (operand fuel) (operand (min fuel (maxDepth - c))) := by
  induction fuel with
  | zero =>
    intro c s t _
    rw [Nat.zero_min]
    exact .error rfl
  | succ fuel ih =>
    intro c s t hst
    show Agree _ _ (counted (operandWith (operand fuel) s) c) _
    rw [counted_apply]
    split
    · next h =>
      rw [Nat.sub_eq_zero_of_le h, Nat.min_zero]
      exact .error rfl
    · next h =>
      -- With one more on the counter, one less is left of the depth.
      obtain ⟨left, hleft⟩ : ∃ left, maxDepth - c = left + 1 := ⟨maxDepth - c - 1, by omega⟩
      have hinner := ih (c + 1)
      rw [Nat.sub_add_eq, hleft, Nat.add_sub_cancel] at hinner
      rw [hleft, Nat.add_min_add_right, operand_succ]
      exact (hinner.operandWith s t hst).map fun a b ⟨hr, hc⟩ => ⟨hr, congrArg (· - 1) hc⟩

theorem operand_eq (fuel c : Nat) (s : Stream) :
    (operand (m := Run) fuel s c).map (fun x => ((x.1.1.expr, x.1.2), x.2)) =
      (operand (min fuel (maxDepth - c)) s).map fun x => (x, c) :=
  ((operand_counts fuel c s s rfl).map₂ fun _ _ ⟨⟨he, hs⟩, hc⟩ => Prod.ext (Prod.ext he hs) hc).eq

theorem operand_gives_back {fuel c c' : Nat} {s : Stream} {x : Parsed × Stream}
    (h : operand (m := Run) fuel s c = .ok (x, c')) : c' = c := by
  have heq := operand_eq fuel c s
  rw [h] at heq
  obtain ⟨y, -, hy⟩ := map_eq_ok.mp heq.symm
  exact (congrArg Prod.snd hy).symm

/-- The depth of the recursion makes no difference as long as it is not less than the limit. -/
theorem whole_counted {fuel : Nat} (h : maxDepth ≤ fuel) (s : Stream) :
    ((wholeOf (m := Run) (expressionOf (operand fuel)) s).run' 0).map Parsed.expr = whole s := by
  have hoperand := operand_counts fuel 0
  rw [Nat.sub_zero, Nat.min_eq_right h] at hoperand
  have hrun := hoperand.expressionOf.wholeOf (Eq.refl s)
  exact (hrun.map (f := Prod.fst) fun _ _ h => h.1).map_eq

/-! ## Operands inside others -/

/-- Operands read inside `k` others have `k` less depth left. -/
theorem operand_iterate {m : Type → Type} {τ : Type} [Reading m τ] (n k : Nat) : (operand (n + k) : ParserOf m τ) =
    (fun inner s => Reading.inside (operandWith inner s))^[k] (operand n) := by
  induction k with
  | zero => rfl
  | succ k ih =>
    rw [Function.iterate_succ', Function.comp_apply, ← ih]
    rfl

theorem lift_shares {α : Type} (x : Except ParseError α) (c : Nat) :
    Agree Eq (fun a b => a.1 = b.1 ∧ a.2 = c ∧ b.2 = c) ((liftM x : Run α) c) ((liftM x : Run α) c) := by
  cases x with
  | ok a => exact .ok ⟨rfl, rfl, rfl⟩
  | error e => exact .error rfl

/-- Two runs that do the same from that counter, and give it back as it was. -/
def sharing (c : Nat) : Simulation Run Run where
  toSameTrees := .equal _
  toSamePlaces := .equal
  Run r x y := Agree Eq (fun a b => r a.1 b.1 ∧ a.2 = c ∧ b.2 = c) (x c) (y c)
  done h := .ok ⟨h, rfl, rfl⟩
  bind hx hf := Agree.bind hx fun ⟨a, c⟩ ⟨b, d⟩ ⟨hr, hc, hd⟩ => by
    obtain rfl : c = d := hc.trans hd.symm
    exact hc ▸ hf a b hr
  advance {s t} h := h ▸ lift_shares s.advance c
  refuse _ h why := .error (congrArg why.error h)
  node {b d} h := by
    obtain rfl := h.eq
    exact lift_shares (Parsed.node b) c

/-- An operand that is counted, given how the operands in it are read. -/
def nested (inner : ParserOf Run Parsed) : ParserOf Run Parsed := fun s => counted (operandWith inner s)

variable {p q : ParserOf Run Parsed}

theorem nested_sharing {c : Nat} (h : (sharing (c + 1)).Same Eq p q) : (sharing c).Same Eq (nested p) (nested q) := by
  intro s t hst
  show Agree _ _ (counted _ c) (counted _ c)
  rw [counted_apply, counted_apply]
  split
  · exact .error rfl
  · exact (h.operandWith s t hst).map₂ fun a b ⟨hr, ha, hb⟩ => ⟨hr, congrArg (· - 1) ha, congrArg (· - 1) hb⟩

theorem iterate_nested_sharing (k : Nat) :
    ∀ c, (sharing (c + k)).Same Eq p q → (sharing c).Same Eq (nested^[k] p) (nested^[k] q) := by
  induction k with
  | zero => exact fun c h => h
  | succ k ih =>
    intro c h
    rw [Function.iterate_succ', Function.comp_apply, Function.comp_apply]
    exact nested_sharing (ih (c + 1) (by rwa [Nat.add_right_comm]))

theorem operand_nested (n k : Nat) : operand (n + k) = nested^[k] (operand n) := operand_iterate n k

/-- **What stands inside `k` operands is read with `k` on the counter**: whatever else it would do with another one on it
makes no difference. -/
theorem expressionRun_inside {k : Nat} (hk : k ≤ maxDepth) {inner : ParserOf Run Parsed}
    (h : ∀ s, inner s k = operand (m := Run) (maxDepth + 1 - k) s k) (s : Stream) :
    expressionRun s 0 = expressionOf (nested^[k] inner) s 0 := by
  have hsame : (sharing (0 + k)).Same Eq (operand (maxDepth + 1 - k)) inner := by
    rintro s _ rfl
    rw [Nat.zero_add]
    show Agree _ _ (operand (m := Run) (maxDepth + 1 - k) s k) (inner s k)
    rw [h]
    cases hx : operand (m := Run) (maxDepth + 1 - k) s k with
    | error e => exact .error rfl
    | ok x => exact .ok ⟨⟨rfl, rfl⟩, operand_gives_back hx, operand_gives_back hx⟩
  have hrun := (iterate_nested_sharing k 0 hsame).expressionOf s s rfl
  rw [← operand_nested, Nat.sub_add_cancel (hk.trans (Nat.le_succ _))] at hrun
  exact (hrun.mono (fun _ _ => id) fun a b ⟨⟨he, hs⟩, ha, hb⟩ => Prod.ext (Prod.ext he hs) (ha.trans hb.symm)).eq

end Parser

/-- **The parser that counts does what the plain one does.** -/
theorem Expr.parse_eq (text : String) : Expr.parse text = Parser.whole (Stream.ofText text) :=
  Parser.whole_counted (Nat.le_succ _) _

end Verdict
