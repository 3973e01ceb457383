import Verdict.Proofs.Grammar.Operands

/-!
# Loops over the tokens that are left

Operators, items and fields are read in loops that run as often as there are tokens left. A round takes one token at
least, so a larger number is as good (`chainFrom_eq`, `itemsUpTo_eq`, `path_eq`), and a loop is one round and the loop
again for the tokens that are left then.
-/

namespace Verdict

theorem bind_congr_of_ok {ε α β : Type} {x : Except ε α} {f g : α → Except ε β} (h : ∀ a, x = .ok a → f a = g a) :
    (x >>= f) = (x >>= g) := by
  cases x with
  | ok a => exact h a rfl
  | error e => rfl

namespace Stream

/-- The stream is proper and has come to a token of the language, as it always has between two steps of the parser. -/
structure Clear (s : Stream) : Prop where
  proper : s.Proper
  current : s.current.kind ≠ .error

theorem Passes.clear {s s' : Stream} {ws : List Word} (h : Passes s ws s') (hs : s.Clear) : s'.Clear := by
  induction h with
  | refl => exact hs
  | step _ hu _ ih => exact ih ⟨hs.proper.tail, hu⟩

theorem Passes.length_le {s s' : Stream} {ws : List Word} (h : Passes s ws s') : s'.rest.length ≤ s.rest.length := by
  rw [h.length]
  exact Nat.le_add_left _ _

theorem Proper.length_pos {s : Stream} (hs : s.Proper) (hk : s.current.kind ≠ .endOfInput) : 0 < s.rest.length := by
  obtain ⟨t, ts⟩ := s
  obtain ⟨us, e, he, hend⟩ := hs.ended
  cases ts with
  | cons u ts => exact Nat.succ_pos _
  | nil =>
    cases us with
    | nil =>
      cases he
      exact absurd hend hk
    | cons v us => simp at he

theorem Clear.advance {s m : Stream} (hs : s.Clear) (hk : s.current.kind ≠ .endOfInput) (h : s.advance = .ok m) :
    m.Clear ∧ s.rest.length = m.rest.length + 1 := by
  have hm := passes_of_advance hs.proper hk h
  refine ⟨hm.clear hs, ?_⟩
  rw [hm.length, List.length_singleton, Nat.add_comm]

end Stream

namespace Parser

open Verdict.Stream Verdict.Grammar

/-- The parser goes over words to what it leaves. -/
def Forward {α : Type} (p : Parser α) : Prop := ∀ {s a s'}, s.Clear → p s = .ok (a, s') → ∃ ws, Passes s ws s'

variable {op? : Token → Option BinaryOp} {operators : Operators} {p : Parser Expr} {close : TokenKind}
  {closeName : String}

theorem Forward.clear (hp : Forward p) {s s' : Stream} {e : Expr} (hs : s.Clear) (h : p s = .ok (e, s')) :
    s'.Clear ∧ s'.rest.length ≤ s.rest.length := by
  obtain ⟨ws, hw⟩ := hp hs h
  exact ⟨hw.clear hs, hw.length_le⟩

/-! ## Operators -/

theorem Finds.current_ne (hf : Finds op? operators) {s : Stream} (hs : s.Clear) {op : BinaryOp}
    (hop : op? s.current = some op) : s.current.kind ≠ .endOfInput :=
  hf.goes_on _ ((hf.iff _ hs.proper.current_genuine op).mp hop)

theorem chainFrom_fuel (hf : Finds op? operators) (hp : Forward p) (fuel : Nat) :
    ∀ (more : Nat) {left : Expr} {s : Stream}, s.Clear → s.rest.length ≤ fuel →
      chainFrom op? p (fuel + more) left s = chainFrom op? p fuel left s := by
  induction fuel with
  | zero =>
    intro more left s hs hlen
    cases hop : op? s.current with
    | none => rw [chainFrom_done hop, chainFrom_done hop]
    | some op =>
      have hpos := hs.proper.length_pos (hf.current_ne hs hop)
      omega
  | succ fuel ih =>
    intro more left s hs hlen
    rw [Nat.succ_add, chainFrom, chainFrom]
    cases hop : op? s.current with
    | none => rfl
    | some op =>
      refine bind_congr_of_ok fun m hm => bind_congr_of_ok fun x hx => bind_congr_of_ok fun e _ => ?_
      obtain ⟨hmc, hmlen⟩ := hs.advance (hf.current_ne hs hop) hm
      obtain ⟨hmc', hmlen'⟩ := hp.clear hmc hx
      exact ih more hmc' (by omega)

theorem chainFrom_eq (hf : Finds op? operators) (hp : Forward p) {fuel : Nat} {left : Expr} {s : Stream} (hs : s.Clear)
    (hfuel : s.rest.length ≤ fuel) : chainFrom op? p fuel left s = chainFrom op? p s.rest.length left s := by
  obtain ⟨more, rfl⟩ := Nat.exists_eq_add_of_le hfuel
  exact chainFrom_fuel hf hp _ more hs (le_refl _)

theorem chainFrom_round (hf : Finds op? operators) (hp : Forward p) {left : Expr} {s : Stream} (hs : s.Clear)
    {op : BinaryOp} (hop : op? s.current = some op) : chainFrom op? p s.rest.length left s =
      s.advance >>= fun s => p s >>= fun x => bounded (.binary op left x.1) >>= fun e =>
        chainFrom op? p x.2.rest.length e x.2 := by
  have hend := hf.current_ne hs hop
  obtain ⟨k, hk⟩ := Nat.exists_eq_succ_of_ne_zero (hs.proper.length_pos hend).ne'
  rw [hk, chainFrom, hop]
  refine bind_congr_of_ok fun m hm => bind_congr_of_ok fun x hx => bind_congr_of_ok fun e _ => ?_
  obtain ⟨hmc, hmlen⟩ := hs.advance hend hm
  obtain ⟨hmc', hmlen'⟩ := hp.clear hmc hx
  exact chainFrom_eq hf hp hmc' (by omega)

/-! ## Items -/

theorem itemsUpTo_fuel (hp : Forward p) (fuel : Nat) :
    ∀ (more : Nat) {s : Stream}, s.Clear → s.rest.length ≤ fuel →
      itemsUpTo close closeName p (fuel + 1 + more) s = itemsUpTo close closeName p (fuel + 1) s := by
  induction fuel with
  | zero =>
    intro more s hs hlen
    rw [Nat.add_right_comm, itemsUpTo, itemsUpTo]
    refine ite_congr rfl (fun _ => rfl) fun _ => bind_congr_of_ok fun x hx => ?_
    obtain ⟨hmc, hmlen⟩ := hp.clear hs hx
    refine ite_congr rfl (fun hk => ?_) fun _ => rfl
    have hpos := hmc.proper.length_pos (by rw [hk]; decide)
    omega
  | succ fuel ih =>
    intro more s hs hlen
    rw [Nat.add_right_comm, itemsUpTo, itemsUpTo]
    refine ite_congr rfl (fun _ => rfl) fun _ => bind_congr_of_ok fun x hx => ?_
    obtain ⟨hmc, hmlen⟩ := hp.clear hs hx
    refine ite_congr rfl (fun hk => ?_) fun _ => rfl
    refine bind_congr_of_ok fun n hn => ?_
    obtain ⟨hnc, hnlen⟩ := hmc.advance (by rw [hk]; decide) hn
    rw [ih more hnc (by omega)]

theorem itemsUpTo_eq (hp : Forward p) {fuel : Nat} {s : Stream} (hs : s.Clear) (hfuel : s.rest.length < fuel) :
    itemsUpTo close closeName p fuel s = items close closeName p s := by
  obtain ⟨more, rfl⟩ := Nat.exists_eq_add_of_le (Nat.succ_le_of_lt hfuel)
  exact itemsUpTo_fuel hp _ more hs (le_refl _)

theorem items_round (hp : Forward p) {s : Stream} (hs : s.Clear) (hk : s.current.kind ≠ close) :
    items close closeName p s = p s >>= fun x =>
      if x.2.current.kind = .comma then
        x.2.advance >>= fun s => items close closeName p s >>= fun y => .ok (x.1 :: y.1, y.2)
      else if x.2.current.kind = close then x.2.advance >>= fun s => .ok ([x.1], s)
      else .error (x.2.unexpected ("',' or " ++ closeName)) := by
  rw [items, itemsUpTo, if_neg hk]
  refine bind_congr_of_ok fun x hx => ?_
  obtain ⟨hmc, hmlen⟩ := hp.clear hs hx
  refine ite_congr rfl (fun hk => ?_) fun _ => rfl
  refine bind_congr_of_ok fun n hn => ?_
  obtain ⟨hnc, hnlen⟩ := hmc.advance (by rw [hk]; decide) hn
  rw [itemsUpTo_eq hp hnc (by omega)]
  rfl

/-! ## Fields -/

theorem path_fuel (fuel : Nat) :
    ∀ (more : Nat) {s : Stream}, s.Clear → s.rest.length ≤ fuel → path (fuel + more) s = path fuel s := by
  induction fuel with
  | zero =>
    intro more s hs hlen
    cases more with
    | zero => rfl
    | succ more =>
      rw [Nat.zero_add, path, path]
      refine if_neg fun hk => ?_
      have hpos := hs.proper.length_pos (by rw [hk]; decide)
      omega
  | succ fuel ih =>
    intro more s hs hlen
    rw [Nat.succ_add, path, path]
    refine ite_congr rfl (fun hk => ?_) fun _ => rfl
    refine bind_congr_of_ok fun m hm => bind_congr_of_ok fun x hx => ?_
    obtain ⟨hmc, hmlen⟩ := hs.advance (by rw [hk]; decide) hm
    obtain ⟨hk', -, hadv⟩ := expect_eq_ok.mp hx
    obtain ⟨hmc', hmlen'⟩ := hmc.advance (by rw [hk']; decide) hadv
    dsimp only
    rw [ih more hmc' (by omega)]

theorem path_eq {fuel : Nat} {s : Stream} (hs : s.Clear) (hfuel : s.rest.length ≤ fuel) :
    path fuel s = path s.rest.length s := by
  obtain ⟨more, rfl⟩ := Nat.exists_eq_add_of_le hfuel
  exact path_fuel _ more hs (le_refl _)

theorem path_round {s : Stream} (hs : s.Clear) (hk : s.current.kind = .dot) : path s.rest.length s =
    s.advance >>= fun s => expect .identifier "field name" s >>= fun x => path x.2.rest.length x.2 >>= fun y =>
      .ok (x.1.text :: y.1, y.2) := by
  have hend : s.current.kind ≠ .endOfInput := by rw [hk]; decide
  obtain ⟨k, hlen⟩ := Nat.exists_eq_succ_of_ne_zero (hs.proper.length_pos hend).ne'
  rw [hlen, path, if_pos hk]
  refine bind_congr_of_ok fun m hm => bind_congr_of_ok fun x hx => ?_
  obtain ⟨hmc, hmlen⟩ := hs.advance hend hm
  obtain ⟨hk', -, hadv⟩ := expect_eq_ok.mp hx
  obtain ⟨hmc', hmlen'⟩ := hmc.advance (by rw [hk']; decide) hadv
  dsimp only
  rw [path_eq hmc' (by omega)]
  rfl

end Parser

end Verdict
