import Verdict.Proofs.Value.Equality

/-!
# How far equality is transitive

Two integers are compared exactly, but an integer and a floating-point number as doubles, so a floating-point number can
be equal to two different integers (`equal_not_transitive`). A chain of equal values has equal ends unless that happens
somewhere inside them (`equal_trans_or_clash`).
-/

namespace Verdict.Value

variable {a b c : Value}

/-- Two different integers, the one in `a` and the other in `c`, are equal to one floating-point number in `b`. Both lie
where doubles are farther apart than integers. -/
def Clash (a b c : Value) : Prop :=
  ∃ (m n : Integer) (v : Value), Occurs (.int m) a ∧ Occurs v b ∧ Occurs (.int n) c ∧
    (v.type = .float32 ∨ v.type = .float64) ∧ Equal (.int m) v ∧ Equal v (.int n) ∧ m.val ≠ n.val ∧
    2 ^ 53 ≤ m.val.natAbs ∧ 2 ^ 53 ≤ n.val.natAbs

theorem Clash.mono {x y z : Value} (h : Clash x y z) (ha : ∀ v, Occurs v x → Occurs v a)
    (hb : ∀ v, Occurs v y → Occurs v b) (hc : ∀ v, Occurs v z → Occurs v c) : Clash a b c :=
  let ⟨m, n, v, hm, hv, hn, hrest⟩ := h
  ⟨m, n, v, ha _ hm, hb _ hv, hc _ hn, hrest⟩

/-- A value that is equal to two different integers is a floating-point number. -/
theorem clash_of_ne {m n : Integer} (hm : Agree (.int m) b) (hn : Agree b (.int n)) (hne : m.val ≠ n.val) :
    Clash (.int m) b (.int n) := by
  have hposition : Binary.position m.val = Binary.position n.val := by
    have hrank := hm.rank_eq.trans hn.rank_eq
    rwa [rank_int, rank_int, Option.some.injEq] at hrank
  have hm' := m.bounds
  have hn' := n.bounds
  obtain ⟨hfar, hfar'⟩ := Binary.far_of_position_eq hne hposition (by omega) (by omega)
  refine ⟨m, n, b, .self, .self, .self, ?_, hm.equal, hn.equal, hne, hfar, hfar'⟩
  cases b with
  | int k =>
    cases hm with
    | number _ _ h => rcases h with h | h <;> cases h
    | int h =>
      cases hn with
      | number _ _ h' => rcases h' with h' | h' <;> cases h'
      | int h' => exact absurd (h.trans h') hne
  | float32 x => exact .inl rfl
  | float64 x => exact .inr rfl
  | _ => cases hm with | number _ hb _ => cases hb

theorem Agree.eq_or_rank (h : Agree a b) : a = b ∨ ∃ i, a.rank = some i := by
  cases h with
  | int _ => exact .inr ⟨_, rank_int _⟩
  | number ha _ _ => exact .inr ⟨_, ha⟩
  | _ => exact .inl rfl

theorem Agree.trans_or_clash (hab : Agree a b) (hbc : Agree b c) : Agree a c ∨ Clash a b c := by
  rcases hab.eq_or_rank with rfl | ⟨i, ha⟩
  · exact .inl hbc
  · have hc : c.rank = some i := by rw [← hbc.rank_eq, ← hab.rank_eq, ha]
    by_cases hfloat : a.int? = none ∨ c.int? = none
    · exact .inl (.number ha hc hfloat)
    · obtain ⟨hint, hint'⟩ := not_or.mp hfloat
      obtain ⟨m, rfl⟩ := eq_int_of_int? hint
      obtain ⟨n, rfl⟩ := eq_int_of_int? hint'
      by_cases hval : m.val = n.val
      · exact .inl (.int hval)
      · exact .inr (clash_of_ne hab hbc hval)

theorem forall₂_trans {α : Type} {R S T : α → α → Prop} {xs ys zs : List α} (hxy : List.Forall₂ R xs ys)
    (hyz : List.Forall₂ S ys zs) (h : ∀ x ∈ xs, ∀ y ∈ ys, ∀ z ∈ zs, R x y → S y z → T x z) : List.Forall₂ T xs zs := by
  induction hxy generalizing zs with
  | nil =>
    cases hyz
    exact .nil
  | cons hr _ ih =>
    cases hyz with
    | cons hs hyz =>
      refine .cons (h _ List.mem_cons_self _ List.mem_cons_self _ List.mem_cons_self hr hs) (ih hyz ?_)
      exact fun x hx y hy z hz => h x (List.mem_cons_of_mem _ hx) y (List.mem_cons_of_mem _ hy) z (List.mem_cons_of_mem _ hz)

theorem Equal.trans_of_not_clash (hab : Equal a b) (hbc : Equal b c) (h : ¬ Clash a b c) : Equal a c := by
  induction a using induction generalizing b c with
  | scalar a ha =>
    have hab' := (equal_iff_agree ha).mp hab
    have hbc' := (equal_iff_agree hab'.symm.isScalar).mp hbc
    exact ((hab'.trans_or_clash hbc').resolve_right h).equal
  | array xs ih =>
    obtain ⟨ys, rfl, hxy⟩ := equal_array_iff.mp hab
    obtain ⟨zs, rfl, hyz⟩ := equal_array_iff.mp hbc
    refine equal_array_iff.mpr ⟨zs, rfl, forall₂_trans hxy hyz fun x hx y hy z hz h₁ h₂ => ih x hx h₁ h₂ ?_⟩
    exact fun hclash => h (hclash.mono (fun _ => .array hx) (fun _ => .array hy) fun _ => .array hz)
  | set xs ih =>
    obtain ⟨ys, rfl, hxy, hyx⟩ := equal_set_iff.mp hab
    obtain ⟨zs, rfl, hyz, hzy⟩ := equal_set_iff.mp hbc
    have hstep {x y z : Value} (hx : x ∈ xs) (hy : y ∈ ys) (hz : z ∈ zs) (h₁ : Equal x y) (h₂ : Equal y z) : Equal x z :=
      ih x hx h₁ h₂ fun hclash => h (hclash.mono (fun _ => .set hx) (fun _ => .set hy) fun _ => .set hz)
    refine equal_set_iff.mpr ⟨zs, rfl, fun x hx => ?_, fun z hz => ?_⟩
    · obtain ⟨y, hy, h₁⟩ := hxy x hx
      obtain ⟨z, hz, h₂⟩ := hyz y hy
      exact ⟨z, hz, hstep hx hy hz h₁ h₂⟩
    · obtain ⟨y, hy, h₂⟩ := hzy z hz
      obtain ⟨x, hx, h₁⟩ := hyx y hy
      exact ⟨x, hx, hstep hx hy hz h₁ h₂⟩
  | map fs ih =>
    obtain ⟨gs, rfl, hfg⟩ := equal_map_iff.mp hab
    obtain ⟨hs, rfl, hgh⟩ := equal_map_iff.mp hbc
    refine equal_map_iff.mpr ⟨hs, rfl, forall₂_trans hfg hgh fun x hx y hy z hz h₁ h₂ => ?_⟩
    refine ⟨h₁.1.trans h₂.1, ih x hx h₁.2 h₂.2 fun hclash => h ?_⟩
    exact hclash.mono (fun _ => .map hx) (fun _ => .map hy) fun _ => .map hz
  | struct fs ih =>
    obtain ⟨gs, rfl, hfg⟩ := equal_struct_iff.mp hab
    obtain ⟨hs, rfl, hgh⟩ := equal_struct_iff.mp hbc
    refine equal_struct_iff.mpr ⟨hs, rfl, forall₂_trans hfg hgh fun x hx y hy z hz h₁ h₂ => ?_⟩
    refine ⟨h₁.1.trans h₂.1, ih x hx h₁.2 h₂.2 fun hclash => h ?_⟩
    exact hclash.mono (fun _ => .struct hx) (fun _ => .struct hy) fun _ => .struct hz

end Verdict.Value
