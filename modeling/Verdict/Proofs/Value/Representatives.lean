import Mathlib.Data.List.Induction
import Verdict.Eval.Operation
import Verdict.Proofs.Value.Sets
import Verdict.Proofs.Value.Transitivity

/-!
# What a set keeps of its items

Building a set goes over the items once and keeps those that are equal to none that has been kept. So of all items that
are equal to a kept one the first stays, and nothing that holds a `NaN` is dropped, since it is equal to nothing. Without
`NaN` the set is equal to the list that it was built of, in any order and with any repetitions; without floating-point
numbers equality is transitive, and the set has the same members as the list (`representatives`).
-/

namespace Verdict.Value

variable {xs ys kept : List Value} {x v : Value}

/-- A floating-point number stands in the value at some depth. -/
def HoldsFloat (v : Value) : Prop := ∃ x, Occurs x v ∧ (x.type = .float32 ∨ x.type = .float64)

theorem HoldsNaN.holdsFloat (h : v.HoldsNaN) : v.HoldsFloat := by
  obtain ⟨x, hx, hnan⟩ := h
  refine ⟨x, hx, ?_⟩
  cases x with
  | float32 _ => exact .inl rfl
  | float64 _ => exact .inr rfl
  | _ => cases hnan

/-! ## One item more -/

theorem appendNew_append (kept xs ys : List Value) : appendNew kept (xs ++ ys) = appendNew (appendNew kept xs) ys := by
  induction xs generalizing kept with
  | nil => rfl
  | cons x xs ih => exact ih _

theorem distinct_append_singleton (xs : List Value) (x : Value) :
    distinct (xs ++ [x]) = if (distinct xs).any fun y => equal y x then distinct xs else distinct xs ++ [x] :=
  appendNew_append [] xs [x]

/-! ## Places -/

/-- The kept items are those at some places of a list, in their order, and every other item of it is equal to an earlier
one that is kept. -/
structure Keeps (xs kept : List Value) (places : List Nat) : Prop where
  rising : places.Pairwise (· < ·)
  kept : kept.map some = places.map (xs[·]?)
  dropped : ∀ i x, xs[i]? = some x → i ∉ places → ∃ j ∈ places, j < i ∧ ∃ y, xs[j]? = some y ∧ Equal y x

namespace Keeps

variable {places : List Nat}

theorem exists_item (h : Keeps xs kept places) {i : Nat} (hi : i ∈ places) : ∃ x ∈ kept, xs[i]? = some x := by
  have hmem : xs[i]? ∈ kept.map some := by
    rw [h.kept]
    exact List.mem_map_of_mem hi
  obtain ⟨x, hx, heq⟩ := List.mem_map.mp hmem
  exact ⟨x, hx, heq.symm⟩

theorem exists_place (h : Keeps xs kept places) (hx : x ∈ kept) : ∃ i ∈ places, xs[i]? = some x := by
  have hmem : some x ∈ places.map (xs[·]?) := by
    rw [← h.kept]
    exact List.mem_map_of_mem hx
  exact List.mem_map.mp hmem

theorem lt_length (h : Keeps xs kept places) {i : Nat} (hi : i ∈ places) : i < xs.length := by
  obtain ⟨x, -, hx⟩ := h.exists_item hi
  exact (List.getElem?_eq_some_iff.mp hx).1

theorem map_append (h : Keeps xs kept places) (ys : List Value) :
    places.map ((xs ++ ys)[·]?) = places.map (xs[·]?) :=
  List.map_congr_left fun _ hi => List.getElem?_append_left (h.lt_length hi)

theorem dropped_append (h : Keeps xs kept places) (x : Value) {i : Nat} {v : Value} (hv : (xs ++ [x])[i]? = some v)
    (hi : i ∉ places) (hlt : i < xs.length) : ∃ j ∈ places, j < i ∧ ∃ y, (xs ++ [x])[j]? = some y ∧ Equal y v := by
  rw [List.getElem?_append_left hlt] at hv
  obtain ⟨j, hj, hji, y, hy, hequal⟩ := h.dropped i v hv hi
  exact ⟨j, hj, hji, y, by rwa [List.getElem?_append_left (h.lt_length hj)], hequal⟩

theorem last_of_not_lt {i : Nat} (hv : (xs ++ [x])[i]? = some v) (hlt : ¬ i < xs.length) : i = xs.length ∧ v = x := by
  obtain ⟨hi, hget⟩ := List.getElem?_eq_some_iff.mp hv
  rw [List.length_append, List.length_singleton] at hi
  obtain rfl : i = xs.length := by omega
  rw [List.getElem_append_right (le_refl _)] at hget
  simpa using hget.symm

theorem drop (h : Keeps xs kept places) {y : Value} (hy : y ∈ kept) (hequal : Equal y x) :
    Keeps (xs ++ [x]) kept places where
  rising := h.rising
  kept := by rw [h.map_append, h.kept]
  dropped := by
    intro i v hv hi
    by_cases hlt : i < xs.length
    · exact h.dropped_append x hv hi hlt
    · obtain ⟨rfl, rfl⟩ := last_of_not_lt hv hlt
      obtain ⟨j, hj, hget⟩ := h.exists_place hy
      have hjlt := h.lt_length hj
      exact ⟨j, hj, hjlt, y, by rwa [List.getElem?_append_left hjlt], hequal⟩

theorem keep (h : Keeps xs kept places) (x : Value) : Keeps (xs ++ [x]) (kept ++ [x]) (places ++ [xs.length]) where
  rising := by
    refine List.pairwise_append.mpr ⟨h.rising, List.pairwise_singleton .., fun i hi j hj => ?_⟩
    rw [List.mem_singleton.mp hj]
    exact h.lt_length hi
  kept := by simp [h.map_append, h.kept]
  dropped := by
    intro i v hv hi
    rw [List.mem_append, not_or, List.mem_singleton] at hi
    by_cases hlt : i < xs.length
    · obtain ⟨j, hj, hrest⟩ := h.dropped_append x hv hi.1 hlt
      exact ⟨j, List.mem_append_left _ hj, hrest⟩
    · exact absurd (last_of_not_lt hv hlt).1 hi.2

end Keeps

/-- **A set keeps one representative**: what it is built of and what it keeps differ by items that are equal to earlier
ones. -/
theorem exists_keeps (xs : List Value) : ∃ places, Keeps xs (distinct xs) places := by
  induction xs using List.reverseRecOn with
  | nil => exact ⟨[], .nil, rfl, by simp⟩
  | append_singleton xs x ih =>
    obtain ⟨places, h⟩ := ih
    rw [distinct_append_singleton]
    by_cases hany : ((distinct xs).any fun y => equal y x) = true
    · rw [if_pos hany]
      obtain ⟨y, hy, hequal⟩ := List.any_eq_true.mp hany
      exact ⟨places, h.drop hy hequal⟩
    · rw [if_neg hany]
      exact ⟨_, h.keep x⟩

/-- An item without `NaN` is equal to one that is kept, if not to itself. -/
theorem exists_kept (hx : x ∈ xs) (hnan : ¬ x.HoldsNaN) : ∃ y ∈ distinct xs, Equal y x := by
  obtain ⟨places, h⟩ := exists_keeps xs
  obtain ⟨i, hi⟩ := List.mem_iff_getElem?.mp hx
  by_cases hplace : i ∈ places
  · obtain ⟨y, hy, hget⟩ := h.exists_item hplace
    obtain rfl : x = y := Option.some.inj (hi.symm.trans hget)
    exact ⟨x, hy, equal_self hnan⟩
  · obtain ⟨j, hj, -, y, hy, hequal⟩ := h.dropped i x hi hplace
    obtain ⟨z, hz, hget⟩ := h.exists_item hj
    obtain rfl : y = z := Option.some.inj (hy.symm.trans hget)
    exact ⟨y, hz, hequal⟩

/-! ## Sets without NaN -/

theorem equal_set_of_covered (hleft : ∀ x ∈ xs, ∃ y ∈ ys, Equal y x) (hright : ∀ y ∈ ys, ∃ x ∈ xs, Equal x y) :
    Equal (.set xs) (.set ys) :=
  equal_set_iff.mpr ⟨ys, rfl, fun x hx => (hleft x hx).imp fun _ ⟨hy, hyx⟩ => ⟨hy, hyx.symm⟩, hright⟩

theorem equal_ofItems (h : ∀ x ∈ xs, ¬ x.HoldsNaN) : Equal (ofItems xs) (.set xs) := by
  refine equal_set_of_covered (fun x hx => ?_) fun x hx => exists_kept hx (h x hx)
  have hmem := distinct_subset xs hx
  exact ⟨x, hmem, equal_self (h x hmem)⟩

theorem ofItems_equal_ofItems (h : ∀ x ∈ xs, ¬ x.HoldsNaN) (hmem : ∀ v, v ∈ ys ↔ v ∈ xs) :
    Equal (ofItems xs) (ofItems ys) := by
  refine equal_set_of_covered (fun x hx => ?_) fun y hy => ?_
  · have hx := distinct_subset xs hx
    exact exists_kept ((hmem x).mpr hx) (h x hx)
  · have hy := (hmem y).mp (distinct_subset ys hy)
    exact exists_kept hy (h y hy)

/-! ## Sets without floating-point numbers -/

theorem not_clash_of_not_holdsFloat {a b c : Value} (h : ¬ b.HoldsFloat) : ¬ Clash a b c :=
  fun ⟨_, _, v, _, hv, _, hfloat, _⟩ => h ⟨v, hv, hfloat⟩

theorem any_distinct_iff (h : ∀ y ∈ xs, ¬ y.HoldsFloat) (x : Value) :
    ((distinct xs).any fun item => item.equal x) = true ↔ ∃ y ∈ xs, Equal x y := by
  rw [List.any_eq_true]
  constructor
  · rintro ⟨y, hy, hequal⟩
    exact ⟨y, distinct_subset xs hy, Equal.symm hequal⟩
  · rintro ⟨y, hy, hequal⟩
    obtain ⟨z, hz, hzy⟩ := exists_kept hy fun hnan => h y hy hnan.holdsFloat
    exact ⟨z, hz, hzy.trans_of_not_clash hequal.symm (not_clash_of_not_holdsFloat (h y hy))⟩

/-- **What a set keeps.** A set holds some of its items in their order, no two of them equal. What is dropped is equal to
an earlier item that is kept, and an item with a `NaN` is not dropped. Built of what it holds, the set stays as it is.
If its items have no `NaN`, it is equal to the set that holds all of them, and to that of the same items in any order and
number; if they have no floating-point numbers, its members are the values that are equal to one of them. -/
theorem representatives (xs : List Value) : ∃ kept places, ofItems xs = .set kept ∧ Keeps xs kept places ∧
    (kept.Pairwise fun a b => equal a b = false ∧ equal b a = false) ∧
    (∀ i x, xs[i]? = some x → x.HoldsNaN → i ∈ places) ∧
    ofItems kept = .set kept ∧
    ((∀ x ∈ xs, ¬ x.HoldsNaN) → equal (ofItems xs) (.set xs) = true ∧
      ∀ ys, (∀ v, v ∈ ys ↔ v ∈ xs) → equal (ofItems xs) (ofItems ys) = true) ∧
    ((∀ x ∈ xs, ¬ x.HoldsFloat) → ∀ x, ∃ b : Bool, BinaryOp.within.apply x (ofItems xs) = .ok (.bool b) ∧
      (b = true ↔ ∃ y ∈ xs, equal x y = true)) := by
  obtain ⟨places, h⟩ := exists_keeps xs
  have hdistinct := distinct_distinct xs
  refine ⟨distinct xs, places, rfl, h, ?_, ?_, hdistinct.ofItems, ?_, ?_⟩
  · exact hdistinct.imp fun hab => ⟨hab, (equal_comm _ _).trans hab⟩
  · intro i x hx hnan
    by_contra hi
    obtain ⟨j, -, -, y, -, hequal⟩ := h.dropped i x hx hi
    exact hnan.not_equal y hequal.symm
  · exact fun hnan => ⟨equal_ofItems hnan, fun ys hmem => ofItems_equal_ofItems hnan hmem⟩
  · exact fun hfloat x => ⟨_, rfl, any_distinct_iff hfloat x⟩

theorem not_holdsFloat_of_isScalar (h : v.IsScalar) (hv : v.type ≠ .float32 ∧ v.type ≠ .float64) : ¬ v.HoldsFloat := by
  rintro ⟨x, hx, hfloat⟩
  obtain rfl := hx.eq_of_isScalar h
  exact hfloat.elim hv.1 hv.2

/-- Two integers of different kinds and a string, once more in another order, and a list with `NaN` at two places. -/
theorem representatives_repeated :
    let byte : Value := .int ⟨.uint8, 1, by decide, by decide⟩
    let wide : Value := .int ⟨.int64, 1, by decide, by decide⟩
    let nan : Value := .float64 Binary.nan
    let items : List Value := [byte, .string "a", wide]
    ((∀ x ∈ items, ¬ x.HoldsNaN) ∧ (∀ v, v ∈ [wide, byte, wide, .string "a"] ↔ v ∈ items) ∧
      equal (ofItems items) (ofItems [wide, byte, wide, .string "a"]) = true) ∧
    ((∀ x ∈ items, ¬ x.HoldsFloat) ∧ ∃ b : Bool, BinaryOp.within.apply wide (ofItems items) = .ok (.bool b) ∧
      (b = true ↔ ∃ y ∈ items, equal wide y = true)) ∧
    ∃ kept places, ofItems [nan, byte, nan] = .set kept ∧ Keeps [nan, byte, nan] kept places ∧
      nan.HoldsNaN ∧ 2 ∈ places := by
  intro byte wide nan items
  have hfloat : ∀ x ∈ items, ¬ x.HoldsFloat := by
    simp only [items, List.forall_mem_cons]
    exact ⟨not_holdsFloat_of_isScalar trivial (by decide), not_holdsFloat_of_isScalar trivial (by decide),
      not_holdsFloat_of_isScalar trivial (by decide), by simp⟩
  have hnan : ∀ x ∈ items, ¬ x.HoldsNaN := fun x hx h => hfloat x hx h.holdsFloat
  have hmem : ∀ v, v ∈ [wide, byte, wide, .string "a"] ↔ v ∈ items := by
    intro v
    simp only [items, List.mem_cons, List.not_mem_nil, or_false]
    tauto
  have hholds : nan.HoldsNaN := ⟨nan, .self, rfl⟩
  obtain ⟨-, -, -, -, -, -, -, hequal, hmember⟩ := representatives items
  obtain ⟨kept, places, hset, hkeeps, -, hplaces, -⟩ := representatives [nan, byte, nan]
  exact ⟨⟨hnan, hmem, (hequal hnan).2 _ hmem⟩, ⟨hfloat, hmember hfloat wide⟩,
    kept, places, hset, hkeeps, hholds, hplaces 2 nan rfl hholds⟩

end Verdict.Value
