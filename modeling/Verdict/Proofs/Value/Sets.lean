import Verdict.Value.Equality

/-!
# Sets without repetition

Building a set drops the items that are equal to one that is kept (`Value.distinct`). So no two of its items are
equal, all of them are among those that it was built of, and a set that is built of its own items stays as it is.
-/

namespace Verdict.Value

variable {kept items : List Value}

/-- No item is equal to a later one. -/
abbrev Distinct (items : List Value) : Prop := items.Pairwise fun a b => equal a b = false

theorem Distinct.append_new {x : Value} (h : Distinct kept) (hx : (kept.any fun y => equal y x) = false) :
    Distinct (kept ++ [x]) := by
  rw [List.any_eq_false] at hx
  refine List.pairwise_append.mpr ⟨h, List.pairwise_singleton .., fun y hy z hz => ?_⟩
  rw [List.mem_singleton.mp hz]
  exact Bool.eq_false_iff.mpr (hx y hy)

theorem Distinct.appendNew (h : Distinct kept) : Distinct (appendNew kept items) := by
  induction items generalizing kept with
  | nil => exact h
  | cons x xs ih =>
    rw [Value.appendNew]
    by_cases hx : (kept.any fun y => equal y x) = true
    · rw [if_pos hx]
      exact ih h
    · rw [if_neg hx]
      exact ih (h.append_new (Bool.eq_false_iff.mpr hx))

theorem mem_appendNew {v : Value} (h : v ∈ appendNew kept items) : v ∈ kept ∨ v ∈ items := by
  induction items generalizing kept with
  | nil => exact .inl h
  | cons x xs ih =>
    rw [appendNew] at h
    rcases ih h with hv | hv
    · split at hv
      · exact .inl hv
      · rcases List.mem_append.mp hv with hv | hv
        · exact .inl hv
        · exact .inr (List.mem_singleton.mp hv ▸ List.mem_cons_self)
    · exact .inr (List.mem_cons_of_mem _ hv)

theorem distinct_distinct (items : List Value) : Distinct (distinct items) := Distinct.appendNew .nil

theorem distinct_subset (items : List Value) : distinct items ⊆ items := by
  intro v hv
  rcases mem_appendNew hv with hv | hv
  · cases hv
  · exact hv

theorem appendNew_eq (h : Distinct (kept ++ items)) : appendNew kept items = kept ++ items := by
  induction items generalizing kept with
  | nil => rw [appendNew, List.append_nil]
  | cons x xs ih =>
    have hnew : (kept.any fun y => equal y x) = false := by
      rw [List.any_eq_false]
      intro y hy
      rw [Distinct, List.pairwise_append] at h
      rw [h.2.2 y hy x (List.mem_cons_self ..)]
      decide
    rw [appendNew, hnew, if_neg (by decide)]
    rw [List.append_cons] at h
    exact (ih h).trans (List.append_cons ..).symm

theorem Distinct.ofItems (h : Distinct items) : ofItems items = .set items := by
  rw [Value.ofItems, distinct, appendNew_eq (by exact h), List.nil_append]

end Verdict.Value
