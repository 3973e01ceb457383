import Verdict.Proofs.Json.Reading

/-!
# How deeply trees nest

A tree with numbers and strings that have values can be taken in whole exactly if it nests no deeper than is allowed
(`Legible.isReadable_iff`).
-/

namespace Verdict.Json

mutual

/-- The most arrays and objects that lie in each other. -/
def nesting : Json → Nat
  | .null | .bool _ | .number _ | .string _ | .unpaired => 0
  | .array items => nestingOfItems items + 1
  | .object members => nestingOfMembers members + 1
termination_by structural j => j

def nestingOfItems : List Json → Nat
  | [] => 0
  | j :: js => max j.nesting (nestingOfItems js)
termination_by structural js => js

def nestingOfMembers : List (String × Json) → Nat
  | [] => 0
  | (_, j) :: js => max j.nesting (nestingOfMembers js)
termination_by structural js => js

end

variable {depth : Nat}

theorem nestingOfItems_le_iff {js : List Json} : nestingOfItems js ≤ depth ↔ ∀ j ∈ js, j.nesting ≤ depth := by
  induction js with
  | nil => simp [nestingOfItems]
  | cons j js ih => rw [nestingOfItems, Nat.max_le, ih, List.forall_mem_cons]

theorem nestingOfMembers_le_iff {js : List (String × Json)} :
    nestingOfMembers js ≤ depth ↔ ∀ m ∈ js, m.2.nesting ≤ depth := by
  induction js with
  | nil => simp [nestingOfMembers]
  | cons m js ih => rw [nestingOfMembers, Nat.max_le, ih, List.forall_mem_cons]

theorem areReadable_iff {js : List Json} : areReadable depth js = true ↔ ∀ j ∈ js, isReadable depth j = true := by
  induction js with
  | nil => simp [areReadable]
  | cons j js ih => rw [areReadable, Bool.and_eq_true, ih, List.forall_mem_cons]

theorem membersReadable_iff {js : List (String × Json)} :
    membersReadable depth js = true ↔ ∀ m ∈ js, isReadable depth m.2 = true := by
  induction js with
  | nil => simp [membersReadable]
  | cons m js ih => rw [membersReadable, Bool.and_eq_true, ih, List.forall_mem_cons]

/-- **What can be taken in whole** is what does not nest too deeply. -/
theorem Legible.isReadable_iff {j : Json} (h : Legible j) : isReadable depth j = true ↔ j.nesting ≤ depth := by
  induction h generalizing depth with
  | null | bool | string => simp [isReadable, nesting]
  | number _ hv => simp [isReadable, nesting, hv]
  | array _ ih =>
    cases depth with
    | zero => simp [isReadable, nesting]
    | succ depth =>
      rw [isReadable, areReadable_iff, nesting, Nat.add_le_add_iff_right, nestingOfItems_le_iff]
      exact forall₂_congr fun j hj => ih j hj
  | object _ ih =>
    cases depth with
    | zero => simp [isReadable, nesting]
    | succ depth =>
      rw [isReadable, membersReadable_iff, nesting, Nat.add_le_add_iff_right, nestingOfMembers_le_iff]
      exact forall₂_congr fun m hm => ih m hm

end Verdict.Json
