import Mathlib.Logic.Relation
import Verdict.Eval.Operation
import Verdict.Proofs.Value.Equality

/-!
# Order and repetition in sets

The items of a set stand in some order and some of them more than once, but no comparison can tell. Where a set in a
value, at any depth, gets the same items in another order and number (`Rearranged`), the value stays equal to the same
values as before and keeps its members, also if `NaN` is among them (`compared_alike`).
-/

namespace Verdict.Value

/-- One set in a value, at any depth, gets the items that it has in another order or number. -/
inductive Rearranged : Value → Value → Prop
  | items {xs ys : List Value} (h : ∀ x, x ∈ xs ↔ x ∈ ys) : Rearranged (.set xs) (.set ys)
  | array {x y : Value} (before after : List Value) (h : Rearranged x y) :
      Rearranged (.array (before ++ x :: after)) (.array (before ++ y :: after))
  | set {x y : Value} (before after : List Value) (h : Rearranged x y) :
      Rearranged (.set (before ++ x :: after)) (.set (before ++ y :: after))
  | map {x y : Value} {fs gs : Fields Value} (before : List (String × Value)) (name : String)
      (after : List (String × Value))
      (hfs : fs.toList = before ++ (name, x) :: after) (hgs : gs.toList = before ++ (name, y) :: after)
      (h : Rearranged x y) : Rearranged (.map fs) (.map gs)
  | struct {x y : Value} {fs gs : Fields Value} (before : List (String × Value)) (name : String)
      (after : List (String × Value))
      (hfs : fs.toList = before ++ (name, x) :: after) (hgs : gs.toList = before ++ (name, y) :: after)
      (h : Rearranged x y) : Rearranged (.struct fs) (.struct gs)

variable {v v' : Value}

/-! ## Equality -/

theorem forall₂_replace {α β : Type} {R : α → β → Prop} {x y : α} (h : ∀ b, R x b ↔ R y b) (before after : List α)
    (bs : List β) : List.Forall₂ R (before ++ x :: after) bs ↔ List.Forall₂ R (before ++ y :: after) bs := by
  induction before generalizing bs with
  | nil =>
    cases bs with
    | nil => exact ⟨nofun, nofun⟩
    | cons b bs => rw [List.nil_append, List.nil_append, List.forall₂_cons, List.forall₂_cons, h b]
  | cons a before ih =>
    cases bs with
    | nil => exact ⟨nofun, nofun⟩
    | cons b bs => rw [List.cons_append, List.cons_append, List.forall₂_cons, List.forall₂_cons, ih]

/-- **One rearrangement** leaves a value equal to the same values. -/
theorem Rearranged.equal_iff (h : Rearranged v v') (w : Value) : Equal v w ↔ Equal v' w := by
  induction h generalizing w with
  | items h => simp only [equal_set_iff, h]
  | array before after _ ih => simp only [equal_array_iff, forall₂_replace ih]
  | @set x y before after _ ih =>
    have hright (z : Value) : (∃ u ∈ before ++ x :: after, Equal u z) ↔ ∃ u ∈ before ++ y :: after, Equal u z := by
      simp only [List.mem_append, List.mem_cons, or_and_right, exists_or, exists_eq_left, ih]
    have hleft (zs : List Value) : (∀ u ∈ before ++ x :: after, ∃ z ∈ zs, Equal u z) ↔
        ∀ u ∈ before ++ y :: after, ∃ z ∈ zs, Equal u z := by
      simp only [List.forall_mem_append, List.forall_mem_cons, ih]
    simp only [equal_set_iff, hleft, hright]
  | @map x y fs gs before name after hfs hgs _ ih =>
    have hfield (g : String × Value) : FieldEqual (name, x) g ↔ FieldEqual (name, y) g := and_congr_right fun _ => ih g.2
    simp only [equal_map_iff, hfs, hgs, forall₂_replace hfield]
  | @struct x y fs gs before name after hfs hgs _ ih =>
    have hfield (g : String × Value) : FieldEqual (name, x) g ↔ FieldEqual (name, y) g := and_congr_right fun _ => ih g.2
    simp only [equal_struct_iff, hfs, hgs, forall₂_replace hfield]

theorem Rearranged.equal_eq (h : Rearranged v v') (w : Value) : v.equal w = v'.equal w :=
  Bool.eq_iff_iff.mpr (h.equal_iff w)

/-! ## Members -/

theorem Rearranged.any_equal (h : Rearranged v v') (before after : List Value) (w : Value) :
    ((before ++ v :: after).any fun item => item.equal w) = (before ++ v' :: after).any fun item => item.equal w := by
  rw [List.any_append, List.any_append, List.any_cons, List.any_cons, h.equal_eq]

theorem any_equal_of_mem_iff {xs ys : List Value} (h : ∀ x, x ∈ xs ↔ x ∈ ys) (w : Value) :
    (xs.any fun item => item.equal w) = ys.any fun item => item.equal w := by
  rw [Bool.eq_iff_iff, List.any_eq_true, List.any_eq_true]
  simp only [h]

theorem contains_replace {α : Type} {name : String} {x y : α} {before after : List (String × α)} {fs gs : Fields α}
    (hfs : fs.toList = before ++ (name, x) :: after) (hgs : gs.toList = before ++ (name, y) :: after) (key : String) :
    fs.contains key = gs.contains key := by
  have hnames : fs.names = gs.names := by simp [Fields.names, Fields.map, hfs, hgs]
  rw [Bool.eq_iff_iff, Fields.contains_iff, Fields.contains_iff, hnames]

/-- **One rearrangement** of a haystack leaves the same needles in it. -/
theorem Rearranged.membership_eq (h : Rearranged v v') (x : Value) :
    Operation.membership x v = Operation.membership x v' := by
  cases h with
  | items h => rw [Operation.membership, Operation.membership, any_equal_of_mem_iff h]
  | array before after h | set before after h => rw [Operation.membership, Operation.membership, h.any_equal]
  | map _ _ _ hfs hgs h | struct _ _ _ hfs hgs h => simp only [Operation.membership, contains_replace hfs hgs]

theorem Rearranged.containment_eq (h : Rearranged v v') (x : Value) :
    Operation.containment v x = Operation.containment v' x := by
  cases h with
  | items h => rw [Operation.containment, Operation.containment, any_equal_of_mem_iff h]
  | array before after h | set before after h => rw [Operation.containment, Operation.containment, h.any_equal]
  | map _ _ _ _ _ _ | struct _ _ _ _ _ _ => rfl

/-! ## Any number of sets -/

/-- What one rearrangement does not change no number of them does. -/
theorem eq_of_rearranged {α : Type} {f : Value → α} (hstep : ∀ {v v'}, Rearranged v v' → f v = f v')
    (h : Relation.ReflTransGen Rearranged v v') : f v = f v' := by
  induction h with
  | refl => rfl
  | tail _ hlast ih => exact ih.trans (hstep hlast)

/-- **No comparison tells the order or the number of the items of a set.** Values that differ only in these, at any
depth and in any number of sets, are equal to the same values, and hold the same members. -/
theorem compared_alike (h : Relation.ReflTransGen Rearranged v v') :
    (∀ w, v.equal w = v'.equal w ∧ w.equal v = w.equal v') ∧
    ∀ x, BinaryOp.within.apply x v = BinaryOp.within.apply x v' ∧
      BinaryOp.contains.apply v x = BinaryOp.contains.apply v' x := by
  have hequal (w : Value) : v.equal w = v'.equal w := eq_of_rearranged (f := (·.equal w)) (fun h => h.equal_eq w) h
  refine ⟨fun w => ⟨hequal w, ?_⟩, fun x => ⟨?_, ?_⟩⟩
  · rw [equal_comm w v, equal_comm w v', hequal]
  · exact eq_of_rearranged (f := (BinaryOp.within.apply x ·)) (fun h => h.membership_eq x) h
  · exact eq_of_rearranged (f := (BinaryOp.contains.apply · x)) (fun h => h.containment_eq x) h

/-- A set in a set in a map, with `NaN`, in another order and with repetitions at both depths. -/
theorem compared_alike_nested :
    let v : Value := .map (.ofList [("s", .set [.float64 Binary.nan, .set [.null, .bool true]])])
    let v' : Value :=
      .map (.ofList [("s", .set [.set [.bool true, .null, .bool true], .float64 Binary.nan, .float64 Binary.nan])])
    Relation.ReflTransGen Rearranged v v' ∧ (∀ w, v.equal w = v'.equal w ∧ w.equal v = w.equal v') ∧
      ∀ x, BinaryOp.within.apply x v = BinaryOp.within.apply x v' ∧
        BinaryOp.contains.apply v x = BinaryOp.contains.apply v' x := by
  intro v v'
  have hinner : Rearranged (.set [.null, .bool true]) (.set [.bool true, .null, .bool true]) := .items (by simp)
  let between : Value := .map (.ofList [("s", .set [.float64 Binary.nan, .set [.bool true, .null, .bool true]])])
  have hfirst : Rearranged v between :=
    .map [] "s" [] rfl rfl (.set [.float64 Binary.nan] [] hinner)
  have hsecond : Rearranged between v' :=
    .map [] "s" [] rfl rfl (.items (by simp [or_comm]))
  have h : Relation.ReflTransGen Rearranged v v' := (Relation.ReflTransGen.single hfirst).tail hsecond
  exact ⟨h, compared_alike h⟩

end Verdict.Value
