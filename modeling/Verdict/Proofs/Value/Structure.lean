import Mathlib.Data.List.Forall2
import Verdict.Proofs.Fields
import Verdict.Value.Equality

/-!
# Values inside values

Induction over values, what stands in a value at some depth (`Occurs`), and what equality asks of two values that hold
others: item by item for arrays, name by name for maps and structs, and for sets that each member of either has an equal
in the other.
-/

namespace Verdict.Value

/-- A value that holds no others. -/
def IsScalar : Value → Prop
  | .array _ | .set _ | .map _ | .struct _ => False
  | _ => True

/-- Induction with the hypothesis for every item and for the value of every field. -/
theorem induction {P : Value → Prop} (scalar : ∀ v, v.IsScalar → P v)
    (array : ∀ items, (∀ x ∈ items, P x) → P (.array items)) (set : ∀ items, (∀ x ∈ items, P x) → P (.set items))
    (map : ∀ fields : Fields Value, (∀ f ∈ fields.toList, P f.2) → P (.map fields))
    (struct : ∀ fields : Fields Value, (∀ f ∈ fields.toList, P f.2) → P (.struct fields)) (v : Value) : P v :=
  @Value.rec P (fun xs => ∀ x ∈ xs, P x) (fun _ fs => ∀ f ∈ fs.toList, P f.2)
    (scalar .null trivial) (fun b => scalar (.bool b) trivial) (fun n => scalar (.int n) trivial)
    (fun x => scalar (.float32 x) trivial) (fun x => scalar (.float64 x) trivial) (fun s => scalar (.string s) trivial)
    array set map struct
    (fun _ hx => absurd hx List.not_mem_nil) (fun _ _ hx hxs => List.forall_mem_cons.mpr ⟨hx, hxs⟩)
    (fun _ hf => absurd hf List.not_mem_nil) (fun _ _ _ _ hv hfs => List.forall_mem_cons.mpr ⟨hv, hfs⟩) v

/-- A value is another one or stands in it at some depth. -/
inductive Occurs (v : Value) : Value → Prop
  | self : Occurs v v
  | array {x : Value} {items : List Value} (hx : x ∈ items) (h : Occurs v x) : Occurs v (.array items)
  | set {x : Value} {items : List Value} (hx : x ∈ items) (h : Occurs v x) : Occurs v (.set items)
  | map {f : String × Value} {fields : Fields Value} (hf : f ∈ fields.toList) (h : Occurs v f.2) :
      Occurs v (.map fields)
  | struct {f : String × Value} {fields : Fields Value} (hf : f ∈ fields.toList) (h : Occurs v f.2) :
      Occurs v (.struct fields)

theorem Occurs.trans {u v w : Value} (h : Occurs u v) (h' : Occurs v w) : Occurs u w := by
  induction h' with
  | self => exact h
  | array hx _ ih => exact .array hx ih
  | set hx _ ih => exact .set hx ih
  | map hf _ ih => exact .map hf ih
  | struct hf _ ih => exact .struct hf ih

theorem Occurs.eq_of_isScalar {v w : Value} (h : Occurs v w) (hw : w.IsScalar) : v = w := by
  cases h with
  | self => rfl
  | _ => exact hw.elim

/-! ## Equality of values that hold others -/

/-- Two values are equal. -/
abbrev Equal (a b : Value) : Prop := a.equal b = true

/-- Two fields have one name and equal values. -/
abbrev FieldEqual (f g : String × Value) : Prop := f.1 = g.1 ∧ Equal f.2 g.2

variable {a b : Value} {xs ys : List Value} {fs gs : Fields Value}

theorem equal_of_isScalar (h : a.IsScalar) (b : Value) : a.equal b = scalarEq a b := by
  cases a with
  | array _ | set _ | map _ | struct _ => exact h.elim
  | _ => cases b <;> rfl

theorem itemsEqual_iff : itemsEqual xs ys = true ↔ List.Forall₂ Equal xs ys := by
  induction xs generalizing ys with
  | nil =>
    cases ys with
    | nil => exact ⟨fun _ => .nil, fun _ => rfl⟩
    | cons y ys => exact ⟨nofun, nofun⟩
  | cons x xs ih =>
    cases ys with
    | nil => exact ⟨nofun, nofun⟩
    | cons y ys => rw [itemsEqual, Bool.and_eq_true, ih, List.forall₂_cons]

theorem fieldsIn_iff {bound : Option String} {fs : Fields Value bound} :
    fieldsIn fs gs = true ↔ ∀ f ∈ fs.toList, ∃ y, gs.get? f.1 = some y ∧ Equal f.2 y := by
  induction fs with
  | nil => exact ⟨fun _ _ hf => absurd hf List.not_mem_nil, fun _ => rfl⟩
  | cons name above x fs ih =>
    rw [fieldsIn, Bool.and_eq_true, ih, Option.any_eq_true, Fields.toList, List.forall_mem_cons]

theorem eachIn_iff : eachIn xs ys = true ↔ ∀ x ∈ xs, ∃ y ∈ ys, Equal x y := by
  induction xs with
  | nil => exact ⟨fun _ _ hx => absurd hx List.not_mem_nil, fun _ => rfl⟩
  | cons x xs ih => rw [eachIn, Bool.and_eq_true, ih, List.any_eq_true, List.forall_mem_cons]

theorem isIn_iff {y : Value} : isIn xs y = true ↔ ∃ x ∈ xs, Equal x y := by
  induction xs with
  | nil => exact ⟨nofun, fun ⟨_, hx, _⟩ => absurd hx List.not_mem_nil⟩
  | cons x xs ih => rw [isIn, Bool.or_eq_true, ih, List.exists_mem_cons_iff]

theorem exists_of_forall₂ {α β : Type} {R : α → β → Prop} {as : List α} {bs : List β} (h : List.Forall₂ R as bs) {a : α}
    (ha : a ∈ as) : ∃ b ∈ bs, R a b := by
  induction h with
  | nil => cases ha
  | cons hr _ ih =>
    rcases List.mem_cons.mp ha with rfl | ha
    · exact ⟨_, List.mem_cons_self, hr⟩
    · obtain ⟨b, hb, hab⟩ := ih ha
      exact ⟨b, List.mem_cons_of_mem _ hb, hab⟩

theorem equal_array_iff : Equal (.array xs) b ↔ ∃ ys, b = .array ys ∧ List.Forall₂ Equal xs ys := by
  cases b with
  | array ys => simp [Equal, equal, itemsEqual_iff]
  | _ => exact ⟨nofun, nofun⟩

theorem equal_set_iff : Equal (.set xs) b ↔
    ∃ ys, b = .set ys ∧ (∀ x ∈ xs, ∃ y ∈ ys, Equal x y) ∧ ∀ y ∈ ys, ∃ x ∈ xs, Equal x y := by
  cases b with
  | set ys => simp [Equal, equal, eachIn_iff, isIn_iff]
  | _ => exact ⟨nofun, nofun⟩

/-- The fields of two maps, which are looked up by their names, are compared place by place. -/
theorem forall₂_fieldEqual_iff : List.Forall₂ FieldEqual fs.toList gs.toList ↔
    fs.toList.length = gs.toList.length ∧ ∀ f ∈ fs.toList, ∃ y, gs.get? f.1 = some y ∧ Equal f.2 y := by
  constructor
  · intro h
    refine ⟨h.length_eq, fun f hmem => ?_⟩
    obtain ⟨g, hg, hname, hvalue⟩ := exists_of_forall₂ h hmem
    exact ⟨g.2, hname ▸ Fields.get?_of_mem hg, hvalue⟩
  · rintro ⟨hlength, h⟩
    have hnames : fs.toList.map Prod.fst = gs.toList.map Prod.fst := by
      refine Fields.names_eq hlength fun f hmem => ?_
      obtain ⟨y, hy, -⟩ := h f hmem
      exact List.mem_map.mpr ⟨(f.1, y), Fields.mem_of_get? hy, rfl⟩
    have hbeside : List.Forall₂ (fun f g => f.1 = g.1) fs.toList gs.toList := by
      have hsame : List.Forall₂ Eq (fs.toList.map Prod.fst) (gs.toList.map Prod.fst) := by
        rw [hnames, List.forall₂_eq_eq_eq]
      rwa [List.forall₂_map_left_iff, List.forall₂_map_right_iff] at hsame
    -- The field that is looked up is the one that stands in the same place.
    refine List.forall₂_iff_zip.mpr ⟨hlength, fun {f g} hzip => ?_⟩
    obtain ⟨hfmem, hgmem⟩ := List.of_mem_zip hzip
    have hname : f.1 = g.1 := List.forall₂_zip hbeside hzip
    obtain ⟨y, hy, hvalue⟩ := h f hfmem
    rw [hname, Fields.get?_of_mem hgmem] at hy
    cases hy
    exact ⟨hname, hvalue⟩

theorem sameFields_iff : (fs.toList.length == gs.toList.length && fieldsIn fs gs) = true ↔
    List.Forall₂ FieldEqual fs.toList gs.toList := by
  rw [Bool.and_eq_true, beq_iff_eq, fieldsIn_iff, forall₂_fieldEqual_iff]

theorem equal_map_iff : Equal (.map fs) b ↔ ∃ gs, b = .map gs ∧ List.Forall₂ FieldEqual fs.toList gs.toList := by
  cases b with
  | map gs => exact sameFields_iff.trans ⟨fun h => ⟨gs, rfl, h⟩, fun ⟨_, heq, h⟩ => Value.map.inj heq ▸ h⟩
  | _ => exact ⟨nofun, nofun⟩

theorem equal_struct_iff : Equal (.struct fs) b ↔ ∃ gs, b = .struct gs ∧ List.Forall₂ FieldEqual fs.toList gs.toList := by
  cases b with
  | struct gs => exact sameFields_iff.trans ⟨fun h => ⟨gs, rfl, h⟩, fun ⟨_, heq, h⟩ => Value.struct.inj heq ▸ h⟩
  | _ => exact ⟨nofun, nofun⟩

end Verdict.Value
