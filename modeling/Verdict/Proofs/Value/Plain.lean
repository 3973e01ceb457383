import Verdict.Proofs.Number.Magnitude
import Verdict.Proofs.Value.Equality
import Verdict.Value.Plain

/-!
# What plain data can say

Plain data that becomes a value comes back the same if its numbers are finite, and a value that becomes plain data comes
back as an equal one, of whatever widths its numbers are, if these are finite and no set and no struct stands in it. Both
conversions lose something in all other cases (`plain_lossless`).
-/

namespace Verdict.Plain

/-- All numbers are finite, as they are in JSON. -/
inductive IsFinite : Plain → Prop
  | null : IsFinite .null
  | bool (b : Bool) : IsFinite (.bool b)
  | int (n : Json.WideInt) : IsFinite (.int n)
  | float {x : Float} (h : x.isFinite = true) : IsFinite (.float x)
  | string (s : String) : IsFinite (.string s)
  | array {items : List Plain} (h : ∀ p ∈ items, IsFinite p) : IsFinite (.array items)
  | object {members : Fields Plain} (h : ∀ m ∈ members.toList, IsFinite m.2) : IsFinite (.object members)

/-- Induction with the hypothesis for every item and for the data of every member. -/
theorem induction {P : Plain → Prop} (null : P .null) (bool : ∀ b, P (.bool b)) (int : ∀ n, P (.int n))
    (float : ∀ x, P (.float x)) (string : ∀ s, P (.string s))
    (array : ∀ items, (∀ p ∈ items, P p) → P (.array items))
    (object : ∀ members : Fields Plain, (∀ m ∈ members.toList, P m.2) → P (.object members)) (p : Plain) : P p :=
  @Plain.rec P (fun ps => ∀ p ∈ ps, P p) (fun _ ms => ∀ m ∈ ms.toList, P m.2)
    null bool int float string array object
    (fun _ hp => absurd hp List.not_mem_nil) (fun _ _ hp hps => List.forall_mem_cons.mpr ⟨hp, hps⟩)
    (fun _ hm => absurd hm List.not_mem_nil) (fun _ _ _ _ hp hms => List.forall_mem_cons.mpr ⟨hp, hms⟩) p

theorem isFinite_float_iff {x : Float} : IsFinite (.float x) ↔ x.isFinite = true :=
  ⟨fun | .float h => h, .float⟩

theorem isFinite_array_iff {items : List Plain} : IsFinite (.array items) ↔ ∀ p ∈ items, IsFinite p :=
  ⟨fun | .array h => h, .array⟩

theorem isFinite_object_iff {members : Fields Plain} :
    IsFinite (.object members) ↔ ∀ m ∈ members.toList, IsFinite m.2 :=
  ⟨fun | .object h => h, .object⟩

end Verdict.Plain

namespace Verdict.Value

/-- All floating-point numbers are finite, and there is no set and no struct at any depth. -/
inductive IsPlain : Value → Prop
  | null : IsPlain .null
  | bool (b : Bool) : IsPlain (.bool b)
  | int (n : Integer) : IsPlain (.int n)
  | float32 {x : Float32} (h : x.isFinite = true) : IsPlain (.float32 x)
  | float64 {x : Float} (h : x.isFinite = true) : IsPlain (.float64 x)
  | string (s : String) : IsPlain (.string s)
  | array {items : List Value} (h : ∀ v ∈ items, IsPlain v) : IsPlain (.array items)
  | map {fields : Fields Value} (h : ∀ f ∈ fields.toList, IsPlain f.2) : IsPlain (.map fields)

theorem isPlain_float32_iff {x : Float32} : IsPlain (.float32 x) ↔ x.isFinite = true :=
  ⟨fun | .float32 h => h, .float32⟩

theorem isPlain_float64_iff {x : Float} : IsPlain (.float64 x) ↔ x.isFinite = true :=
  ⟨fun | .float64 h => h, .float64⟩

theorem isPlain_array_iff {items : List Value} : IsPlain (.array items) ↔ ∀ v ∈ items, IsPlain v :=
  ⟨fun | .array h => h, .array⟩

theorem isPlain_map_iff {fields : Fields Value} : IsPlain (.map fields) ↔ ∀ f ∈ fields.toList, IsPlain f.2 :=
  ⟨fun | .map h => h, .map⟩

/-! ## Lists -/

theorem itemsOfPlain_eq (ps : List Plain) : itemsOfPlain ps = ps.map ofPlain := by
  induction ps with
  | nil => rfl
  | cons p ps ih => rw [itemsOfPlain, ih, List.map_cons]

variable {bound : Option String}

theorem toList_membersOfPlain (ms : Fields Plain bound) :
    (membersOfPlain ms).toList = ms.toList.map fun m => (m.1, ofPlain m.2) := by
  induction ms with
  | nil => rfl
  | cons name above p ms ih => rw [membersOfPlain, Fields.toList, Fields.toList, ih, List.map_cons]

theorem itemsToPlain_eq (vs : List Value) : itemsToPlain vs = vs.map toPlain := by
  induction vs with
  | nil => rfl
  | cons v vs ih => rw [itemsToPlain, ih, List.map_cons]

theorem toList_fieldsToPlain (fs : Fields Value bound) :
    (fieldsToPlain fs).toList = fs.toList.map fun f => (f.1, toPlain f.2) := by
  induction fs with
  | nil => rfl
  | cons name above v fs ih => rw [fieldsToPlain, Fields.toList, Fields.toList, ih, List.map_cons]

/-! ## Numbers -/

theorem ofWideInt_eq (n : Json.WideInt) : ∃ m, ofWideInt n = .int m ∧ m.val = n.val := by
  unfold ofWideInt
  split
  · exact ⟨_, rfl, rfl⟩
  · exact ⟨_, rfl, rfl⟩

theorem toPlain_ofWideInt (n : Json.WideInt) : toPlain (ofWideInt n) = .int n := by
  obtain ⟨val, min_le, lt_max⟩ := n
  obtain ⟨m, heq, rfl⟩ := ofWideInt_eq ⟨val, min_le, lt_max⟩
  rw [heq, toPlain]

theorem plainFloat_eq_iff {x : Float} : plainFloat x = .float x ↔ x.isFinite = true := by
  rw [plainFloat]
  split
  · next h => exact iff_of_true rfl h
  · next h => exact iff_of_false nofun h

/-- A number that became plain data as a double comes back as a double, or as null if it is not finite. -/
theorem equal_plainFloat_iff {v : Value} {x : Float} (hx : v.float? = some x) :
    Equal (ofPlain (plainFloat x)) v ↔ x.isFinite = true := by
  rw [plainFloat]
  split
  · next hfinite =>
    refine iff_of_true ?_ hfinite
    obtain ⟨i, hi⟩ := rank_isSome (a := .float64 x) rfl (Rounding.isNaN_of_isFinite hfinite)
    exact (Agree.number hi (by rw [rank, hx]; exact hi) (.inl rfl)).equal
  · next hfinite =>
    refine iff_of_false (fun h => ?_) hfinite
    cases (equal_iff_agree (a := .null) trivial).mp h with
    | null => cases hx
    | number hnull _ _ => cases hnull

/-! ## The two ways round -/

theorem map_eq_self_iff {α : Type} {f : α → α} {xs : List α} : xs.map f = xs ↔ ∀ x ∈ xs, f x = x :=
  calc xs.map f = xs ↔ xs.map f = xs.map id := by rw [List.map_id]
    _ ↔ ∀ x ∈ xs, f x = x := List.map_inj_left

theorem toPlain_ofPlain_iff (p : Plain) : toPlain (ofPlain p) = p ↔ p.IsFinite := by
  induction p using Plain.induction with
  | null => exact iff_of_true rfl .null
  | bool b => exact iff_of_true rfl (.bool b)
  | int n => exact iff_of_true (toPlain_ofWideInt n) (.int n)
  | float x => rw [ofPlain, toPlain, plainFloat_eq_iff, Plain.isFinite_float_iff]
  | string s => exact iff_of_true rfl (.string s)
  | array items ih =>
    rw [ofPlain, toPlain, itemsOfPlain_eq, itemsToPlain_eq, List.map_map, Plain.array.injEq, map_eq_self_iff,
      Plain.isFinite_array_iff]
    exact forall₂_congr ih
  | object members ih =>
    rw [ofPlain, toPlain, Plain.object.injEq, ← Fields.toList_inj, toList_fieldsToPlain, toList_membersOfPlain,
      List.map_map, map_eq_self_iff, Plain.isFinite_object_iff]
    refine forall₂_congr fun m hm => ?_
    rw [← ih m hm]
    exact Prod.ext_iff.trans (and_iff_right rfl)

theorem equal_ofPlain_toPlain_iff (v : Value) : Equal (ofPlain (toPlain v)) v ↔ v.IsPlain := by
  induction v using induction with
  | scalar v hv =>
    cases v with
    | null => exact iff_of_true Agree.null.equal .null
    | bool b => exact iff_of_true (Agree.bool b).equal (.bool b)
    | int n =>
      refine iff_of_true ?_ (.int n)
      obtain ⟨m, heq, hm⟩ := ofWideInt_eq ⟨n.val, (wide_of_integer n).1, (wide_of_integer n).2⟩
      rw [toPlain, ofPlain, heq]
      exact (Agree.int hm).equal
    | float32 x => rw [toPlain, equal_plainFloat_iff rfl, Binary.isFinite_widen, isPlain_float32_iff]
    | float64 x => rw [toPlain, equal_plainFloat_iff rfl, isPlain_float64_iff]
    | string s => exact iff_of_true (Agree.string s).equal (.string s)
    | array _ | set _ | map _ | struct _ => exact hv.elim
  | array items ih =>
    rw [toPlain, ofPlain, Equal, equal, itemsEqual_iff, itemsToPlain_eq, itemsOfPlain_eq, List.map_map,
      List.forall₂_map_left_iff, List.forall₂_same, isPlain_array_iff]
    exact forall₂_congr ih
  | set items =>
    rw [toPlain, ofPlain]
    constructor
    · intro h
      obtain ⟨_, heq, -⟩ := equal_array_iff.mp h
      cases heq
    · intro h
      cases h
  | map fields ih =>
    rw [toPlain, ofPlain, Equal, equal, sameFields_iff, toList_membersOfPlain, toList_fieldsToPlain, List.map_map,
      List.forall₂_map_left_iff, List.forall₂_same, isPlain_map_iff]
    refine forall₂_congr fun f hf => ?_
    rw [← ih f hf]
    exact and_iff_right rfl
  | struct fields =>
    rw [toPlain, ofPlain]
    constructor
    · intro h
      obtain ⟨_, heq, -⟩ := equal_map_iff.mp h
      cases heq
    · intro h
      cases h

/-- **Plain data loses nothing but types**: data comes back the same exactly if its numbers are finite, and a value comes
back as an equal one exactly if its numbers are finite and neither a set nor a struct stands in it. -/
theorem plain_lossless (p : Plain) (v : Value) :
    (toPlain (ofPlain p) = p ↔ p.IsFinite) ∧ ((ofPlain (toPlain v)).equal v = true ↔ v.IsPlain) :=
  ⟨toPlain_ofPlain_iff p, equal_ofPlain_toPlain_iff v⟩

end Verdict.Value
