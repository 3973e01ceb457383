import Verdict.Value.Tagged
import Verdict.Proofs.Fields
import Verdict.Proofs.Json.Nesting
import Verdict.Proofs.Number.Kinds
import Verdict.Proofs.Value.Sets

/-!
# Stored values

A value is read from its stored form again, in a text or in what was kept of one (`Storable.ofStored?_toTagged`): its
floating-point numbers have to be such as are read back from their own text, and its sets may hold no two equal items.
The stored form of such a value is a tree that is read from its text (`Storable.legible`).
-/

namespace Verdict

namespace Json

/-- The value of a number's text. -/
def Numeral.valueOfText? (text : List Char) : Option Number :=
  match read text with
  | some (n, []) => n.value?
  | _ => none

theorem Numeral.IsProper.valueOfText?_text {n : Numeral} (hn : n.IsProper) : valueOfText? n.text = n.value? := by
  have hread := hn.read_text .nil
  rw [List.append_nil] at hread
  rw [valueOfText?, hread]

theorem WideInt.ofInt?_integer (n : Integer) : ∃ i, WideInt.ofInt? n.val = some i ∧ i.val = n.val :=
  ⟨⟨n.val, n.bounds.1, n.bounds.2⟩, dif_pos n.bounds, rfl⟩

end Json

namespace Value

open Json

theorem mapM_inverse {α β : Type} {f : α → β} {g : β → Option α} {as : List α} (h : ∀ a ∈ as, g (f a) = some a) :
    (as.map f).mapM g = some as := by
  induction as with
  | nil => rfl
  | cons a as ih =>
    rw [List.forall_mem_cons] at h
    rw [List.map_cons, List.mapM_cons, h.1, ih h.2]
    rfl

theorem itemsToTagged_eq (vs : List Value) : itemsToTagged vs = vs.map toTagged := by
  induction vs with
  | nil => rfl
  | cons v vs ih => rw [itemsToTagged, ih, List.map_cons]

theorem fieldsToTagged_eq {bound : Option String} (fields : Fields Value bound) :
    fieldsToTagged fields = fields.toList.map fun f => (f.1, f.2.toTagged) := by
  induction fields with
  | nil => rfl
  | cons name above v fields ih => rw [fieldsToTagged, ih, Fields.toList, List.map_cons]

/-! ## What can be stored -/

/-- A double that is finite and is read back from its own text. -/
def Rereads (x : Float) : Prop :=
  ∃ n, Numeral.ofFloat? x = some n ∧ (Numeral.valueOfText? n.text).map Number.toFloat = some x

/-- A single that is finite and is read back from its own text. -/
def Rereads32 (x : Float32) : Prop :=
  ∃ n, Numeral.ofFloat32? x = some n ∧ (Numeral.valueOfText? n.text).map Number.toFloat32 = some x

/-- A value whose floating-point numbers are read back and whose sets hold no two equal items. -/
inductive Storable : Value → Prop
  | null : Storable .null
  | bool (b : Bool) : Storable (.bool b)
  | int (n : Integer) : Storable (.int n)
  | float32 {x : Float32} (h : Rereads32 x) : Storable (.float32 x)
  | float64 {x : Float} (h : Rereads x) : Storable (.float64 x)
  | string (s : String) : Storable (.string s)
  | array {items : List Value} (h : ∀ v ∈ items, Storable v) : Storable (.array items)
  | set {items : List Value} (hd : items.Pairwise fun a b => equal a b = false) (h : ∀ v ∈ items, Storable v) :
      Storable (.set items)
  | map {fields : Fields Value} (h : ∀ f ∈ fields.toList, Storable f.2) : Storable (.map fields)
  | struct {fields : Fields Value} (h : ∀ f ∈ fields.toList, Storable f.2) : Storable (.struct fields)

theorem isProper_ofFloat? {x : Float} {n : Numeral} (h : Numeral.ofFloat? x = some n) : n.IsProper := by
  obtain ⟨p, -, rfl⟩ := Option.map_eq_some_iff.mp h
  exact Numeral.isProper_ofDecimal _

theorem isProper_ofFloat32? {x : Float32} {n : Numeral} (h : Numeral.ofFloat32? x = some n) : n.IsProper := by
  obtain ⟨p, -, rfl⟩ := Option.map_eq_some_iff.mp h
  exact Numeral.isProper_ofDecimal _

theorem Rereads.numeral {x : Float} (h : Rereads x) :
    ∃ n v, Numeral.ofFloat? x = some n ∧ n.IsProper ∧ n.value? = some v ∧ v.toFloat = x := by
  obtain ⟨n, hn, hx⟩ := h
  rw [(isProper_ofFloat? hn).valueOfText?_text] at hx
  obtain ⟨v, hv, hx⟩ := Option.map_eq_some_iff.mp hx
  exact ⟨n, v, hn, isProper_ofFloat? hn, hv, hx⟩

theorem Rereads32.numeral {x : Float32} (h : Rereads32 x) :
    ∃ n v, Numeral.ofFloat32? x = some n ∧ n.IsProper ∧ n.value? = some v ∧ v.toFloat32 = x := by
  obtain ⟨n, hn, hx⟩ := h
  rw [(isProper_ofFloat32? hn).valueOfText?_text] at hx
  obtain ⟨v, hv, hx⟩ := Option.map_eq_some_iff.mp hx
  exact ⟨n, v, hn, isProper_ofFloat32? hn, hv, hx⟩

/-! ## The trees of values -/

theorem legible_typed {type : ValueType} {content : Json} (h : content.Legible) : (typed type content).Legible :=
  .object (by simp [h, Legible.string])

theorem Storable.legible {v : Value} (h : v.Storable) : v.toTagged.Legible := by
  induction h with
  | null => exact .object (by simp [Legible.string])
  | bool b => exact legible_typed (.bool b)
  | int n =>
    obtain ⟨i, hi, -⟩ := WideInt.ofInt?_integer n
    refine legible_typed (.number (Numeral.isProper_ofInt n.val) ?_)
    rw [Numeral.value?_ofInt hi]
    rfl
  | float32 hx =>
    obtain ⟨n, v, hn, hproper, hv, -⟩ := hx.numeral
    rw [toTagged, hn]
    exact legible_typed (.number hproper (by rw [hv]; rfl))
  | float64 hx =>
    obtain ⟨n, v, hn, hproper, hv, -⟩ := hx.numeral
    rw [toTagged, hn]
    exact legible_typed (.number hproper (by rw [hv]; rfl))
  | string s => exact legible_typed (.string s)
  | array _ ih | set _ _ ih =>
    rw [toTagged, itemsToTagged_eq]
    exact legible_typed (.array (List.forall_mem_map.mpr ih))
  | map _ ih | struct _ ih =>
    rw [toTagged, fieldsToTagged_eq]
    exact legible_typed (.object (List.forall_mem_map.mpr ih))

theorem nesting_typed (type : ValueType) (content : Json) : (typed type content).nesting = content.nesting + 1 := by
  simp [typed, nesting, nestingOfMembers]

/-! ## Reading -/

theorem ofName?_name (type : ValueType) : ValueType.ofName? type.name = some type := by
  cases type with
  | int kind => cases kind <;> rfl
  | _ => rfl

variable {medium : Medium} {type : ValueType} {content : Json} {v : Value} {depth : Nat}

theorem parts?_typed (medium : Medium) (depth : Nat) (type : ValueType) (content : Json) :
    parts? medium depth (typed type content) = some ⟨type, some (medium, content)⟩ := by
  simp [typed, parts?, member, valuesOf, typeKey, contentKey, choice?, ofName?_name, contentFirst, mediumOf]

theorem ofStored?_flat (medium : Medium) (type : ValueType) (content : Json) :
    ofStored? 1 medium (typed type content) = scalarOf? type content := by
  rw [ofStored?, parts?_typed]
  cases type <;> rfl

theorem ofStored?_typed (depth : Nat) (medium : Medium) (type : ValueType) (content : Json) :
    ofStored? (depth + 2) medium (typed type content) = contentOf? (ofStored? depth medium) type content := by
  rw [ofStored?, parts?_typed]
  cases type <;> rfl

theorem ofStored?_scalar (hdepth : (typed type content).nesting ≤ depth)
    (hcontent : ∀ read, contentOf? read type content = scalarOf? type content) (h : scalarOf? type content = some v) :
    ofStored? depth medium (typed type content) = some v := by
  rw [nesting_typed] at hdepth
  match depth with
  | 1 => rw [ofStored?_flat, h]
  | depth + 2 => rw [ofStored?_typed, hcontent, h]

theorem ofStored?_content (hdepth : (typed type content).nesting ≤ depth) (hpos : 0 < content.nesting)
    (h : ∀ d, content.nesting ≤ d + 1 → contentOf? (ofStored? d medium) type content = some v) :
    ofStored? depth medium (typed type content) = some v := by
  rw [nesting_typed] at hdepth
  obtain ⟨depth, rfl⟩ : ∃ d, depth = d + 2 := ⟨depth - 2, by omega⟩
  rw [ofStored?_typed]
  exact h depth (by omega)

theorem fieldsOf?_tagged {read : Json → Option Value} {fields : Fields Value}
    (h : ∀ f ∈ fields.toList, read f.2.toTagged = some f.2) : fieldsOf? read (fieldsToTagged fields) = some fields := by
  rw [fieldsOf?, fieldsToTagged_eq, mapM_inverse fun f hf => by rw [h f hf]; rfl, Option.map_some, Fields.ofList_toList]

theorem items_tagged {items : List Value}
    (ih : ∀ v ∈ items, ∀ {depth : Nat}, v.toTagged.nesting ≤ depth → ofStored? depth medium v.toTagged = some v)
    (hdepth : nestingOfItems (itemsToTagged items) ≤ depth) :
    (itemsToTagged items).mapM (ofStored? depth medium) = some items := by
  rw [itemsToTagged_eq, nestingOfItems_le_iff, List.forall_mem_map] at hdepth
  rw [itemsToTagged_eq]
  exact mapM_inverse fun v hv => ih v hv (hdepth v hv)

theorem fields_tagged {fields : Fields Value}
    (ih : ∀ f ∈ fields.toList, ∀ {depth : Nat}, f.2.toTagged.nesting ≤ depth →
      ofStored? depth medium f.2.toTagged = some f.2)
    (hdepth : nestingOfMembers (fieldsToTagged fields) ≤ depth) :
    fieldsOf? (ofStored? depth medium) (fieldsToTagged fields) = some fields := by
  refine fieldsOf?_tagged fun f hf => ih f hf ?_
  rw [fieldsToTagged_eq, nestingOfMembers_le_iff, List.forall_mem_map] at hdepth
  exact hdepth f hf

/-- **A value is read from its stored form** if that may nest as deep as it does. -/
theorem Storable.ofStored?_toTagged (h : v.Storable) (hdepth : v.toTagged.nesting ≤ depth) :
    ofStored? depth medium v.toTagged = some v := by
  induction h generalizing depth with
  | null =>
    match depth with
    | 0 => exact absurd hdepth (by decide)
    | depth + 1 => rfl
  | bool b => exact ofStored?_scalar hdepth (fun _ => rfl) rfl
  | int n =>
    refine ofStored?_scalar hdepth (fun _ => rfl) ?_
    obtain ⟨i, hi, hval⟩ := WideInt.ofInt?_integer n
    have hfits : Integer.ofInt? n.kind n.val = some n := dif_pos ⟨n.min_le, n.le_max⟩
    simp only [scalarOf?, number?, Numeral.value?_ofInt hi, hval, hfits, Option.map_some]
  | float32 hx =>
    obtain ⟨n, v, hn, -, hv, rfl⟩ := hx.numeral
    rw [toTagged, hn] at hdepth ⊢
    refine ofStored?_scalar hdepth (fun _ => rfl) ?_
    simp only [scalarOf?, number?, floatJson, Option.map_some, Option.getD_some, hv]
    cases v <;> rfl
  | float64 hx =>
    obtain ⟨n, v, hn, -, hv, rfl⟩ := hx.numeral
    rw [toTagged, hn] at hdepth ⊢
    refine ofStored?_scalar hdepth (fun _ => rfl) ?_
    simp only [scalarOf?, number?, floatJson, Option.map_some, Option.getD_some, hv]
    cases v <;> rfl
  | string s => exact ofStored?_scalar hdepth (fun _ => rfl) rfl
  | array h ih =>
    refine ofStored?_content hdepth (Nat.succ_pos _) fun d hd => ?_
    rw [contentOf?, items_tagged ih (Nat.le_of_succ_le_succ hd)]
    rfl
  | set hdistinct h ih =>
    refine ofStored?_content hdepth (Nat.succ_pos _) fun d hd => ?_
    rw [contentOf?, items_tagged ih (Nat.le_of_succ_le_succ hd), Option.map_some, Distinct.ofItems hdistinct]
  | map h ih =>
    refine ofStored?_content hdepth (Nat.succ_pos _) fun d hd => ?_
    rw [contentOf?, fields_tagged ih (Nat.le_of_succ_le_succ hd)]
    rfl
  | struct h ih =>
    refine ofStored?_content hdepth (Nat.succ_pos _) fun d hd => ?_
    rw [contentOf?, fields_tagged ih (Nat.le_of_succ_le_succ hd)]
    rfl

end Value

end Verdict
