import Verdict.Proofs.Json.Doubles
import Verdict.Proofs.Tagged.Loading

/-!
# Loading what was loaded

What is loaded can be stored and loaded again (`loaded_reloads`), but for a single that is infinite: a number that is
too great for its width is loaded as one, and that is stored as null. Whatever else is loaded can be stored: doubles are
finite and singles are numbers, and sets hold no two equal items (`loaded_of_ofStored?`).
-/

namespace Verdict

open Json

namespace Value

variable {a v w : Value} {j : Json} {depth : Nat} {medium : Medium}

/-! ## What loading gives -/

/-- A value whose doubles are finite, whose singles are numbers and whose sets hold no two equal items. -/
inductive Loaded : Value → Prop
  | scalar {v : Value} (hv : v.IsScalar) (h64 : ∀ x, v = .float64 x → x.isFinite = true)
      (h32 : ∀ x, v = .float32 x → x.isNaN = false) : Loaded v
  | array {items : List Value} (h : ∀ v ∈ items, Loaded v) : Loaded (.array items)
  | set {items : List Value} (hd : Distinct items) (h : ∀ v ∈ items, Loaded v) : Loaded (.set items)
  | map {fields : Fields Value} (h : ∀ f ∈ fields.toList, Loaded f.2) : Loaded (.map fields)
  | struct {fields : Fields Value} (h : ∀ f ∈ fields.toList, Loaded f.2) : Loaded (.struct fields)

theorem loaded_of_scalarOf? {type : ValueType} {content : Json} (h : scalarOf? type content = some v) : v.Loaded := by
  obtain ⟨hv, h64, h32⟩ := scalarOf?_cases h
  refine .scalar hv (fun x hx => ?_) (fun x hx => ?_)
  · obtain ⟨n, w, -, hw, rfl⟩ := h64 x hx
    exact Numeral.isFinite_of_value? hw
  · obtain ⟨n, w, -, hw, rfl⟩ := h32 x hx
    exact Numeral.isNaN_toFloat32 hw

theorem loaded_of_ofStored? (h : ofStored? depth medium j = some v) : v.Loaded := by
  induction depth using Nat.strong_induction_on generalizing medium j v with
  | h depth ih =>
    obtain ⟨d, m, hd, hstored⟩ := ofStored?_cases h
    have hitems {js : List Json} {vs : List Value} (hvs : js.mapM (ofStored? d m) = some vs) : ∀ v ∈ vs, v.Loaded := by
      intro v hv
      obtain ⟨i, -, hi⟩ := mem_of_mapM hvs v hv
      exact ih d hd hi
    have hfields {ms : List (String × Json)} {fields : Fields Value}
        (hfields : fieldsOf? (ofStored? d m) ms = some fields) : ∀ f ∈ fields.toList, f.2.Loaded := by
      intro f hf
      obtain ⟨m, -, hm⟩ := fieldsOf?_cases hfields f hf
      exact ih d hd hm
    cases hstored with
    | null _ => exact .scalar trivial nofun nofun
    | scalar _ hscalar => exact loaded_of_scalarOf? hscalar
    | array _ hvs => exact .array (hitems hvs)
    | set _ hvs => exact .set (distinct_distinct _) fun v hv => hitems hvs v (distinct_subset _ hv)
    | map _ hms => exact .map (hfields hms)
    | struct _ hms => exact .struct (hfields hms)

theorem Loaded.of_occurs (h : Loaded v) (ha : Occurs a v) : Loaded a := by
  induction ha with
  | self => exact h
  | array hx _ ih =>
    cases h with
    | scalar hv => exact hv.elim
    | array h => exact ih (h _ hx)
  | set hx _ ih =>
    cases h with
    | scalar hv => exact hv.elim
    | set _ h => exact ih (h _ hx)
  | map hf _ ih =>
    cases h with
    | scalar hv => exact hv.elim
    | map h => exact ih (h _ hf)
  | struct hf _ ih =>
    cases h with
    | scalar hv => exact hv.elim
    | struct h => exact ih (h _ hf)

theorem Loaded.isFinite {x : Float} (h : Loaded v) (hx : Occurs (.float64 x) v) : x.isFinite = true := by
  cases h.of_occurs hx with
  | scalar _ h64 => exact h64 x rfl

theorem Loaded.isNaN {x : Float32} (h : Loaded v) (hx : Occurs (.float32 x) v) : x.isNaN = false := by
  cases h.of_occurs hx with
  | scalar _ _ h32 => exact h32 x rfl

/-! ## What can be stored of it -/

/-- A value whose finite floating-point numbers are read back from their own texts. -/
structure Rereadable (v : Value) : Prop where
  double : ∀ x, Occurs (.float64 x) v → x.isFinite = true → Rereads x
  single : ∀ x, Occurs (.float32 x) v → x.isFinite = true → Rereads32 x

theorem Rereadable.of_occurs (h : Rereadable v) (ha : Occurs a v) : Rereadable a :=
  ⟨fun x hx => h.double x (hx.trans ha), fun x hx => h.single x (hx.trans ha)⟩

/-- There is an infinite single in a value. -/
def Overflows (v : Value) : Prop := ∃ x : Float32, Occurs (.float32 x) v ∧ x.isInf = true

theorem Overflows.of_occurs (h : Overflows a) (ha : Occurs a v) : Overflows v := by
  obtain ⟨x, hx, hinf⟩ := h
  exact ⟨x, hx.trans ha, hinf⟩

/-- **What was loaded can be stored**, unless there is an infinite single in it. -/
theorem Loaded.storable (h : Loaded v) (hr : Rereadable v) (hover : ¬ Overflows v) : v.Storable := by
  induction h with
  | @scalar v hv h64 h32 =>
    cases v with
    | array _ | set _ | map _ | struct _ => exact hv.elim
    | null => exact .null
    | bool b => exact .bool b
    | int n => exact .int n
    | string s => exact .string s
    | float32 x =>
      have hinf : x.isInf = false := Bool.eq_false_iff.mpr fun hinf => hover ⟨x, .self, hinf⟩
      exact .float32 (hr.single x .self (Rounding.isFinite_of_number hinf (h32 x rfl)))
    | float64 x => exact .float64 (hr.double x .self (h64 x rfl))
  | array _ ih =>
    refine .array fun v hv => ?_
    have hin : Occurs v _ := .array hv .self
    exact ih v hv (hr.of_occurs hin) (mt (·.of_occurs hin) hover)
  | set hd _ ih =>
    refine .set hd fun v hv => ?_
    have hin : Occurs v _ := .set hv .self
    exact ih v hv (hr.of_occurs hin) (mt (·.of_occurs hin) hover)
  | map _ ih =>
    refine .map fun f hf => ?_
    have hin : Occurs f.2 _ := .map hf .self
    exact ih f hf (hr.of_occurs hin) (mt (·.of_occurs hin) hover)
  | struct _ ih =>
    refine .struct fun f hf => ?_
    have hin : Occurs f.2 _ := .struct hf .self
    exact ih f hf (hr.of_occurs hin) (mt (·.of_occurs hin) hover)

theorem Storable.of_occurs (h : Storable v) (ha : Occurs a v) : Storable a := by
  induction ha with
  | self => exact h
  | array hx _ ih =>
    cases h with
    | array h => exact ih (h _ hx)
  | set hx _ ih =>
    cases h with
    | set _ h => exact ih (h _ hx)
  | map hf _ ih =>
    cases h with
    | map h => exact ih (h _ hf)
  | struct hf _ ih =>
    cases h with
    | struct h => exact ih (h _ hf)

theorem Storable.rereadable (h : Storable v) : Rereadable v := by
  refine ⟨fun x hx _ => ?_, fun x hx _ => ?_⟩
  · cases h.of_occurs hx with
    | float64 h => exact h
  · cases h.of_occurs hx with
    | float32 h => exact h

theorem Storable.not_overflows (h : Storable v) : ¬ Overflows v := by
  rintro ⟨x, hx, hinf⟩
  cases h.of_occurs hx with
  | float32 h =>
    obtain ⟨n, hn, -⟩ := h
    rw [Numeral.ofFloat32?, Rounding.parts?_of_not_finite (Rounding.not_isFinite_of_isInf hinf)] at hn
    cases hn

/-! ## What is lost -/

/-- The stored form of a value is read as a tree, even if a number is null there. -/
theorem Rereadable.legible (h : v.Rereadable) : v.toTagged.Legible := by
  induction v using Value.induction with
  | scalar v hv =>
    cases v with
    | array _ | set _ | map _ | struct _ => exact hv.elim
    | null => exact Storable.null.legible
    | bool b => exact (Storable.bool b).legible
    | int n => exact (Storable.int n).legible
    | string s => exact (Storable.string s).legible
    | float32 x =>
      by_cases hx : x.isFinite = true
      · exact (Storable.float32 (h.single x .self hx)).legible
      · rw [toTagged, Numeral.ofFloat32?, Rounding.parts?_of_not_finite hx]
        exact legible_typed .null
    | float64 x =>
      by_cases hx : x.isFinite = true
      · exact (Storable.float64 (h.double x .self hx)).legible
      · rw [toTagged, Numeral.ofFloat?, Rounding.parts?_of_not_finite hx]
        exact legible_typed .null
  | array items ih =>
    rw [toTagged, itemsToTagged_eq]
    exact legible_typed (.array (List.forall_mem_map.mpr fun v hv => ih v hv (h.of_occurs (.array hv .self))))
  | set items ih =>
    rw [toTagged, itemsToTagged_eq]
    exact legible_typed (.array (List.forall_mem_map.mpr fun v hv => ih v hv (h.of_occurs (.set hv .self))))
  | map fields ih =>
    rw [toTagged, fieldsToTagged_eq]
    exact legible_typed (.object (List.forall_mem_map.mpr fun f hf => ih f hf (h.of_occurs (.map hf .self))))
  | struct fields ih =>
    rw [toTagged, fieldsToTagged_eq]
    exact legible_typed (.object (List.forall_mem_map.mpr fun f hf => ih f hf (h.of_occurs (.struct hf .self))))

theorem contentOf?_of_typed {type : ValueType} {content : Json}
    (h : ofStored? depth medium (typed type content) = some w) :
    scalarOf? type content = some w ∨ ∃ d, contentOf? (ofStored? d medium) type content = some w := by
  match depth with
  | 0 => cases h
  | 1 => exact .inl (ofStored?_flat .. ▸ h)
  | depth + 2 => exact .inr ⟨depth, ofStored?_typed .. ▸ h⟩

theorem Occurs.loaded (ha : Occurs a v) (h : ofStored? depth medium v.toTagged = some w) :
    ∃ d w, ofStored? d medium a.toTagged = some w := by
  have hitem {items vs : List Value} {x : Value} {d : Nat} (hvs : (itemsToTagged items).mapM (ofStored? d medium) = some vs)
      (hx : x ∈ items) : ∃ w, ofStored? d medium x.toTagged = some w := by
    rw [itemsToTagged_eq] at hvs
    obtain ⟨w, -, hw⟩ := exists_of_mapM hvs _ (List.mem_map_of_mem hx)
    exact ⟨w, hw⟩
  have hfield {fields gs : Fields Value} {f : String × Value} {d : Nat}
      (hgs : fieldsOf? (ofStored? d medium) (fieldsToTagged fields) = some gs) (hf : f ∈ fields.toList) :
      ∃ w, ofStored? d medium f.2.toTagged = some w := by
    obtain ⟨pairs, hpairs, -⟩ := Option.map_eq_some_iff.mp hgs
    rw [fieldsToTagged_eq] at hpairs
    obtain ⟨p, -, hp⟩ := exists_of_mapM hpairs _ (List.mem_map_of_mem hf)
    obtain ⟨w, hw, -⟩ := Option.map_eq_some_iff.mp hp
    exact ⟨w, hw⟩
  induction ha generalizing depth w with
  | self => exact ⟨depth, w, h⟩
  | array hx _ ih | set hx _ ih =>
    rcases contentOf?_of_typed h with h | ⟨d, h⟩
    · cases h
    · obtain ⟨vs, hvs, -⟩ := Option.map_eq_some_iff.mp h
      obtain ⟨w, hw⟩ := hitem hvs hx
      exact ih hw
  | map hf _ ih | struct hf _ ih =>
    rcases contentOf?_of_typed h with h | ⟨d, h⟩
    · cases h
    · obtain ⟨gs, hgs, -⟩ := Option.map_eq_some_iff.mp h
      obtain ⟨w, hw⟩ := hfield hgs hf
      exact ih hw

theorem Overflows.not_loaded (h : Overflows v) (depth : Nat) (medium : Medium) :
    ofStored? depth medium v.toTagged = none := by
  obtain ⟨x, hx, hinf⟩ := h
  have hfinite : ¬ x.isFinite = true := Rounding.not_isFinite_of_isInf hinf
  refine Option.eq_none_iff_forall_ne_some.mpr fun w hw => ?_
  obtain ⟨d, w, hw⟩ := hx.loaded hw
  rw [toTagged, Numeral.ofFloat32?, Rounding.parts?_of_not_finite hfinite] at hw
  rcases contentOf?_of_typed hw with hw | ⟨d, hw⟩ <;> cases hw

theorem Loaded.reload (h : Loaded v) (hr : Rereadable v) (hdepth : v.toTagged.nesting ≤ maxNesting) :
    ∀ text ∈ v.toTagged.texts, (¬ Overflows v → (parse? text).bind (ofTagged? maxNesting) = some v) ∧
      (Overflows v → (parse? text).bind (ofTagged? maxNesting) = none) := by
  intro text ht
  rw [hr.legible.parse?_texts text ht]
  exact ⟨fun hover => (h.storable hr hover).ofStored?_toTagged hdepth, fun hover => hover.not_loaded maxNesting .text⟩

end Value

/-! ## Expressions -/

namespace Expr

variable {e loaded : Expr} {j : Json} {depth : Nat} {medium : Value.Medium}

theorem legible_of_rereadable (h : ∀ v ∈ e.literals, v.Rereadable) : e.toTagged.Legible :=
  legible_of_literals fun v hv => (h v hv).legible

theorem nodeOf?_of_node {kind : String} {parts : List (String × Json)} (hkeys : ∀ m ∈ parts, m.1 ≠ kindKey)
    (h : ofReadable? depth medium (node kind parts) = some loaded) :
    ∃ d, nodeOf? d (ofReadable? d .kept) kind ((kindKey, .string kind) :: parts) = some loaded := by
  cases depth with
  | zero => cases h
  | succ depth => exact ⟨depth, ofReadable?_node hkeys ▸ h⟩

theorem literals_loaded (h : ofReadable? depth medium e.toTagged = some loaded) :
    ∀ v ∈ e.literals, ∃ d w, Value.ofStored? d .kept v.toTagged = some w := by
  have hall {es read : List Expr} {d : Nat} (h : all? (ofReadable? d .kept) (.array (allToTagged es)) = some read)
      (ih : ∀ e ∈ es, ∀ {loaded depth medium}, ofReadable? depth medium e.toTagged = some loaded →
        ∀ v ∈ e.literals, ∃ d w, Value.ofStored? d .kept v.toTagged = some w) :
      ∀ v ∈ literalsOfAll es, ∃ d w, Value.ofStored? d .kept v.toTagged = some w := by
    intro v hv
    obtain ⟨e, he, hv⟩ := mem_literalsOfAll.mp hv
    rw [all?, allToTagged_eq] at h
    obtain ⟨loaded, -, hloaded⟩ := exists_of_mapM h _ (List.mem_map_of_mem he)
    exact ih e he hloaded v hv
  induction e using Expr.induction generalizing depth medium loaded with
  | literal v =>
    obtain ⟨d, h⟩ := nodeOf?_of_node (by simp [kindKey]) h
    simp [nodeOf?, part?, member, valuesOf, kindKey, Option.bind_eq_some_iff] at h
    obtain ⟨w, hw, -⟩ := h
    exact List.forall_mem_singleton.mpr ⟨d, w, hw⟩
  | reference name path => exact fun v hv => absurd hv List.not_mem_nil
  | negation e ih =>
    obtain ⟨d, h⟩ := nodeOf?_of_node (by simp [kindKey]) h
    simp [nodeOf?, part?, member, valuesOf, kindKey, Value.choice?, Option.bind_eq_some_iff] at h
    obtain ⟨o, ho, -⟩ := h
    exact ih ho
  | operation op l r ihl ihr =>
    obtain ⟨d, h⟩ := nodeOf?_of_node (by simp [kindKey]) h
    simp [nodeOf?, part?, member, valuesOf, kindKey, Value.choice?, named?_symbol, Option.bind_eq_some_iff] at h
    obtain ⟨l', hl, r', hr, -⟩ := h
    exact List.forall_mem_append.mpr ⟨ihl hl, ihr hr⟩
  | items es ih =>
    obtain ⟨d, h⟩ := nodeOf?_of_node (by simp [kindKey]) h
    simp [nodeOf?, part?, member, valuesOf, kindKey, Option.bind_eq_some_iff] at h
    obtain ⟨es', hes, -⟩ := h
    exact hall hes ih
  | application f es ih =>
    obtain ⟨d, h⟩ := nodeOf?_of_node (by simp [kindKey]) h
    simp [nodeOf?, part?, listPart?, member, valuesOf, kindKey, string?, Option.bind_eq_some_iff] at h
    obtain ⟨es', hes, -⟩ := h
    exact hall hes ih

theorem not_loaded_of_overflows {v : Value} (hv : v ∈ e.literals) (h : v.Overflows) (depth : Nat) :
    ofTagged? depth e.toTagged = none := by
  refine Option.eq_none_iff_forall_ne_some.mpr fun loaded hloaded => ?_
  obtain ⟨d, w, hw⟩ := literals_loaded (ofReadable?_of_ofTagged? hloaded) v hv
  rw [h.not_loaded d .kept] at hw
  cases hw

theorem loaded_literals (h : ofTagged? depth j = some e) : ∀ v ∈ e.literals, v.Loaded := by
  intro v hv
  obtain ⟨d, i, hi⟩ := literals_of_ofReadable? (ofReadable?_of_ofTagged? h) v hv
  exact Value.loaded_of_ofStored? hi

theorem reload (h : ofTagged? maxNesting j = some e) (hr : ∀ v ∈ e.literals, v.Rereadable)
    (hdepth : j.nesting < maxNesting) :
    ∀ text ∈ e.toTagged.texts, ((∀ v ∈ e.literals, ¬ v.Overflows) → ofJsonText? text = some e) ∧
      ((∃ v ∈ e.literals, v.Overflows) → ofJsonText? text = none) := by
  intro text ht
  have hnesting := nesting_of_ofReadable? (ofReadable?_of_ofTagged? h)
  constructor
  · intro hover
    have hstorable : ∀ v ∈ e.literals, v.Storable := fun v hv =>
      (loaded_literals h v hv).storable (hr v hv) (hover v hv)
    rw [ofJsonText?_eq hstorable text ht, if_pos (by omega)]
  · rintro ⟨v, hv, hover⟩
    rw [ofJsonText?, (legible_of_rereadable hr).parse?_texts text ht]
    exact not_loaded_of_overflows hv hover maxNesting

end Expr

/-! ## Texts -/

/-- **What was loaded is loaded again as it was**, from each text of its stored form: values and expressions whose
finite floating-point numbers are read back from their own texts, from texts with a level to spare. There is one
exception, and nothing is loaded again then: a single that is infinite, as it is for a number that is too great for its
width. Doubles are finite, and no single is `NaN`. -/
theorem loaded_reloads {text : String} (hdepth : ∀ j, Json.parse? text = some j → j.nesting < Json.maxNesting) :
    (∀ v, (Json.parse? text).bind (Value.ofTagged? Json.maxNesting) = some v → v.Rereadable →
      (∀ x, Value.Occurs (.float64 x) v → x.isFinite = true) ∧
      (∀ x, Value.Occurs (.float32 x) v → x.isNaN = false) ∧
      ∀ stored ∈ v.toTagged.texts,
        (¬ v.Overflows → (Json.parse? stored).bind (Value.ofTagged? Json.maxNesting) = some v) ∧
        (v.Overflows → (Json.parse? stored).bind (Value.ofTagged? Json.maxNesting) = none)) ∧
    ∀ e, Expr.ofJsonText? text = some e → (∀ v ∈ e.literals, v.Rereadable) →
      (∀ v ∈ e.literals, ∀ x, Value.Occurs (.float64 x) v → x.isFinite = true) ∧
      (∀ v ∈ e.literals, ∀ x, Value.Occurs (.float32 x) v → x.isNaN = false) ∧
      ∀ stored ∈ e.toTagged.texts,
        ((∀ v ∈ e.literals, ¬ v.Overflows) → Expr.ofJsonText? stored = some e) ∧
        ((∃ v ∈ e.literals, v.Overflows) → Expr.ofJsonText? stored = none) := by
  constructor
  · intro v hv hr
    obtain ⟨j, hj, hv⟩ := Option.bind_eq_some_iff.mp hv
    have hloaded := Value.loaded_of_ofStored? hv
    have hle := (Value.nesting_of_ofStored? hv).trans (hdepth j hj).le
    exact ⟨fun x => hloaded.isFinite, fun x => hloaded.isNaN, hloaded.reload hr hle⟩
  · intro e he hr
    obtain ⟨j, hj, he⟩ := Option.bind_eq_some_iff.mp he
    have hloaded := Expr.loaded_literals he
    exact ⟨fun v hv x => (hloaded v hv).isFinite, fun v hv x => (hloaded v hv).isNaN, Expr.reload he hr (hdepth j hj)⟩

/-- A set with one number twice, once as a list with the number of its type. -/
def setText : String :=
  "\x7b\"value\":[[11,1.50],\x7b\"type\":\x7b\"float64\":\x7b\x7d\x7d,\"value\":15e-1\x7d],\"type\":\"set\"\x7d"

/-- A call of a single, whose literal is a list. -/
def callText : String :=
  "\x7b\"args\":[[\"literal\",\x7b\"value\":1.50,\"type\":\"float32\"\x7d]],\"function\":\"f\",\"kind\":\"call\"\x7d"

/-- The double that is all of a set. -/
def soleDouble? : Value → Option Float
  | .set [.float64 x] => some x
  | _ => none

/-- The single that is all that a function is called with. -/
def soleArgument? : Expr → Option Float32
  | .call _ [.literal (.float32 x)] => some x
  | _ => none

theorem loaded_reloads_halves :
    (∃ v, (Json.parse? setText).bind (Value.ofTagged? Json.maxNesting) = some v ∧ v.Rereadable ∧
      ∀ stored ∈ v.toTagged.texts, (Json.parse? stored).bind (Value.ofTagged? Json.maxNesting) = some v) ∧
    ∃ e, Expr.ofJsonText? callText = some e ∧ (∀ v ∈ e.literals, v.Rereadable) ∧
      ∀ stored ∈ e.toTagged.texts, Expr.ofJsonText? stored = some e := by
  constructor
  · have hload : ((Json.parse? setText).bind (Value.ofTagged? Json.maxNesting)).bind soleDouble? =
        some (Binary.ofDecimal false 15 (-1)) := by decide +kernel
    have hdepth : ∀ j, Json.parse? setText = some j → j.nesting < Json.maxNesting := by
      have hall : (Json.parse? setText).all (fun j => j.nesting < Json.maxNesting) = true := by decide +kernel
      exact fun j hj => of_decide_eq_true ((Option.all_eq_true _ _).mp hall j hj)
    obtain ⟨v, hv, hcase⟩ := Option.bind_eq_some_iff.mp hload
    unfold soleDouble? at hcase
    split at hcase
    · next x =>
      have hx : Value.Rereads x := by
        rw [Option.some.inj hcase]
        exact ⟨⟨false, ['1'], ['5'], none⟩, by decide +kernel, by decide +kernel⟩
      have hs : Value.Storable (.set [.float64 x]) :=
        .set (List.pairwise_singleton ..) (List.forall_mem_singleton.mpr (.float64 hx))
      obtain ⟨-, -, hreload⟩ := (loaded_reloads hdepth).1 _ hv hs.rereadable
      exact ⟨_, hv, hs.rereadable, fun stored ht => (hreload stored ht).1 hs.not_overflows⟩
    · cases hcase
  · have hload : (Expr.ofJsonText? callText).bind soleArgument? = some (Binary.ofDecimal32 false 15 (-1)) := by
      decide +kernel
    have hdepth : ∀ j, Json.parse? callText = some j → j.nesting < Json.maxNesting := by
      have hall : (Json.parse? callText).all (fun j => j.nesting < Json.maxNesting) = true := by decide +kernel
      exact fun j hj => of_decide_eq_true ((Option.all_eq_true _ _).mp hall j hj)
    obtain ⟨e, he, hcase⟩ := Option.bind_eq_some_iff.mp hload
    unfold soleArgument? at hcase
    split at hcase
    · next f x =>
      have hx : Value.Rereads32 x := by
        rw [Option.some.inj hcase]
        exact ⟨⟨false, ['1'], ['5'], none⟩, by decide +kernel, by decide +kernel⟩
      have hs : ∀ v ∈ (Expr.call f [.literal (.float32 x)]).literals, v.Storable :=
        List.forall_mem_singleton.mpr (.float32 hx)
      have hr : ∀ v ∈ (Expr.call f [.literal (.float32 x)]).literals, v.Rereadable := fun v hv => (hs v hv).rereadable
      obtain ⟨-, -, hreload⟩ := (loaded_reloads hdepth).2 _ he hr
      exact ⟨_, he, hr, fun stored ht => (hreload stored ht).1 fun v hv => (hs v hv).not_overflows⟩
    · cases hcase

/-- A number that is too great for its width. -/
def overflowText : String := "\x7b\"type\":\"float32\",\"value\":1e300\x7d"

/-- A single that is a value. -/
def single? : Value → Option Float32
  | .float32 x => some x
  | _ => none

/-- A number that is too great for its width is loaded, and nothing is loaded from the texts of what it is loaded as. -/
theorem single_overflows :
    (∀ j, Json.parse? overflowText = some j → j.nesting < Json.maxNesting) ∧
    ∃ v, (Json.parse? overflowText).bind (Value.ofTagged? Json.maxNesting) = some v ∧ v.Rereadable ∧
      ∀ stored ∈ v.toTagged.texts, (Json.parse? stored).bind (Value.ofTagged? Json.maxNesting) = none := by
  constructor
  · have hall : (Json.parse? overflowText).all (fun j => j.nesting < Json.maxNesting) = true := by decide +kernel
    exact fun j hj => of_decide_eq_true ((Option.all_eq_true _ _).mp hall j hj)
  · have hload : (((Json.parse? overflowText).bind (Value.ofTagged? Json.maxNesting)).bind single?).any Float32.isInf =
        true := by decide +kernel
    obtain ⟨x, hx, hinf⟩ := (Option.any_eq_true _ _).mp hload
    obtain ⟨v, hv, hcase⟩ := Option.bind_eq_some_iff.mp hx
    unfold single? at hcase
    split at hcase
    · cases hcase
      have hr : Value.Rereadable (.float32 x) := by
        refine ⟨fun y hy _ => ?_, fun y hy hfinite => ?_⟩
        · cases hy.eq_of_isScalar trivial
        · cases hy.eq_of_isScalar trivial
          exact absurd hfinite (Rounding.not_isFinite_of_isInf hinf)
      have hnesting := Value.nesting_scalar (v := .float32 x) trivial
      obtain ⟨j, -, hj⟩ := Option.bind_eq_some_iff.mp hv
      have hreload := (Value.loaded_of_ofStored? hj).reload hr (by rw [hnesting]; decide)
      exact ⟨_, hv, hr, fun stored hs => (hreload stored hs).2 ⟨x, .self, hinf⟩⟩
    · cases hcase

end Verdict
