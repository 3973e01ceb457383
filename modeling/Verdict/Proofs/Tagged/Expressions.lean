import Verdict.Condition
import Verdict.Proofs.Expr.Literals
import Verdict.Proofs.Tagged.Values

/-!
# Stored expressions and conditions

An expression is read from its stored form again if its literals are, and so is a condition. With the texts of stored
forms this gives that what is stored is loaded as it was (`stored_loaded`).
-/

namespace Verdict

open Json

namespace Expr

theorem allToTagged_eq (es : List Expr) : allToTagged es = es.map toTagged := by
  induction es with
  | nil => rfl
  | cons e es ih => rw [allToTagged, ih, List.map_cons]

theorem strings?_strings (names : List String) : strings? (strings names) = some names :=
  Value.mapM_inverse fun _ _ => rfl

theorem legible_strings (names : List String) : (strings names).Legible :=
  .array (List.forall_mem_map.mpr fun _ _ => .string _)

theorem legible_node {kind : String} {parts : List (String × Json)} (h : ∀ m ∈ parts, m.2.Legible) :
    (node kind parts).Legible :=
  .object (List.forall_mem_cons.mpr ⟨.string _, h⟩)

theorem legible_of_literals {e : Expr} (h : ∀ v ∈ e.literals, v.toTagged.Legible) : e.toTagged.Legible := by
  induction e using Expr.induction with
  | literal v => exact legible_node (by simpa using h v (List.mem_singleton_self v))
  | reference name path =>
    cases path with
    | nil => exact legible_node (by simpa using .string name)
    | cons f fs => exact legible_node (by simp [Legible.string, legible_strings])
  | negation e ih => exact legible_node (by simpa [Legible.string] using ih h)
  | operation op l r ihl ihr =>
    have hl := ihl fun v hv => h v (List.mem_append_left _ hv)
    have hr := ihr fun v hv => h v (List.mem_append_right _ hv)
    exact legible_node (by simpa [Legible.string] using ⟨hl, hr⟩)
  | items es ih =>
    have hes : (Json.array (allToTagged es)).Legible := by
      rw [allToTagged_eq]
      exact .array (List.forall_mem_map.mpr fun e he => ih e he fun v hv => h v (mem_literalsOfAll.mpr ⟨e, he, hv⟩))
    exact legible_node (by simpa using hes)
  | application f es ih =>
    have hes : (Json.array (allToTagged es)).Legible := by
      rw [allToTagged_eq]
      exact .array (List.forall_mem_map.mpr fun e he => ih e he fun v hv => h v (mem_literalsOfAll.mpr ⟨e, he, hv⟩))
    exact legible_node (by simpa [Legible.string] using hes)

theorem legible_toTagged {e : Expr} (h : ∀ v ∈ e.literals, v.Storable) : e.toTagged.Legible :=
  legible_of_literals fun v hv => (h v hv).legible

theorem nesting_strings {names : List String} : (strings names).nesting = 1 := by
  have hnames : ∀ j ∈ names.map Json.string, j.nesting ≤ 0 := List.forall_mem_map.mpr fun _ _ => le_refl 0
  rw [strings, nesting, Nat.le_zero.mp (nestingOfItems_le_iff.mpr hnames)]

theorem named?_symbol (op : BinaryOp) : BinaryOp.named? op.symbol = some op := by
  cases op <;> rfl

theorem nesting_node_le {kind : String} {parts : List (String × Json)} {depth : Nat} :
    (node kind parts).nesting ≤ depth ↔ ∃ d, depth = d + 1 ∧ ∀ m ∈ parts, m.2.nesting ≤ d := by
  have hkind : (Json.string kind).nesting = 0 := rfl
  cases depth with
  | zero => simp [node, nesting]
  | succ depth =>
    rw [node, nesting, Nat.add_le_add_iff_right, nestingOfMembers_le_iff, List.forall_mem_cons]
    simp [hkind]

theorem nesting_of_all {es : List Expr} {depth : Nat} (h : (Json.array (allToTagged es)).nesting ≤ depth) :
    ∀ e ∈ es, e.toTagged.nesting ≤ depth := by
  rw [nesting] at h
  have hitems := nestingOfItems_le_iff.mp (Nat.le_of_succ_le h)
  rwa [allToTagged_eq, List.forall_mem_map] at hitems

theorem all?_allToTagged {read : Json → Option Expr} {es : List Expr} (h : ∀ e ∈ es, read e.toTagged = some e) :
    all? read (.array (allToTagged es)) = some es := by
  rw [all?, allToTagged_eq]
  exact Value.mapM_inverse h

variable {depth : Nat} {read : Json → Option Expr}

theorem valuesOf_eq_nil {key : String} {members : List (String × Json)} (h : ∀ m ∈ members, m.1 ≠ key) :
    valuesOf key members = [] :=
  List.filterMap_eq_nil_iff.mpr fun m hm => if_neg (h m hm)

theorem ofReadable?_node {medium : Value.Medium} {kind : String} {parts : List (String × Json)}
    (h : ∀ m ∈ parts, m.1 ≠ kindKey) :
    ofReadable? (depth + 1) medium (node kind parts) =
      nodeOf? depth (ofReadable? depth .kept) kind ((kindKey, .string kind) :: parts) := by
  have hkind : valuesOf kindKey ((kindKey, .string kind) :: parts) = [.string kind] := by
    have hrest := valuesOf_eq_nil h
    unfold valuesOf at hrest ⊢
    simp [hrest]
  have hparts : parts? medium (node kind parts) = some (kind, (kindKey, .string kind) :: parts) := by
    rw [node, parts?, part?, member, hkind]
    rfl
  rw [ofReadable?, hparts]
  rfl

theorem nodeOf?_literal {j : Json} {v : Value} (h : Value.ofStored? depth .kept j = some v) :
    nodeOf? depth read "literal" [(kindKey, .string "literal"), ("value", j)] = some (.literal v) := by
  simp [nodeOf?, part?, member, valuesOf, kindKey, h]

theorem nodeOf?_variable (name : String) :
    nodeOf? depth read "variable" [(kindKey, .string "variable"), ("name", .string name)] = some (.variable name []) := by
  simp [nodeOf?, part?, listPart?, member, valuesOf, kindKey, string?]

theorem nodeOf?_path (name : String) (path : List String) :
    nodeOf? depth read "variable" [(kindKey, .string "variable"), ("name", .string name), ("path", strings path)] =
      some (.variable name path) := by
  simp [nodeOf?, part?, listPart?, member, valuesOf, kindKey, string?, strings?_strings]

theorem nodeOf?_unary {j : Json} {e : Expr} (h : read j = some e) :
    nodeOf? depth read "unary" [(kindKey, .string "unary"), ("operator", .string notSymbol), ("operand", j)] =
      some (.not e) := by
  simp [nodeOf?, part?, member, valuesOf, kindKey, Value.choice?, h]

theorem nodeOf?_binary {j k : Json} {l r : Expr} (op : BinaryOp) (hl : read j = some l) (hr : read k = some r) :
    nodeOf? depth read "binary"
        [(kindKey, .string "binary"), ("operator", .string op.symbol), ("left", j), ("right", k)] =
      some (.binary op l r) := by
  simp [nodeOf?, part?, member, valuesOf, kindKey, Value.choice?, named?_symbol, hl, hr]

theorem nodeOf?_list {j : Json} {es : List Expr} (h : all? read j = some es) :
    nodeOf? depth read "list" [(kindKey, .string "list"), ("items", j)] = some (.list es) := by
  simp [nodeOf?, part?, member, valuesOf, kindKey, h]

theorem nodeOf?_call {j : Json} {es : List Expr} (f : String) (h : all? read j = some es) :
    nodeOf? depth read "call" [(kindKey, .string "call"), ("function", .string f), ("args", j)] = some (.call f es) := by
  simp [nodeOf?, part?, listPart?, member, valuesOf, kindKey, string?, h]

/-- **An expression is read from its stored form** if that may nest as deep as it does. -/
theorem ofReadable?_toTagged {e : Expr} (h : ∀ v ∈ e.literals, v.Storable) {depth : Nat} {medium : Value.Medium}
    (hdepth : e.toTagged.nesting ≤ depth) : ofReadable? depth medium e.toTagged = some e := by
  induction e using Expr.induction generalizing depth medium with
  | literal v =>
    obtain ⟨depth, rfl, hparts⟩ := nesting_node_le.mp hdepth
    rw [toTagged, ofReadable?_node (by simp [kindKey])]
    refine nodeOf?_literal (Value.Storable.ofStored?_toTagged (h v (List.mem_singleton_self v)) ?_)
    exact hparts _ (List.mem_singleton_self _)
  | reference name path =>
    cases path with
    | nil =>
      obtain ⟨depth, rfl, -⟩ := nesting_node_le.mp hdepth
      rw [toTagged, ofReadable?_node (by simp [kindKey])]
      exact nodeOf?_variable name
    | cons f fs =>
      obtain ⟨depth, rfl, -⟩ := nesting_node_le.mp hdepth
      rw [toTagged, ofReadable?_node (by simp [kindKey])]
      · exact nodeOf?_path name (f :: fs)
      · exact nofun
  | negation e ih =>
    obtain ⟨depth, rfl, hparts⟩ := nesting_node_le.mp hdepth
    rw [toTagged, ofReadable?_node (by simp [kindKey])]
    exact nodeOf?_unary (ih h (hparts ("operand", _) (by simp)))
  | operation op l r ihl ihr =>
    obtain ⟨depth, rfl, hparts⟩ := nesting_node_le.mp hdepth
    rw [toTagged, ofReadable?_node (by simp [kindKey])]
    refine nodeOf?_binary op (ihl (fun v hv => h v (List.mem_append_left _ hv)) ?_)
      (ihr (fun v hv => h v (List.mem_append_right _ hv)) ?_)
    · exact hparts ("left", _) (by simp)
    · exact hparts ("right", _) (by simp)
  | items es ih =>
    obtain ⟨depth, rfl, hparts⟩ := nesting_node_le.mp hdepth
    have hes := nesting_of_all (hparts ("items", .array (allToTagged es)) (by simp))
    rw [toTagged, ofReadable?_node (by simp [kindKey])]
    exact nodeOf?_list
      (all?_allToTagged fun e he => ih e he (fun v hv => h v (mem_literalsOfAll.mpr ⟨e, he, hv⟩)) (hes e he))
  | application f es ih =>
    obtain ⟨depth, rfl, hparts⟩ := nesting_node_le.mp hdepth
    have hes := nesting_of_all (hparts ("args", .array (allToTagged es)) (by simp))
    rw [toTagged, ofReadable?_node (by simp [kindKey])]
    exact nodeOf?_call f
      (all?_allToTagged fun e he => ih e he (fun v hv => h v (mem_literalsOfAll.mpr ⟨e, he, hv⟩)) (hes e he))

theorem ofTagged?_toTagged {e : Expr} (h : ∀ v ∈ e.literals, v.Storable) (depth : Nat) :
    ofTagged? depth e.toTagged = if e.toTagged.nesting ≤ depth then some e else none := by
  have hreadable : isReadable depth e.toTagged = true ↔ _ := (legible_toTagged h).isReadable_iff
  unfold ofTagged?
  by_cases hdepth : e.toTagged.nesting ≤ depth
  · rw [if_pos (hreadable.mpr hdepth), if_pos hdepth, ofReadable?_toTagged h hdepth]
  · rw [if_neg (mt hreadable.mp hdepth), if_neg hdepth]

theorem ofJsonText?_eq {e : Expr} (h : ∀ v ∈ e.literals, v.Storable) :
    ∀ text ∈ e.toTagged.texts, ofJsonText? text = if e.toTagged.nesting ≤ maxNesting then some e else none := by
  intro text ht
  rw [ofJsonText?, (legible_toTagged h).parse?_texts text ht]
  exact ofTagged?_toTagged h maxNesting

end Expr

namespace Condition

theorem legible_toTagged {c : Condition} (h : ∀ v ∈ c.node.literals, v.Storable) : c.toTagged.Legible := by
  have hnode := Expr.legible_toTagged h
  exact .object (by simp [Legible.string, Expr.legible_strings, hnode])

theorem ofTagged?_toTagged {c : Condition} (h : ∀ v ∈ c.node.literals, v.Storable) (depth : Nat) :
    ofTagged? (depth + 1) c.toTagged = if c.node.toTagged.nesting ≤ depth then some c else none := by
  rw [toTagged, ofTagged?]
  by_cases hdepth : c.node.toTagged.nesting ≤ depth <;>
    simp [Expr.part?, Expr.listPart?, member, valuesOf, Expr.string?, Expr.strings?_strings, Expr.ofTagged?_toTagged h,
      hdepth]

theorem ofJsonText?_eq {c : Condition} (h : ∀ v ∈ c.node.literals, v.Storable) :
    ∀ text ∈ c.toTagged.texts, ofJsonText? text = if c.node.toTagged.nesting < maxNesting then some c else none := by
  intro text ht
  rw [ofJsonText?, (legible_toTagged h).parse?_texts text ht]
  exact (ofTagged?_toTagged h (maxNesting - 1)).trans (if_congr (Nat.lt_succ_iff.symm) rfl rfl)

theorem nesting_node_lt (c : Condition) : c.node.toTagged.nesting < c.toTagged.nesting := by
  rw [toTagged, nesting]
  exact Nat.lt_succ_of_le (nestingOfMembers_le_iff.mp (le_refl _) ("node", c.node.toTagged) (by simp))

end Condition

/-- **What is stored is loaded as it was.** Values, expressions and conditions are read from the texts of their stored
forms, if those may nest as deep as they do, and what they hold can be stored. -/
theorem stored_loaded :
    (∀ v : Value, v.Storable → v.toTagged.nesting ≤ Json.maxNesting →
      ∀ text ∈ v.toTagged.texts, (Json.parse? text).bind (Value.ofTagged? Json.maxNesting) = some v) ∧
    (∀ e : Expr, (∀ v ∈ e.literals, v.Storable) → e.toTagged.nesting ≤ Json.maxNesting →
      ∀ text ∈ e.toTagged.texts, Expr.ofJsonText? text = some e) ∧
    (∀ c : Condition, (∀ v ∈ c.node.literals, v.Storable) → c.toTagged.nesting ≤ Json.maxNesting →
      ∀ text ∈ c.toTagged.texts, Condition.ofJsonText? text = some c) := by
  refine ⟨fun v hv hn text ht => ?_, fun e he hn text ht => ?_, fun c hc hn text ht => ?_⟩
  · rw [hv.legible.parse?_texts text ht]
    exact hv.ofStored?_toTagged hn
  · rw [Expr.ofJsonText?_eq he text ht, if_pos hn]
  · rw [Condition.ofJsonText?_eq hc text ht, if_pos (Nat.lt_of_lt_of_le c.nesting_node_lt hn)]

/-- A map with a set of numbers of three types in it. -/
def numberMap : Value :=
  .map (.ofList [("", .null), ("n\n", .set [.int ⟨.int8, -5, by decide, by decide⟩,
    .float64 (Binary.ofDecimal true 15 (-1)), .float32 (Binary.ofDecimal32 false 25 7)])])

/-- A condition with that map, an empty path and a list without items. -/
def shiftCondition : Condition where
  source := "\"a\\"
  attributes := ["a"]
  node := .call "f" [.binary .shl (.literal numberMap) (.not (.variable "v" ["w"])), .variable "" [], .list []]

theorem numberMap_storable : numberMap.Storable := by
  refine .map fun f hf => ?_
  have hmem := Fields.mem_of_mem_ofList hf
  simp only [List.mem_cons, List.not_mem_nil, or_false] at hmem
  rcases hmem with rfl | rfl
  · exact .null
  refine .set (by decide) ?_
  simp only [List.forall_mem_cons, List.not_mem_nil, false_implies, implies_true, and_true]
  refine ⟨.int _, .float64 ?_, .float32 ?_⟩
  · exact ⟨⟨true, ['1'], ['5'], none⟩, rfl, rfl⟩
  · exact ⟨⟨false, "250000000".toList, ['0'], none⟩, rfl, rfl⟩

theorem stored_loaded_numbers :
    (∀ text ∈ numberMap.toTagged.texts, (Json.parse? text).bind (Value.ofTagged? Json.maxNesting) = some numberMap) ∧
    (∀ text ∈ shiftCondition.node.toTagged.texts, Expr.ofJsonText? text = some shiftCondition.node) ∧
    (∀ text ∈ shiftCondition.toTagged.texts, Condition.ofJsonText? text = some shiftCondition) := by
  have hliterals : ∀ v ∈ shiftCondition.node.literals, v.Storable := by
    intro v hv
    have hv' : v = numberMap := by
      simpa [shiftCondition, Expr.literals, Expr.literalsOfAll] using hv
    exact hv' ▸ numberMap_storable
  exact ⟨stored_loaded.1 numberMap numberMap_storable (by decide),
    stored_loaded.2.1 shiftCondition.node hliterals (by decide),
    stored_loaded.2.2 shiftCondition hliterals (by decide)⟩

end Verdict
