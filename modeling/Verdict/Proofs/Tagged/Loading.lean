import Verdict.Proofs.Tagged.Expressions
import Verdict.Proofs.Value.Structure

/-!
# What is loaded

The ways in which a value, an expression or a condition comes out of a JSON tree, be it an object or a list and whatever
it has beside (`Value.ofStored?_cases`, `Expr.ofReadable?_cases`, `Condition.ofTagged?_cases`). What is loaded is no
deeper than the tree it was loaded from: an expression is no taller than the tree may nest, and what it is stored as
nests one level more at most, for a call without arguments.
-/

namespace Verdict

namespace Json

variable {key : String} {members : List (String × Json)} {j : Json}

theorem mem_of_member (h : member key members = .present j) : (key, j) ∈ members := by
  have hmem : j ∈ valuesOf key members := by
    unfold member at h
    split at h <;> cases h
    next hvalues => exact hvalues ▸ List.mem_singleton_self _
  obtain ⟨⟨k, i⟩, hi, heq⟩ := List.mem_filterMap.mp hmem
  dsimp only at heq
  split at heq
  · next hk =>
    cases heq
    exact hk ▸ hi
  · cases heq

/-- A tree that stands in an object or a list. -/
inductive Within (j : Json) : Json → Prop
  | member {key : String} {members : List (String × Json)} : (key, j) ∈ members → Within j (.object members)
  | item {items : List Json} : j ∈ items → Within j (.array items)

theorem Within.nesting_lt {i j : Json} (h : Within i j) : i.nesting < j.nesting := by
  cases h with
  | member h =>
    rw [nesting]
    exact Nat.lt_succ_of_le (nestingOfMembers_le_iff.mp (le_refl _) _ h)
  | item h =>
    rw [nesting]
    exact Nat.lt_succ_of_le (nestingOfItems_le_iff.mp (le_refl _) _ h)

theorem nesting_object_pos (members : List (String × Json)) : 0 < (Json.object members).nesting := by
  rw [nesting]
  exact Nat.succ_pos _

theorem nesting_array_pos (items : List Json) : 0 < (Json.array items).nesting := by
  rw [nesting]
  exact Nat.succ_pos _

end Json

open Json

section mapM

variable {α β : Type} {f : α → Option β} {as : List α} {bs : List β}

theorem forall₂_of_mapM (h : as.mapM f = some bs) : List.Forall₂ (fun a b => f a = some b) as bs := by
  induction as generalizing bs with
  | nil =>
    cases h
    exact .nil
  | cons a as ih =>
    rw [List.mapM_cons] at h
    obtain ⟨b, hb, h⟩ := Option.bind_eq_some_iff.mp h
    obtain ⟨bs', hbs, h⟩ := Option.bind_eq_some_iff.mp h
    cases h
    exact .cons hb (ih hbs)

theorem mem_of_mapM (h : as.mapM f = some bs) : ∀ b ∈ bs, ∃ a ∈ as, f a = some b :=
  fun _ hb => Value.exists_of_forall₂ (forall₂_of_mapM h).flip hb

theorem exists_of_mapM (h : as.mapM f = some bs) : ∀ a ∈ as, ∃ b ∈ bs, f a = some b :=
  fun _ ha => Value.exists_of_forall₂ (forall₂_of_mapM h) ha

end mapM

namespace Value

variable {read : Json → Option Value} {members : List (String × Json)} {type : ValueType} {content j : Json} {v : Value}
  {depth : Nat} {medium : Medium}

/-! ## Values -/

theorem number?_eq_some {w : Number} (h : number? j = some w) : ∃ n, j = .number n ∧ n.value? = some w := by
  cases j with
  | number n => exact ⟨n, rfl, h⟩
  | _ => cases h

theorem scalarOf?_cases (h : scalarOf? type content = some v) : v.IsScalar ∧
    (∀ x, v = .float64 x → ∃ n w, content = .number n ∧ n.value? = some w ∧ x = w.toFloat) ∧
    ∀ x, v = .float32 x → ∃ n w, content = .number n ∧ n.value? = some w ∧ x = w.toFloat32 := by
  unfold scalarOf? at h
  split at h
  · cases h
    exact ⟨trivial, nofun, nofun⟩
  · cases h
    exact ⟨trivial, nofun, nofun⟩
  · cases h
    exact ⟨trivial, nofun, nofun⟩
  · split at h
    · obtain ⟨n, -, rfl⟩ := Option.map_eq_some_iff.mp h
      exact ⟨trivial, nofun, nofun⟩
    · cases h
  · obtain ⟨w, hw, rfl⟩ := Option.map_eq_some_iff.mp h
    obtain ⟨n, rfl, hn⟩ := number?_eq_some hw
    refine ⟨by cases w <;> trivial, by cases w <;> exact nofun, fun x hx => ⟨n, w, rfl, hn, ?_⟩⟩
    cases w <;> cases hx <;> rfl
  · obtain ⟨w, hw, rfl⟩ := Option.map_eq_some_iff.mp h
    obtain ⟨n, rfl, hn⟩ := number?_eq_some hw
    refine ⟨by cases w <;> trivial, fun x hx => ⟨n, w, rfl, hn, ?_⟩, by cases w <;> exact nofun⟩
    cases w <;> cases hx <;> rfl
  · cases h

/-- A value that a tree says, given how the values in it are read. -/
inductive Stored (read : Json → Option Value) (j : Json) : Value → Prop
  | null : 0 < j.nesting → Stored read j .null
  | scalar {t c x} : Within c j → scalarOf? t c = some x → Stored read j x
  | array {js vs} : Within (.array js) j → js.mapM read = some vs → Stored read j (.array vs)
  | set {js vs} : Within (.array js) j → js.mapM read = some vs → Stored read j (ofItems vs)
  | map {ms fields} : Within (.object ms) j → fieldsOf? read ms = some fields → Stored read j (.map fields)
  | struct {ms fields} : Within (.object ms) j → fieldsOf? read ms = some fields → Stored read j (.struct fields)

theorem stored_of_contentOf? (hin : Within content j) (h : contentOf? read type content = some v) :
    Stored read j v := by
  unfold contentOf? at h
  split at h
  · obtain ⟨vs, hvs, rfl⟩ := Option.map_eq_some_iff.mp h
    exact .array hin hvs
  · obtain ⟨vs, hvs, rfl⟩ := Option.map_eq_some_iff.mp h
    exact .set hin hvs
  · obtain ⟨fields, hfields, rfl⟩ := Option.map_eq_some_iff.mp h
    exact .map hin hfields
  · obtain ⟨fields, hfields, rfl⟩ := Option.map_eq_some_iff.mp h
    exact .struct hin hfields
  · exact .scalar hin h

theorem parts?_cases {parts : Parts} (h : parts? medium depth j = some parts) :
    0 < j.nesting ∧ ∀ p, parts.content = some p → Within p.2 j := by
  unfold parts? at h
  split at h
  · refine ⟨nesting_object_pos _, fun p hp => ?_⟩
    split at h
    · obtain ⟨t, -, h⟩ := Option.bind_eq_some_iff.mp h
      split at h
      · cases h
        cases hp
      · cases h
      · next hmember =>
        split at h
        · cases h
        · cases h
          cases hp
          exact .member (mem_of_member hmember)
    · cases h
  · refine ⟨nesting_array_pos _, fun p hp => ?_⟩
    obtain ⟨t, -, h⟩ := Option.bind_eq_some_iff.mp h
    cases h
    cases hp
    exact .item (by simp)
  · cases h

/-- **Where a loaded value comes from**: what nests less deeply in the tree. -/
theorem ofStored?_cases (h : ofStored? depth medium j = some v) :
    ∃ d m, d < depth ∧ Stored (ofStored? d m) j v := by
  cases depth with
  | zero => cases h
  | succ depth =>
    rw [ofStored?] at h
    split at h
    · next hparts =>
      cases h
      exact ⟨depth, .text, Nat.lt_succ_self _, .null (parts?_cases hparts).1⟩
    · next type m content hparts =>
      have hin := (parts?_cases hparts).2 _ rfl
      split at h
      · exact ⟨0, .text, Nat.succ_pos _, .scalar hin h⟩
      · next depth => exact ⟨depth, m, by omega, stored_of_contentOf? hin h⟩
    · cases h

theorem fieldsOf?_cases {fields : Fields Value} (h : fieldsOf? read members = some fields) :
    ∀ f ∈ fields.toList, ∃ m ∈ members, read m.2 = some f.2 := by
  obtain ⟨pairs, hpairs, rfl⟩ := Option.map_eq_some_iff.mp h
  intro f hf
  obtain ⟨m, hm, hread⟩ := mem_of_mapM hpairs f (Fields.mem_of_mem_ofList hf)
  obtain ⟨v, hv, rfl⟩ := Option.map_eq_some_iff.mp hread
  exact ⟨m, hm, hv⟩

/-! ### How deeply they nest -/

theorem nesting_floatJson (n : Option Numeral) : (floatJson n).nesting = 0 := by
  cases n <;> rfl

theorem nesting_scalar (h : v.IsScalar) : v.toTagged.nesting = 1 := by
  cases v with
  | array _ | set _ | map _ | struct _ => exact h.elim
  | null => rfl
  | bool b => rfl
  | int n => rfl
  | string s => rfl
  | float32 x => rw [toTagged, nesting_typed, nesting_floatJson]
  | float64 x => rw [toTagged, nesting_typed, nesting_floatJson]

theorem nesting_itemsToTagged_le {vs : List Value} {n : Nat} :
    nestingOfItems (itemsToTagged vs) ≤ n ↔ ∀ v ∈ vs, v.toTagged.nesting ≤ n := by
  rw [itemsToTagged_eq, nestingOfItems_le_iff, List.forall_mem_map]

theorem nesting_fieldsToTagged_le {fields : Fields Value} {n : Nat} :
    nestingOfMembers (fieldsToTagged fields) ≤ n ↔ ∀ f ∈ fields.toList, f.2.toTagged.nesting ≤ n := by
  rw [fieldsToTagged_eq, nestingOfMembers_le_iff, List.forall_mem_map]

theorem nesting_of_ofStored? (h : ofStored? depth medium j = some v) : v.toTagged.nesting ≤ j.nesting := by
  -- What holds others is read two levels further down, so the hypothesis is needed for all smaller depths.
  induction depth using Nat.strong_induction_on generalizing medium j v with
  | _ depth ih =>
    obtain ⟨d, m, hd, hstored⟩ := ofStored?_cases h
    have hitems {js : List Json} {vs : List Value} (hin : Within (.array js) j)
        (hvs : js.mapM (ofStored? d m) = some vs) : ∀ v ∈ vs, v.toTagged.nesting ≤ j.nesting - 2 := by
      intro v hv
      obtain ⟨i, hi, hread⟩ := mem_of_mapM hvs v hv
      have hle := ih d hd hread
      have hlt := (Within.item hi).nesting_lt
      have hlt' := hin.nesting_lt
      omega
    have hfields {ms : List (String × Json)} {fields : Fields Value} (hin : Within (.object ms) j)
        (hread : fieldsOf? (ofStored? d m) ms = some fields) :
        ∀ f ∈ fields.toList, f.2.toTagged.nesting ≤ j.nesting - 2 := by
      intro f hf
      obtain ⟨m, hm, hread⟩ := fieldsOf?_cases hread f hf
      have hle := ih d hd hread
      have hlt := (Within.member hm).nesting_lt
      have hlt' := hin.nesting_lt
      omega
    have htwo {content : Json} (hin : Within content j) (hpos : 0 < content.nesting) : 2 ≤ j.nesting := by
      have hlt := hin.nesting_lt
      omega
    cases hstored with
    | null hpos => exact hpos
    | scalar hin hv =>
      rw [nesting_scalar (scalarOf?_cases hv).1]
      exact Nat.lt_of_le_of_lt (Nat.zero_le _) hin.nesting_lt
    | array hin hvs =>
      have hle := nesting_itemsToTagged_le.mpr (hitems hin hvs)
      have h2 := htwo hin (nesting_array_pos _)
      rw [toTagged, nesting_typed, nesting]
      omega
    | @set js vs hin hvs =>
      have hle := nesting_itemsToTagged_le.mpr fun v hv => hitems hin hvs v (distinct_subset vs hv)
      have h2 := htwo hin (nesting_array_pos _)
      rw [ofItems, toTagged, nesting_typed, nesting]
      omega
    | map hin hread | struct hin hread =>
      have hle := nesting_fieldsToTagged_le.mpr (hfields hin hread)
      have h2 := htwo hin (nesting_object_pos _)
      rw [toTagged, nesting_typed, nesting]
      omega

end Value

namespace Expr

variable {read : Json → Option Expr} {members : List (String × Json)} {kind : String} {j : Json} {e : Expr} {depth : Nat}
  {medium : Value.Medium}

/-! ## Expressions -/

theorem part?_cases {α : Type} {key : String} {read : Json → Option α} {a : α} (h : part? key members read = some a) :
    ∃ j, (key, j) ∈ members ∧ read j = some a := by
  unfold part? at h
  split at h
  · next j hj => exact ⟨j, mem_of_member hj, h⟩
  · cases h

theorem listPart?_cases {α : Type} {key : String} {read : Json → Option (List α)} {as : List α}
    (h : listPart? key members read = some as) : as = [] ∨ ∃ j, (key, j) ∈ members ∧ read j = some as := by
  unfold listPart? at h
  split at h
  · cases h
    exact .inl rfl
  · next j hj => exact .inr ⟨j, mem_of_member hj, h⟩
  · cases h

theorem all?_cases {es : List Expr} (h : all? read j = some es) : ∃ js, j = .array js ∧ js.mapM read = some es := by
  cases j with
  | array js => exact ⟨js, rfl, h⟩
  | _ => cases h

/-- An expression that the parts of a node say, given how the expressions in it are read. -/
inductive Stored (depth : Nat) (read : Json → Option Expr) (members : List (String × Json)) : Expr → Prop
  | literal {i v} : ("value", i) ∈ members → Value.ofStored? depth .kept i = some v → Stored depth read members (.literal v)
  | reference {name path} : Stored depth read members (.variable name path)
  | negation {i o} : ("operand", i) ∈ members → read i = some o → Stored depth read members (.not o)
  | operation {op i k l r} : ("left", i) ∈ members → read i = some l → ("right", k) ∈ members → read k = some r →
      Stored depth read members (.binary op l r)
  | items {js es} : ("items", .array js) ∈ members → js.mapM read = some es → Stored depth read members (.list es)
  | application {f es} : (es = [] ∨ ∃ js, ("args", .array js) ∈ members ∧ js.mapM read = some es) →
      Stored depth read members (.call f es)

theorem nodeOf?_cases (h : nodeOf? depth read kind members = some e) : Stored depth read members e := by
  unfold nodeOf? at h
  split at h
  · obtain ⟨v, hv, h⟩ := Option.bind_eq_some_iff.mp h
    cases h
    obtain ⟨j, hj, hv⟩ := part?_cases hv
    exact .literal hj hv
  · obtain ⟨name, -, h⟩ := Option.bind_eq_some_iff.mp h
    obtain ⟨path, -, h⟩ := Option.bind_eq_some_iff.mp h
    cases h
    exact .reference
  · obtain ⟨operator, -, h⟩ := Option.bind_eq_some_iff.mp h
    obtain ⟨o, ho, h⟩ := Option.bind_eq_some_iff.mp h
    split at h
    · cases h
      obtain ⟨j, hj, ho⟩ := part?_cases ho
      exact .negation hj ho
    · cases h
  · obtain ⟨symbol, -, h⟩ := Option.bind_eq_some_iff.mp h
    obtain ⟨op, -, h⟩ := Option.bind_eq_some_iff.mp h
    obtain ⟨l, hl, h⟩ := Option.bind_eq_some_iff.mp h
    obtain ⟨r, hr, h⟩ := Option.bind_eq_some_iff.mp h
    cases h
    obtain ⟨j, hj, hl⟩ := part?_cases hl
    obtain ⟨k, hk, hr⟩ := part?_cases hr
    exact .operation hj hl hk hr
  · obtain ⟨es, hes, h⟩ := Option.bind_eq_some_iff.mp h
    cases h
    obtain ⟨j, hj, hes⟩ := part?_cases hes
    obtain ⟨js, rfl, hes⟩ := all?_cases hes
    exact .items hj hes
  · obtain ⟨f, -, h⟩ := Option.bind_eq_some_iff.mp h
    obtain ⟨es, hes, h⟩ := Option.bind_eq_some_iff.mp h
    cases h
    refine .application ((listPart?_cases hes).imp_right fun ⟨j, hj, hread⟩ => ?_)
    obtain ⟨js, rfl, hread⟩ := all?_cases hread
    exact ⟨js, hj, hread⟩
  · cases h

theorem parts?_cases (h : parts? medium j = some (kind, members)) :
    0 < j.nesting ∧ ∀ key i, (key, i) ∈ members → Within i j := by
  unfold parts? at h
  split at h
  · obtain ⟨k, -, h⟩ := Option.map_eq_some_iff.mp h
    cases h
    exact ⟨nesting_object_pos _, fun _ _ hi => .member hi⟩
  · obtain ⟨k, -, h⟩ := Option.bind_eq_some_iff.mp h
    split at h
    · cases h
      exact ⟨nesting_array_pos _, fun _ _ hi => .item (List.mem_cons_of_mem _ (List.of_mem_zip hi).2)⟩
    · cases h
  · cases h

/-- **Where a loaded expression comes from**: what nests less deeply in the tree. -/
theorem ofReadable?_cases (h : ofReadable? depth medium j = some e) :
    ∃ d members, depth = d + 1 ∧ 0 < j.nesting ∧ (∀ key i, (key, i) ∈ members → Within i j) ∧
      Stored d (ofReadable? d .kept) members e := by
  cases depth with
  | zero => cases h
  | succ d =>
    obtain ⟨⟨kind, members⟩, hparts, hnode⟩ := Option.bind_eq_some_iff.mp h
    obtain ⟨hpos, hin⟩ := parts?_cases hparts
    exact ⟨d, members, rfl, hpos, hin, nodeOf?_cases hnode⟩

theorem ofReadable?_of_ofTagged? (h : ofTagged? depth j = some e) : ofReadable? depth .text j = some e := by
  unfold ofTagged? at h
  split at h
  · exact h
  · cases h

theorem heightOfAll_le {es : List Expr} {n : Nat} : heightOfAll es ≤ n ↔ ∀ e ∈ es, e.height ≤ n := by
  induction es with
  | nil => simp [heightOfAll]
  | cons e es ih => rw [heightOfAll, Nat.max_le, ih, List.forall_mem_cons]

theorem height_of_ofReadable? (h : ofReadable? depth medium j = some e) : e.height ≤ depth := by
  induction depth generalizing medium j e with
  | zero => cases h
  | succ depth ih =>
    obtain ⟨d, members, hd, -, -, hstored⟩ := ofReadable?_cases h
    cases hd
    have hall {js : List Json} {es : List Expr} (hes : js.mapM (ofReadable? depth .kept) = some es) :
        heightOfAll es ≤ depth := by
      refine heightOfAll_le.mpr fun e he => ?_
      obtain ⟨i, -, hread⟩ := mem_of_mapM hes e he
      exact ih hread
    cases hstored with
    | literal | reference =>
      rw [height]
      omega
    | negation _ ho =>
      have := ih ho
      rw [height]
      omega
    | operation _ hl _ hr =>
      have := ih hl
      have := ih hr
      rw [height]
      omega
    | items _ hes =>
      have := hall hes
      rw [height]
      omega
    | application hargs =>
      rw [height]
      rcases hargs with rfl | ⟨js, -, hes⟩
      · rw [heightOfAll]
        omega
      · have := hall hes
        omega

theorem literals_of_ofReadable? (h : ofReadable? depth medium j = some e) :
    ∀ v ∈ e.literals, ∃ d i, Value.ofStored? d .kept i = some v := by
  induction depth generalizing medium j e with
  | zero => cases h
  | succ depth ih =>
    obtain ⟨d, members, hd, -, -, hstored⟩ := ofReadable?_cases h
    cases hd
    have hall {js : List Json} {es : List Expr} (hes : js.mapM (ofReadable? depth .kept) = some es) :
        ∀ v ∈ literalsOfAll es, ∃ d i, Value.ofStored? d .kept i = some v := by
      intro v hv
      obtain ⟨e, he, hv⟩ := mem_literalsOfAll.mp hv
      obtain ⟨i, -, hread⟩ := mem_of_mapM hes e he
      exact ih hread v hv
    cases hstored with
    | literal _ hv => exact List.forall_mem_singleton.mpr ⟨_, _, hv⟩
    | reference => exact fun v hv => absurd hv List.not_mem_nil
    | negation _ ho => exact fun v hv => ih ho v hv
    | operation _ hl _ hr => exact List.forall_mem_append.mpr ⟨ih hl, ih hr⟩
    | items _ hes => exact hall hes
    | application hargs =>
      rcases hargs with rfl | ⟨js, -, hes⟩
      · exact fun v hv => absurd hv List.not_mem_nil
      · exact hall hes

theorem nesting_allToTagged_le {es : List Expr} {n : Nat} (h : ∀ e ∈ es, e.toTagged.nesting ≤ n) :
    (Json.array (allToTagged es)).nesting ≤ n + 1 := by
  rw [nesting, Nat.add_le_add_iff_right, allToTagged_eq, nestingOfItems_le_iff, List.forall_mem_map]
  exact h

/-- A loaded expression is stored no deeper than the tree that it was loaded from, but for the arguments that a call
has no list for there. -/
theorem nesting_of_ofReadable? (h : ofReadable? depth medium j = some e) : e.toTagged.nesting ≤ j.nesting + 1 := by
  induction depth generalizing medium j e with
  | zero => cases h
  | succ depth ih =>
    obtain ⟨d, members, hd, hpos, hin, hstored⟩ := ofReadable?_cases h
    cases hd
    have hone {key : String} {i : Json} {e : Expr} (hmem : (key, i) ∈ members)
        (he : ofReadable? depth .kept i = some e) : e.toTagged.nesting ≤ j.nesting := by
      have hle := ih he
      have hlt := (hin key i hmem).nesting_lt
      omega
    have hall {key : String} {js : List Json} {es : List Expr} (hmem : (key, .array js) ∈ members)
        (hes : js.mapM (ofReadable? depth .kept) = some es) : (Json.array (allToTagged es)).nesting ≤ j.nesting := by
      have hlt := (hin key _ hmem).nesting_lt
      refine (nesting_allToTagged_le fun e he => ?_).trans hlt
      obtain ⟨i, hi, hread⟩ := mem_of_mapM hes e he
      have hle := ih hread
      have hlt' := (Within.item hi).nesting_lt
      omega
    cases hstored with
    | @literal i v hmem hv =>
      have hle := (Value.nesting_of_ofStored? hv).trans (hin _ _ hmem).nesting_lt.le
      exact nesting_node_le.mpr ⟨_, rfl, by simpa using hle⟩
    | @reference name path =>
      cases path with
      | nil => exact nesting_node_le.mpr ⟨_, rfl, by simp [nesting]⟩
      | cons f fs =>
        have hpath : (strings (f :: fs)).nesting ≤ j.nesting := by
          rw [nesting_strings]
          exact hpos
        exact nesting_node_le.mpr ⟨_, rfl, by simpa [nesting] using hpath⟩
    | negation hmem ho => exact nesting_node_le.mpr ⟨_, rfl, by simpa [nesting] using hone hmem ho⟩
    | operation hmem hl hmem' hr =>
      exact nesting_node_le.mpr ⟨_, rfl, by simpa [nesting] using ⟨hone hmem hl, hone hmem' hr⟩⟩
    | items hmem hes => exact nesting_node_le.mpr ⟨_, rfl, by simpa using hall hmem hes⟩
    | @application f es hargs =>
      have hle : (Json.array (allToTagged es)).nesting ≤ j.nesting := by
        rcases hargs with rfl | ⟨js, hmem, hes⟩
        · exact hpos
        · exact hall hmem hes
      have hname : (Json.string f).nesting = 0 := by rw [nesting]
      exact nesting_node_le.mpr ⟨_, rfl, by simpa [hname] using hle⟩

end Expr

/-! ## Conditions -/

/-- **Where a loaded condition comes from**: its node is an expression that nests less deeply. -/
theorem Condition.ofTagged?_cases {depth : Nat} {j : Json} {c : Condition} (h : ofTagged? depth j = some c) :
    ∃ d i, depth = d + 1 ∧ Expr.ofTagged? d i = some c.node := by
  unfold ofTagged? at h
  split at h
  · obtain ⟨source, -, h⟩ := Option.bind_eq_some_iff.mp h
    obtain ⟨attributes, -, h⟩ := Option.bind_eq_some_iff.mp h
    obtain ⟨node, hnode, h⟩ := Option.bind_eq_some_iff.mp h
    cases h
    obtain ⟨i, -, hi⟩ := Expr.part?_cases hnode
    exact ⟨_, i, rfl, hi⟩
  · obtain ⟨source, -, h⟩ := Option.bind_eq_some_iff.mp h
    obtain ⟨attributes, -, h⟩ := Option.bind_eq_some_iff.mp h
    obtain ⟨node, hnode, h⟩ := Option.bind_eq_some_iff.mp h
    cases h
    exact ⟨_, _, rfl, hnode⟩
  · cases h

end Verdict
