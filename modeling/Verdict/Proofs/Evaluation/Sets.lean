import Verdict.Proofs.Evaluation.Variables
import Verdict.Proofs.Operation.Typing
import Verdict.Proofs.Tagged.Stability

/-!
# Sets without equal items

A set that is loaded holds no two equal items, at whatever depth it stands (`Loaded.deduplicated`). No step of an
evaluation makes a set: operators give values that hold no others, a list gives an array, and a path leads to what stands
in a variable. So the sets of a result are those of literals, of variables and of what functions give, and if none of
these holds two equal items, none of the result does (`sets_deduplicated`).
-/

namespace Verdict

open Json

namespace Value

variable {v w : Value} {vs : List Value}

/-- No set in the value, at any depth, has equal items at two places. -/
def Deduplicated (v : Value) : Prop :=
  ∀ items, Occurs (.set items) v →
    ∀ i j (hi : i < items.length) (hj : j < items.length), i ≠ j → equal items[i] items[j] = false

theorem Deduplicated.of_occurs (h : v.Deduplicated) (hw : Occurs w v) : w.Deduplicated :=
  fun items hitems => h items (hitems.trans hw)

theorem deduplicated_of_isScalar (h : v.IsScalar) : v.Deduplicated := by
  intro items hitems
  cases hitems.eq_of_isScalar h
  exact h.elim

theorem deduplicated_array (h : ∀ v ∈ vs, v.Deduplicated) : (Value.array vs).Deduplicated := by
  intro items hitems
  cases hitems with
  | array hx hin => exact h _ hx items hin

/-- Equality is symmetric, so it does not matter which of two places comes first. -/
theorem Distinct.not_equal (h : Distinct vs) {i j : Nat} (hi : i < vs.length) (hj : j < vs.length) (hne : i ≠ j) :
    equal vs[i] vs[j] = false := by
  rw [Distinct, List.pairwise_iff_getElem] at h
  rcases Nat.lt_or_gt_of_ne hne with hlt | hlt
  · exact h i j hi hj hlt
  · rw [equal_comm]
    exact h j i hj hi hlt

theorem deduplicated_set (hd : Distinct vs) (h : ∀ v ∈ vs, v.Deduplicated) : (Value.set vs).Deduplicated := by
  intro items hitems i j hi hj hne
  cases hitems with
  | self => exact hd.not_equal hi hj hne
  | set hx hin => exact h _ hx items hin i j hi hj hne

/-- **What is loaded has no set with equal items.** -/
theorem Loaded.deduplicated (h : v.Loaded) : v.Deduplicated := by
  intro items hitems i j hi hj hne
  cases h.of_occurs hitems with
  | scalar hv => exact hv.elim
  | set hdistinct => exact hdistinct.not_equal hi hj hne

end Value

/-! ## What a node gives -/

namespace Operation

variable {op : BinaryOp} {a b v : Value} {k : IntKind} {m n : Int} {x y : Float} {r : Option Integer}

theorem isScalar_fitting (h : fitting op r = .ok v) : v.IsScalar := by
  cases r with
  | none => cases h
  | some n =>
    cases h
    trivial

theorem isScalar_onIntegers (h : onIntegers op k m n = .ok v) : v.IsScalar := by
  cases op with
  | add | sub | mul | pow | shl | shr => exact isScalar_fitting h
  | div | mod =>
    rw [onIntegers] at h
    split at h
    · cases h
    · exact isScalar_fitting h
  | bitAnd | bitOr | bitXor =>
    cases h
    trivial
  | _ => cases h

theorem isScalar_onFloats (h : onFloats op x y = .ok v) : v.IsScalar := by
  cases op with
  | add | sub | mul | pow =>
    cases h
    trivial
  | div | mod =>
    rw [onFloats] at h
    split at h
    · cases h
    · cases h
      trivial
  | _ => cases h

theorem isScalar_numeric (h : numeric op a b = .ok v) : v.IsScalar := by
  unfold numeric at h
  split at h
  · exact isScalar_onIntegers h
  · split at h
    · exact isScalar_onFloats h
    · cases h

theorem isScalar_sum (h : sum a b = .ok v) : v.IsScalar := by
  unfold sum at h
  split at h
  · cases h
    trivial
  · exact isScalar_numeric h

theorem isScalar_bitwise (h : bitwise op a b = .ok v) : v.IsScalar := by
  unfold bitwise at h
  split at h
  · exact isScalar_onIntegers h
  · cases h

theorem isScalar_comparison {accept : Ordering → Bool} (h : comparison op accept a b = .ok v) : v.IsScalar := by
  unfold comparison at h
  split at h
  · cases h
    trivial
  · cases h

theorem isScalar_logical {combine : Bool → Bool → Bool} (h : logical op combine a b = .ok v) : v.IsScalar := by
  obtain ⟨x, -, h⟩ := bind_eq_ok.mp h
  obtain ⟨y, -, h⟩ := bind_eq_ok.mp h
  cases h
  trivial

theorem isScalar_negate (h : negate a = .ok v) : v.IsScalar := by
  obtain ⟨x, -, h⟩ := bind_eq_ok.mp h
  cases h
  trivial

theorem isScalar_membership (h : membership a b = .ok v) : v.IsScalar := by
  unfold membership at h
  split at h <;> cases h <;> trivial

theorem isScalar_containment (h : containment a b = .ok v) : v.IsScalar := by
  unfold containment at h
  split at h <;> cases h <;> trivial

theorem isScalar_stringTest {test : List Char → List Char → Bool} (h : stringTest op test a b = .ok v) : v.IsScalar := by
  unfold stringTest at h
  split at h <;> cases h
  trivial

theorem isScalar_patternTest (h : patternTest a b = .ok v) : v.IsScalar := by
  unfold patternTest at h
  split at h
  · split at h <;> cases h
    trivial
  · cases h

/-- **An operator gives a value that holds no others.** -/
theorem isScalar_apply (h : op.apply a b = .ok v) : v.IsScalar := by
  cases op with
  | eq | ne =>
    cases h
    trivial
  | lt | le | gt | ge => exact isScalar_comparison h
  | and | or | xor => exact isScalar_logical h
  | add => exact isScalar_sum h
  | sub | mul | div | mod | pow => exact isScalar_numeric h
  | bitAnd | bitOr | bitXor | shl | shr => exact isScalar_bitwise h
  | within => exact isScalar_membership h
  | contains => exact isScalar_containment h
  | startsWith | endsWith =>
    rw [BinaryOp.apply] at h
    exact isScalar_stringTest h
  | matching => exact isScalar_patternTest h

end Operation

namespace Environment

variable {env : Environment} {name : String} {v w : Value}

theorem occurs_of_follow {reached path : List String} (h : follow name reached v path = .ok w) : Value.Occurs w v := by
  induction path generalizing reached v with
  | nil =>
    cases h
    exact .self
  | cons field rest ih =>
    rw [follow] at h
    split at h
    · cases h
    · next fields hfields =>
      split at h
      · cases h
      · next x hx =>
        have hin := ih h
        have hmem := Fields.mem_of_get? hx
        cases v with
        | map _ =>
          cases hfields
          exact .map hmem hin
        | struct _ =>
          cases hfields
          exact .struct hmem hin
        | _ => cases hfields

theorem occurs_of_resolve {path : List String} (h : env.resolve name path = .ok w) :
    ∃ v, env.get? name = some v ∧ Value.Occurs w v := by
  unfold resolve at h
  split at h
  · cases h
  · next v hv => exact ⟨v, hv, occurs_of_follow h⟩

end Environment

/-! ## Subtrees -/

namespace Expr

variable {env : Environment} {e s t : Expr} {es : List Expr} {v : Value} {vs : List Value}

theorem Occurs.literals_subset {before after : List Step} (h : Occurs e before s after) : s.literals ⊆ e.literals := by
  induction h with
  | whole e => exact List.Subset.refl _
  | operand _ ih => exact ih
  | left _ ih => exact List.subset_append_of_subset_left _ ih
  | right _ ih => exact List.subset_append_of_subset_right _ ih
  | item _ ih | argument _ ih => exact fun v hv => mem_literalsOfAll.mpr ⟨_, by simp, ih hv⟩

theorem IsSubtree.trans (h : t.IsSubtree s) (h' : s.IsSubtree e) : t.IsSubtree e := by
  obtain ⟨before, after, h'⟩ := h'
  induction h' with
  | whole e => exact h
  | operand _ ih => exact let ⟨_, _, hocc⟩ := ih h; ⟨_, _, hocc.operand⟩
  | left _ ih => exact let ⟨_, _, hocc⟩ := ih h; ⟨_, _, hocc.left⟩
  | right _ ih => exact let ⟨_, _, hocc⟩ := ih h; ⟨_, _, hocc.right⟩
  | item _ ih => exact let ⟨_, _, hocc⟩ := ih h; ⟨_, _, hocc.item⟩
  | argument _ ih => exact let ⟨_, _, hocc⟩ := ih h; ⟨_, _, hocc.argument⟩

theorem isSubtree_item (h : s ∈ es) : s.IsSubtree (.list es) := by
  obtain ⟨before, after, rfl⟩ := List.append_of_mem h
  exact ⟨_, _, (Occurs.whole s).item⟩

theorem isSubtree_argument {f : String} (h : s ∈ es) : s.IsSubtree (.call f es) := by
  obtain ⟨before, after, rfl⟩ := List.append_of_mem h
  exact ⟨_, _, (Occurs.whole s).argument⟩

theorem mem_evaluateAll (h : evaluateAll env es = .ok vs) : ∀ v ∈ vs, ∃ e ∈ es, e.evaluate env = .ok v := by
  induction es generalizing vs with
  | nil =>
    cases h
    exact fun v hv => absurd hv List.not_mem_nil
  | cons e es ih =>
    obtain ⟨v, hv, h⟩ := bind_eq_ok.mp h
    obtain ⟨ws, hws, h⟩ := bind_eq_ok.mp h
    cases h
    refine List.forall_mem_cons.mpr ⟨⟨e, List.mem_cons_self, hv⟩, fun w hw => ?_⟩
    obtain ⟨s, hs, hw⟩ := ih hws w hw
    exact ⟨s, List.mem_cons_of_mem _ hs, hw⟩

/-! ## Evaluation -/

/-- No set that comes into an evaluation has equal items: none in a literal or a variable, and none in what a function
gives where it is called with arguments that have no such set. -/
structure Supplied (env : Environment) (e : Expr) : Prop where
  literal : ∀ v ∈ e.literals, v.Deduplicated
  binding : ∀ name ∈ e.variableNames, ∀ v, env.get? name = some v → v.Deduplicated
  result : ∀ name args, (Expr.call name args).IsSubtree e → ∀ f vs v, env.function? name = some f →
    evaluateAll env args = .ok vs → (∀ a ∈ vs, a.Deduplicated) → f vs = .ok v → v.Deduplicated

/-- **No subtree gives a set with equal items** if none comes in. -/
theorem Supplied.deduplicated (h : Supplied env e) (hs : s.IsSubtree e) (hv : s.evaluate env = .ok v) :
    v.Deduplicated := by
  have hall {es : List Expr} {vs : List Value} (hsub : ∀ t ∈ es, t.IsSubtree e) (hvs : evaluateAll env es = .ok vs)
      (ih : ∀ t ∈ es, ∀ {v}, t.IsSubtree e → t.evaluate env = .ok v → v.Deduplicated) : ∀ v ∈ vs, v.Deduplicated := by
    intro v hv
    obtain ⟨t, ht, hv⟩ := mem_evaluateAll hvs v hv
    exact ih t ht (hsub t ht) hv
  induction s using Expr.induction generalizing v with
  | literal u =>
    cases hv
    obtain ⟨before, after, hocc⟩ := hs
    exact h.literal _ (hocc.literals_subset List.mem_cons_self)
  | reference name path =>
    obtain ⟨u, hu, hocc⟩ := Environment.occurs_of_resolve hv
    exact (h.binding name (mem_variableNames.mpr ⟨path, hs⟩) u hu).of_occurs hocc
  | negation o ih =>
    obtain ⟨u, -, hv⟩ := bind_eq_ok.mp hv
    exact Value.deduplicated_of_isScalar (Operation.isScalar_negate hv)
  | operation op l r ihl ihr =>
    obtain ⟨a, -, hv⟩ := bind_eq_ok.mp hv
    obtain ⟨b, -, hv⟩ := bind_eq_ok.mp hv
    exact Value.deduplicated_of_isScalar (Operation.isScalar_apply hv)
  | items es ih =>
    obtain ⟨vs, hvs, hv⟩ := bind_eq_ok.mp hv
    cases hv
    exact Value.deduplicated_array (hall (fun t ht => (isSubtree_item ht).trans hs) hvs ih)
  | application f es ih =>
    rw [evaluate] at hv
    split at hv
    · cases hv
    · next g hg =>
      obtain ⟨vs, hvs, hv⟩ := bind_eq_ok.mp hv
      rw [callFunction] at hv
      split at hv
      · next w hw =>
        cases hv
        have hargs := hall (fun t ht => (isSubtree_argument ht).trans hs) hvs ih
        exact h.result f es hs g vs _ hg hvs hargs hw
      · cases hv

end Expr

/-- **Sets hold no two equal items**, at any depth, in whatever is loaded from JSON: values, and the literals of
expressions and conditions. And if that is so of the literals, the variables and the results of the functions of an
evaluation, it is so of its result. -/
theorem sets_deduplicated :
    (∀ text v, (Json.parse? text).bind (Value.ofTagged? maxNesting) = some v → v.Deduplicated) ∧
    (∀ text e, Expr.ofJsonText? text = some e → ∀ v ∈ e.literals, v.Deduplicated) ∧
    (∀ text c, Condition.ofJsonText? text = some c → ∀ v ∈ c.node.literals, v.Deduplicated) ∧
    ∀ env e v, Expr.Supplied env e → e.evaluate env = .ok v → v.Deduplicated := by
  refine ⟨fun text v h => ?_, fun text e h => ?_, fun text c h => ?_, fun env e v h hv => ?_⟩
  · obtain ⟨j, -, hj⟩ := Option.bind_eq_some_iff.mp h
    exact (Value.loaded_of_ofStored? hj).deduplicated
  · obtain ⟨j, -, hj⟩ := Option.bind_eq_some_iff.mp h
    exact fun v hv => (Expr.loaded_literals hj v hv).deduplicated
  · obtain ⟨j, -, hj⟩ := Option.bind_eq_some_iff.mp h
    obtain ⟨d, i, -, hi⟩ := Condition.ofTagged?_cases hj
    exact fun v hv => (Expr.loaded_literals hi v hv).deduplicated
  · exact h.deduplicated ⟨[], [], .whole e⟩ hv

/-- A set with one item twice, once as an object and once as a list. -/
def repeatedText : String := "[\"set\",[\x7b\"type\":\"null\"\x7d,[\"null\",null]]]"

/-- That set as an expression. -/
def repeatedLiteral : String := "[\"literal\"," ++ repeatedText ++ "]"

/-- A set without repetition. -/
def yesOrNothing : Value := .set [.bool true, .null]

/-- A function that gives its arguments back, and a variable. -/
def echoEnvironment : Environment :=
  (Environment.empty.set "x" (.array [yesOrNothing])).register "f" fun vs => .ok (.array vs)

/-- `f` of a set and of a variable that holds one. -/
def echoCall : Expr := .call "f" [.literal yesOrNothing, .variable "x" []]

theorem yesOrNothing_deduplicated : yesOrNothing.Deduplicated := by
  refine Value.deduplicated_set (by decide) fun v hv => Value.deduplicated_of_isScalar ?_
  fin_cases hv <;> trivial

theorem echoCall_supplied : Expr.Supplied echoEnvironment echoCall where
  literal := List.forall_mem_singleton.mpr yesOrNothing_deduplicated
  binding := by
    refine List.forall_mem_singleton.mpr fun v hv => ?_
    cases hv
    exact Value.deduplicated_array (List.forall_mem_singleton.mpr yesOrNothing_deduplicated)
  result := by
    intro name args _ f vs v hf _ hargs hv
    have hname : name = "f" := by
      by_contra hne
      simp [echoEnvironment, Environment.register, Environment.function?, Environment.set, Environment.empty,
        Fields.get?_insert, Fields.get?, hne] at hf
    subst hname
    cases hf
    cases hv
    exact Value.deduplicated_array hargs

theorem sets_deduplicated_echo :
    (∃ v, (Json.parse? repeatedText).bind (Value.ofTagged? maxNesting) = some v ∧ v.Deduplicated) ∧
    (∃ e, Expr.ofJsonText? repeatedLiteral = some e ∧ ∀ v ∈ e.literals, v.Deduplicated) ∧
    (∃ c, Condition.ofJsonText? ("[\"\",[]," ++ repeatedLiteral ++ "]") = some c ∧
      ∀ v ∈ c.node.literals, v.Deduplicated) ∧
    ∃ v, echoCall.evaluate echoEnvironment = .ok v ∧ v.Deduplicated := by
  obtain ⟨hvalue, hexpr, hcondition, hevaluate⟩ := sets_deduplicated
  have hv : ((Json.parse? repeatedText).bind (Value.ofTagged? maxNesting)).isSome = true := by decide +kernel
  have he : (Expr.ofJsonText? repeatedLiteral).isSome = true := by decide +kernel
  have hc : (Condition.ofJsonText? ("[\"\",[]," ++ repeatedLiteral ++ "]")).isSome = true := by decide +kernel
  obtain ⟨v, hv⟩ := Option.isSome_iff_exists.mp hv
  obtain ⟨e, he⟩ := Option.isSome_iff_exists.mp he
  obtain ⟨c, hc⟩ := Option.isSome_iff_exists.mp hc
  have hrun : echoCall.evaluate echoEnvironment = .ok (.array [yesOrNothing, .array [yesOrNothing]]) := rfl
  exact ⟨⟨v, hv, hvalue _ v hv⟩, ⟨e, he, hexpr _ e he⟩, ⟨c, hc, hcondition _ c hc⟩,
    ⟨_, hrun, hevaluate _ _ _ echoCall_supplied hrun⟩⟩

end Verdict
