import Mathlib.Data.List.Basic
import Mathlib.Data.List.Induction
import Verdict.Condition
import Verdict.Proofs.Evaluation.Steps

/-!
# What an evaluation reads

The variables of an expression are those that its steps read, each named once in the order in which they are first read
(`variableNames_firsts`). So two environments that agree on them give the same result (`evaluate_congr`), and where one
of them is missing there is none (`evaluate_unbound`).
-/

namespace Verdict

variable {env env' : Environment}

namespace Step

/-- The name of the variable that a step reads. -/
def readName? : Step → Option String
  | .read name _ => some name
  | _ => none

theorem perform_congr {step : Step} (hfunctions : ∀ f, env.function? f = env'.function? f)
    (hvariable : ∀ name, step.readName? = some name → env.get? name = env'.get? name) (vs : List Value) :
    step.perform env vs = step.perform env' vs := by
  cases step with
  | read name path => simp only [perform, Environment.resolve, hvariable name rfl]
  | find f | call f count => simp only [perform, hfunctions f]
  | negate => cases vs <;> rfl
  | apply op => rcases vs with _ | ⟨b, _ | ⟨a, vs⟩⟩ <;> rfl
  | push v | gather count => rfl

theorem run_congr {steps : List Step} (h : ∀ step ∈ steps, ∀ vs, step.perform env vs = step.perform env' vs)
    (vs : List Value) : run env steps vs = run env' steps vs := by
  induction steps generalizing vs with
  | nil => rfl
  | cons step rest ih =>
    rw [List.forall_mem_cons] at h
    rw [run_cons, run_cons, h.1]
    exact bind_congr fun ws => ih h.2 ws

end Step

namespace Expr

/-- The names of the variables that are read, as often as they are, in the order in which they are. -/
def reads (e : Expr) : List String := e.steps.filterMap Step.readName?

/-! ## Reading and the nodes of the tree -/

theorem mem_stepsOfAll {step : Step} {es : List Expr} : step ∈ stepsOfAll es ↔ ∃ e ∈ es, step ∈ e.steps := by
  induction es with
  | nil => simp [stepsOfAll]
  | cons e es ih => simp [stepsOfAll, ih]

theorem mem_steps_read {name : String} {path : List String} {e : Expr} :
    .read name path ∈ e.steps ↔ (Expr.variable name path).IsSubtree e := by
  constructor
  · intro h
    induction e using Expr.induction with
    | literal v => simp [steps] at h
    | reference x p =>
      simp only [steps, List.mem_singleton, Step.read.injEq] at h
      obtain ⟨rfl, rfl⟩ := h
      exact ⟨[], [], .whole _⟩
    | negation e ih =>
      have he : .read name path ∈ e.steps := by simpa [steps] using h
      obtain ⟨before, after, hocc⟩ := ih he
      exact ⟨_, _, hocc.operand⟩
    | operation op l r ihl ihr =>
      have hlr : .read name path ∈ l.steps ∨ .read name path ∈ r.steps := by simpa [steps] using h
      rcases hlr with hl | hr
      · obtain ⟨before, after, hocc⟩ := ihl hl
        exact ⟨_, _, hocc.left⟩
      · obtain ⟨before, after, hocc⟩ := ihr hr
        exact ⟨_, _, hocc.right⟩
    | items es ih =>
      have hes : .read name path ∈ stepsOfAll es := by simpa [steps] using h
      obtain ⟨e, he, hread⟩ := mem_stepsOfAll.mp hes
      obtain ⟨before, after, hocc⟩ := ih e he hread
      obtain ⟨as, bs, rfl⟩ := List.append_of_mem he
      exact ⟨_, _, hocc.item⟩
    | application f es ih =>
      have hes : .read name path ∈ stepsOfAll es := by simpa [steps] using h
      obtain ⟨e, he, hread⟩ := mem_stepsOfAll.mp hes
      obtain ⟨before, after, hocc⟩ := ih e he hread
      obtain ⟨as, bs, rfl⟩ := List.append_of_mem he
      exact ⟨_, _, hocc.argument⟩
  · rintro ⟨before, after, hocc⟩
    rw [hocc.steps_eq]
    simp [steps]

theorem mem_reads {name : String} {e : Expr} :
    name ∈ e.reads ↔ ∃ path, (Expr.variable name path).IsSubtree e := by
  simp only [← mem_steps_read, reads, List.mem_filterMap]
  constructor
  · rintro ⟨step, hstep, hname⟩
    cases step with
    | read x path =>
      cases hname
      exact ⟨path, hstep⟩
    | _ => cases hname
  · rintro ⟨path, hstep⟩
    exact ⟨_, hstep, rfl⟩

/-! ## Each name once -/

theorem addVariablesOfAll_eq {es : List Expr} (h : ∀ e ∈ es, ∀ names, e.addVariables names = e.reads.foldl addName names)
    (names : List String) :
    addVariablesOfAll names es = ((stepsOfAll es).filterMap Step.readName?).foldl addName names := by
  induction es generalizing names with
  | nil => rfl
  | cons e es ih =>
    rw [List.forall_mem_cons] at h
    rw [addVariablesOfAll, ih h.2, h.1, stepsOfAll, List.filterMap_append, List.foldl_append]
    rfl

theorem addVariables_eq (e : Expr) (names : List String) : e.addVariables names = e.reads.foldl addName names := by
  induction e using Expr.induction generalizing names with
  | literal v | reference x path => rfl
  | negation e ih => simp [addVariables, ih, reads, steps, List.filterMap_cons, Step.readName?]
  | operation op l r ihl ihr => simp [addVariables, ihl, ihr, reads, steps, List.filterMap_cons, Step.readName?]
  | items es ih | application f es ih =>
    simp [addVariables, addVariablesOfAll_eq ih, reads, steps, List.filterMap_cons, Step.readName?]

/-- Those names once, in the order in which they first stand among all. -/
structure Firsts (names all : List String) : Prop where
  nodup : names.Nodup
  mem_iff (name : String) : name ∈ names ↔ name ∈ all
  ordered : names.Pairwise fun x y => all.idxOf x < all.idxOf y

theorem Firsts.add {names all : List String} (h : Firsts names all) (name : String) :
    Firsts (addName names name) (all ++ [name]) := by
  have hkept : names.Pairwise fun x y => (all ++ [name]).idxOf x < (all ++ [name]).idxOf y := by
    refine h.ordered.imp_of_mem fun {x y} hx hy hlt => ?_
    rwa [List.idxOf_append_of_mem ((h.mem_iff x).mp hx), List.idxOf_append_of_mem ((h.mem_iff y).mp hy)]
  unfold addName
  by_cases hname : name ∈ names
  · rw [if_pos (by simpa using hname)]
    refine ⟨h.nodup, fun x => ?_, hkept⟩
    rw [List.mem_append, List.mem_singleton, ← h.mem_iff x]
    constructor
    · exact .inl
    · rintro (hx | rfl)
      · exact hx
      · exact hname
  · rw [if_neg (by simpa using hname)]
    have hnew : name ∉ all := fun hmem => hname ((h.mem_iff name).mpr hmem)
    refine ⟨?_, fun x => ?_, ?_⟩
    · rw [List.nodup_append]
      refine ⟨h.nodup, by simp, ?_⟩
      rintro x hx y hy rfl
      rw [List.mem_singleton] at hy
      exact hname (hy ▸ hx)
    · simp [h.mem_iff x]
    · rw [List.pairwise_append]
      refine ⟨hkept, List.pairwise_singleton _ _, fun x hx y hy => ?_⟩
      rw [List.mem_singleton.mp hy, List.idxOf_append_of_mem ((h.mem_iff x).mp hx), List.idxOf_append_of_notMem hnew]
      exact Nat.lt_add_right _ (List.idxOf_lt_length_of_mem ((h.mem_iff x).mp hx))

theorem firsts_foldl (all : List String) : Firsts (all.foldl addName []) all := by
  induction all using List.reverseRecOn with
  | nil => exact ⟨List.nodup_nil, by simp, List.Pairwise.nil⟩
  | append_singleton all name ih =>
    rw [List.foldl_append, List.foldl_cons, List.foldl_nil]
    exact ih.add name

theorem variableNames_firsts (e : Expr) : Firsts e.variableNames e.reads := by
  rw [variableNames, addVariables_eq]
  exact firsts_foldl e.reads

theorem mem_variableNames {name : String} {e : Expr} :
    name ∈ e.variableNames ↔ ∃ path, (Expr.variable name path).IsSubtree e := by
  rw [e.variableNames_firsts.mem_iff, mem_reads]

/-! ## Two environments -/

theorem evaluate_congr {e : Expr} (hfunctions : ∀ f, env.function? f = env'.function? f)
    (hvariables : ∀ name ∈ e.variableNames, env.get? name = env'.get? name) : e.evaluate env = e.evaluate env' := by
  have hrun : Step.run env e.steps [] = Step.run env' e.steps [] := by
    refine Step.run_congr (fun step hstep vs => Step.perform_congr hfunctions (fun name hname => ?_) vs) []
    refine hvariables name ((e.variableNames_firsts.mem_iff name).mpr ?_)
    exact List.mem_filterMap.mpr ⟨step, hstep, hname⟩
  cases h : e.evaluate env with
  | ok v => exact ((evaluate_ok_iff e v).mpr (hrun.symm.trans ((evaluate_ok_iff e v).mp h))).symm
  | error err => exact ((evaluate_error_iff e err).mpr (hrun.symm.trans ((evaluate_error_iff e err).mp h))).symm

theorem evaluate_unbound {e : Expr} {name : String} (hname : name ∈ e.variableNames) (hmissing : env.get? name = none) :
    ∃ err, e.evaluate env = .error err := by
  obtain ⟨path, hsub⟩ := mem_variableNames.mp hname
  cases h : e.evaluate env with
  | error err => exact ⟨err, rfl⟩
  | ok v =>
    obtain ⟨w, hw⟩ := evaluate_subtree h hsub
    simp [evaluate, Environment.resolve, hmissing] at hw

/-- **The variables of an expression are what its evaluation reads.** They are the names of its variable nodes, each
once, in the order in which they first stand there. Environments with the same functions that agree on them give the same
result; and where one of them is missing there is no value, so that no condition on the expression passes. -/
theorem variableNames_are_read (e : Expr) :
    (e.variableNames.Nodup ∧ (∀ name, name ∈ e.variableNames ↔ ∃ path, (Expr.variable name path).IsSubtree e) ∧
      e.variableNames.Pairwise fun x y => e.reads.idxOf x < e.reads.idxOf y) ∧
    (∀ env env' : Environment, (∀ f, env.function? f = env'.function? f) →
      (∀ name ∈ e.variableNames, env.get? name = env'.get? name) → e.evaluate env = e.evaluate env') ∧
    ∀ env : Environment, ∀ name ∈ e.variableNames, env.get? name = none →
      (∃ err, e.evaluate env = .error err) ∧ ∀ c : Condition, c.node = e → c.isPass env = false := by
  refine ⟨⟨e.variableNames_firsts.nodup, fun name => mem_variableNames, e.variableNames_firsts.ordered⟩,
    fun env env' hf hv => evaluate_congr hf hv, ?_⟩
  intro env name hname hmissing
  obtain ⟨err, herr⟩ := evaluate_unbound hname hmissing
  refine ⟨⟨err, herr⟩, ?_⟩
  rintro c rfl
  rw [Condition.isPass, Condition.evaluate, herr]
  rfl

/-- `$b = $a && $b.x` -/
def twoVariables : Expr :=
  .binary .and (.binary .eq (.variable "b" []) (.variable "a" [])) (.variable "b" ["x"])

theorem variableNames_are_read_twoVariables :
    twoVariables.variableNames = ["b", "a"] ∧
      (∀ c d : Value, twoVariables.evaluate ((Environment.empty.set "b" c).set "z" d) =
        twoVariables.evaluate (Environment.empty.set "b" c)) ∧
      ∀ c : Value, (Condition.mk "" [] twoVariables).isPass (Environment.empty.set "b" c) = false := by
  have h := variableNames_are_read twoVariables
  refine ⟨rfl, fun c d => h.2.1 _ _ (fun _ => rfl) ?_, fun c => (h.2.2 _ "a" ?_ rfl).2 _ rfl⟩
  · show ∀ name ∈ ["b", "a"], _
    simp only [List.forall_mem_cons]
    exact ⟨rfl, rfl, fun _ h => absurd h List.not_mem_nil⟩
  · show "a" ∈ ["b", "a"]
    simp

end Expr

end Verdict
