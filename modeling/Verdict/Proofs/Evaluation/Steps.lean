import Verdict.Eval.Evaluate
import Verdict.Proofs.Expr.Literals
import Verdict.Proofs.Grammar.Passes

/-!
# The steps of an evaluation

What is done to evaluate an expression, in the order in which it is done: operands, items and arguments from left to
right, the operation of a node after all its children, and before the arguments of a call the lookup of its function.
The steps of a tree are done on a stack of values, one after the other up to the first that fails. That is what
evaluation comes to (`run_steps`), so no operand is skipped and the error is that of the first failing step
(`evaluate_first_failure`).
-/

namespace Verdict

inductive Step where
  /-- The value of a literal. -/
  | push (v : Value)
  /-- A variable, or a field that a path leads to. -/
  | read (name : String) (path : List String)
  | negate
  | apply (op : BinaryOp)
  /-- So many values become an array. -/
  | gather (count : Nat)
  /-- A function is looked up. -/
  | find (function : String)
  /-- A function is called with so many values. -/
  | call (function : String) (count : Nat)

namespace Step

/-- Does a step on the values that wait for their operation, the latest first. A step that finds fewer values than it
needs leaves them alone, which no step of a tree does. -/
def perform (env : Environment) (step : Step) (waiting : List Value) : Except EvalError (List Value) :=
  match step, waiting with
  | .push v, vs => .ok (v :: vs)
  | .read name path, vs => (env.resolve name path).map (· :: vs)
  | .negate, v :: vs => (Operation.negate v).map (· :: vs)
  | .apply op, b :: a :: vs => (op.apply a b).map (· :: vs)
  | .gather count, vs => .ok (.array (vs.take count).reverse :: vs.drop count)
  | .find function, vs =>
    match env.function? function with
    | none => .error (.functionNotFound function)
    | some _ => .ok vs
  | .call function count, vs =>
    match env.function? function with
    | none => .error (.functionNotFound function)
    | some f => (Expr.callFunction function f (vs.take count).reverse).map (· :: vs.drop count)
  | _, vs => .ok vs

/-- Does steps one after the other, up to the first that fails. -/
def run (env : Environment) (steps : List Step) (waiting : List Value) : Except EvalError (List Value) :=
  steps.foldlM (fun vs step => step.perform env vs) waiting

/-- A step goes through after those before it. -/
def Succeeds (env : Environment) (done : List Step) (step : Step) : Prop :=
  ∃ vs, run env done [] = .ok vs ∧ ∃ ws, step.perform env vs = .ok ws

/-- A step fails after those before it, all of which have gone through. -/
def FailsWith (env : Environment) (done : List Step) (step : Step) (e : EvalError) : Prop :=
  ∃ vs, run env done [] = .ok vs ∧ step.perform env vs = .error e

variable {env : Environment} {steps done rest : List Step} {step : Step} {vs ws : List Value} {e : EvalError}

theorem run_nil : run env [] vs = .ok vs := rfl

theorem run_cons : run env (step :: rest) vs = step.perform env vs >>= run env rest := List.foldlM_cons

theorem run_append : run env (done ++ rest) vs = run env done vs >>= run env rest := List.foldlM_append

theorem run_singleton : run env [step] vs = step.perform env vs := by
  rw [run_cons]
  cases step.perform env vs <;> rfl

theorem run_ok_of_append (h : run env (done ++ rest) vs = .ok ws) : ∃ us, run env done vs = .ok us := by
  rw [run_append, bind_eq_ok] at h
  obtain ⟨us, hus, -⟩ := h
  exact ⟨us, hus⟩

/-- A run fails as its first failing step does. -/
theorem run_error_iff : run env steps vs = .error e ↔
    ∃ done step rest, steps = done ++ step :: rest ∧ ∃ ws, run env done vs = .ok ws ∧ step.perform env ws = .error e := by
  induction steps generalizing vs with
  | nil => simp [run_nil]
  | cons step rest ih =>
    rw [run_cons]
    cases hstep : step.perform env vs with
    | error e' =>
      constructor
      · intro h
        exact ⟨[], step, rest, rfl, vs, rfl, hstep.trans h⟩
      · rintro ⟨done, step', rest', heq, ws, hdone, hfail⟩
        cases done with
        | nil =>
          cases heq
          cases hdone
          exact hstep.symm.trans hfail
        | cons s done =>
          cases heq
          simp [run_cons, hstep, bind, Except.bind] at hdone
    | ok us =>
      show run env rest us = .error e ↔ _
      rw [ih]
      constructor
      · rintro ⟨done, step', rest', rfl, ws, hdone, hfail⟩
        refine ⟨step :: done, step', rest', rfl, ws, ?_, hfail⟩
        rw [run_cons, hstep]
        exact hdone
      · rintro ⟨done, step', rest', heq, ws, hdone, hfail⟩
        cases done with
        | nil =>
          cases heq
          cases hdone
          rw [hstep] at hfail
          cases hfail
        | cons s done =>
          cases heq
          rw [run_cons, hstep] at hdone
          exact ⟨done, step', rest', rfl, ws, hdone, hfail⟩

theorem run_ok_iff : (∃ vs, run env steps [] = .ok vs) ↔
    ∀ done step rest, steps = done ++ step :: rest → step.Succeeds env done := by
  constructor
  · rintro ⟨vs, h⟩ done step rest rfl
    rw [List.append_cons] at h
    obtain ⟨us, hus⟩ := run_ok_of_append h
    obtain ⟨ws, hws⟩ := run_ok_of_append hus
    rw [run_append, hws] at hus
    exact ⟨ws, hws, us, run_singleton.symm.trans hus⟩
  · intro h
    cases hrun : run env steps [] with
    | ok vs => exact ⟨vs, rfl⟩
    | error e =>
      obtain ⟨done, step, rest, heq, ws, hdone, hfail⟩ := run_error_iff.mp hrun
      obtain ⟨us, hus, xs, hstep⟩ := h done step rest heq
      rw [hdone] at hus
      cases hus
      rw [hfail] at hstep
      cases hstep

end Step

namespace Expr

open Step

/-! ## The order of the steps -/

mutual

/-- The steps of an expression, in their order. -/
def steps : Expr → List Step
  | .literal v => [.push v]
  | .variable name path => [.read name path]
  | .not operand => operand.steps ++ [.negate]
  | .binary op left right => left.steps ++ right.steps ++ [.apply op]
  | .list items => stepsOfAll items ++ [.gather items.length]
  | .call function args => .find function :: stepsOfAll args ++ [.call function args.length]
termination_by structural e => e

def stepsOfAll : List Expr → List Step
  | [] => []
  | e :: es => e.steps ++ stepsOfAll es
termination_by structural es => es

end

variable {env : Environment}

theorem length_evaluateAll {es : List Expr} {vs : List Value} (h : evaluateAll env es = .ok vs) :
    vs.length = es.length := by
  induction es generalizing vs with
  | nil =>
    cases h
    rfl
  | cons e es ih =>
    obtain ⟨v, -, h⟩ := bind_eq_ok.mp h
    obtain ⟨ws, hws, h⟩ := bind_eq_ok.mp h
    cases h
    simp [ih hws]

theorem run_stepsOfAll {es : List Expr} (h : ∀ e ∈ es, ∀ vs, run env e.steps vs = (e.evaluate env).map (· :: vs))
    (vs : List Value) : run env (stepsOfAll es) vs = (evaluateAll env es).map (·.reverse ++ vs) := by
  induction es generalizing vs with
  | nil => rfl
  | cons e es ih =>
    rw [List.forall_mem_cons] at h
    rw [stepsOfAll, evaluateAll, run_append, h.1]
    cases e.evaluate env with
    | error e' => rfl
    | ok v =>
      show run env (stepsOfAll es) (v :: vs) = _
      rw [ih h.2]
      cases evaluateAll env es with
      | error e' => rfl
      | ok ws => simp [Except.map, bind, Except.bind, pure, Except.pure]

/-- **The steps of an expression** leave its value on the stack, or fail as it does. -/
theorem run_steps (e : Expr) (vs : List Value) : run env e.steps vs = (e.evaluate env).map (· :: vs) := by
  induction e using Expr.induction generalizing vs with
  | literal v => rfl
  | reference name path => exact run_singleton
  | negation e ih =>
    rw [steps, evaluate, run_append, ih]
    cases e.evaluate env with
    | error e' => rfl
    | ok v => exact run_singleton
  | operation op l r ihl ihr =>
    rw [steps, evaluate, run_append, run_append, ihl]
    cases l.evaluate env with
    | error e' => rfl
    | ok a =>
      show run env r.steps (a :: vs) >>= _ = _
      rw [ihr]
      cases r.evaluate env with
      | error e' => rfl
      | ok b => exact run_singleton
  | items es ih =>
    rw [steps, evaluate, run_append, run_stepsOfAll ih]
    cases hes : evaluateAll env es with
    | error e' => rfl
    | ok ws =>
      show run env [.gather es.length] (ws.reverse ++ vs) = .ok (.array ws :: vs)
      rw [run_singleton, ← length_evaluateAll hes]
      simp [perform]
  | application f es ih =>
    rw [steps, evaluate, List.cons_append, run_cons, perform]
    cases hf : env.function? f with
    | none => rfl
    | some g =>
      show run env (stepsOfAll es ++ [.call f es.length]) vs = _
      rw [run_append, run_stepsOfAll ih]
      cases hes : evaluateAll env es with
      | error e' => rfl
      | ok ws =>
        show run env [.call f es.length] (ws.reverse ++ vs) = (callFunction f g ws).map (· :: vs)
        rw [run_singleton, ← length_evaluateAll hes]
        simp [perform, hf]

/-! ## Subtrees and their steps -/

/-- A subtree stands at a place of the tree: so many steps are done before its own, and so many after them. -/
inductive Occurs : Expr → List Step → Expr → List Step → Prop
  | whole (e : Expr) : Occurs e [] e []
  | operand {e s before after} : Occurs e before s after → Occurs (.not e) before s (after ++ [.negate])
  | left {op l r s before after} : Occurs l before s after →
      Occurs (.binary op l r) before s (after ++ (r.steps ++ [.apply op]))
  | right {op l r s before after} : Occurs r before s after →
      Occurs (.binary op l r) (l.steps ++ before) s (after ++ [.apply op])
  | item {es e fs s before after} : Occurs e before s after →
      Occurs (.list (es ++ e :: fs)) (stepsOfAll es ++ before) s
        (after ++ (stepsOfAll fs ++ [.gather (es ++ e :: fs).length]))
  | argument {f es e fs s before after} : Occurs e before s after →
      Occurs (.call f (es ++ e :: fs)) (.find f :: (stepsOfAll es ++ before)) s
        (after ++ (stepsOfAll fs ++ [.call f (es ++ e :: fs).length]))

def IsSubtree (s e : Expr) : Prop := ∃ before after, Occurs e before s after

theorem stepsOfAll_append (es fs : List Expr) : stepsOfAll (es ++ fs) = stepsOfAll es ++ stepsOfAll fs := by
  induction es with
  | nil => rfl
  | cons e es ih => simp [stepsOfAll, ih]

theorem Occurs.steps_eq {e s : Expr} {before after : List Step} (h : Occurs e before s after) :
    e.steps = before ++ (s.steps ++ after) := by
  induction h with
  | whole e => simp
  | operand _ ih | left _ ih | right _ ih => simp [steps, ih]
  | item _ ih | argument _ ih => simp [steps, stepsOfAll, stepsOfAll_append, ih]

theorem evaluate_binary {a b : Expr} {v w : Value} (op : BinaryOp) (ha : a.evaluate env = .ok v)
    (hb : b.evaluate env = .ok w) : (Expr.binary op a b).evaluate env = op.apply v w := by
  rw [evaluate, ha, hb]
  rfl

theorem evaluate_ok_of_run {s : Expr} {before : List Step} {vs : List Value}
    (h : run env (before ++ s.steps) [] = .ok vs) : ∃ v, s.evaluate env = .ok v := by
  rw [run_append, bind_eq_ok] at h
  obtain ⟨us, -, hs⟩ := h
  rw [run_steps, map_eq_ok] at hs
  obtain ⟨v, hv, -⟩ := hs
  exact ⟨v, hv⟩

theorem evaluate_ok_iff (e : Expr) (v : Value) : e.evaluate env = .ok v ↔ run env e.steps [] = .ok [v] := by
  rw [run_steps]
  cases e.evaluate env <;> simp [Except.map]

theorem evaluate_error_iff (e : Expr) (err : EvalError) :
    e.evaluate env = .error err ↔ run env e.steps [] = .error err := by
  rw [run_steps]
  cases e.evaluate env <;> simp [Except.map]

theorem evaluate_subtree {e s : Expr} {v : Value} (h : e.evaluate env = .ok v) (hs : s.IsSubtree e) :
    ∃ w, s.evaluate env = .ok w := by
  obtain ⟨before, after, hocc⟩ := hs
  rw [evaluate_ok_iff, hocc.steps_eq, ← List.append_assoc] at h
  obtain ⟨us, hus⟩ := run_ok_of_append h
  exact evaluate_ok_of_run hus

/-- **The first failure is the result.** An expression has a value if and only if each of its steps goes through after
those before it, and then each of its subtrees has one. Otherwise the error is that of a step before which all have gone
through, and each subtree whose steps are all before that one has a value. -/
theorem evaluate_first_failure (env : Environment) (e : Expr) :
    ((∃ v, e.evaluate env = .ok v) ↔ ∀ done step rest, e.steps = done ++ step :: rest → step.Succeeds env done) ∧
    (∀ v, e.evaluate env = .ok v → ∀ s : Expr, s.IsSubtree e → ∃ w, s.evaluate env = .ok w) ∧
    ∀ err, e.evaluate env = .error err ↔ ∃ done step rest, e.steps = done ++ step :: rest ∧ step.FailsWith env done err ∧
      ∀ before s after, Occurs e before s after → before ++ s.steps <+: done → ∃ w, s.evaluate env = .ok w := by
  refine ⟨?_, fun v h s hs => evaluate_subtree h hs, fun err => ?_⟩
  · rw [← run_ok_iff]
    constructor
    · rintro ⟨v, h⟩
      exact ⟨[v], (evaluate_ok_iff e v).mp h⟩
    · rintro ⟨vs, h⟩
      exact evaluate_ok_of_run (show run env ([] ++ e.steps) [] = .ok vs from h)
  · rw [evaluate_error_iff, run_error_iff]
    constructor
    · rintro ⟨done, step, rest, heq, ws, hdone, hfail⟩
      refine ⟨done, step, rest, heq, ⟨ws, hdone, hfail⟩, ?_⟩
      rintro before s after - ⟨others, rfl⟩
      obtain ⟨us, hus⟩ := run_ok_of_append hdone
      exact evaluate_ok_of_run hus
    · rintro ⟨done, step, rest, heq, hfail, -⟩
      exact ⟨done, step, rest, heq, hfail⟩

/-- `true || f([1 / 0])` -/
def brokenCall : Expr :=
  .binary .or (.literal (.bool true))
    (.call "f" [.list [.binary .div (.literal (.int ⟨.int64, 1, by decide, by decide⟩))
      (.literal (.int ⟨.int64, 0, by decide, by decide⟩))]])

theorem evaluate_first_failure_brokenCall :
    brokenCall.evaluate {} = .error (.functionNotFound "f") ∧
      ∃ done step rest, brokenCall.steps = done ++ step :: rest ∧ step.FailsWith {} done (.functionNotFound "f") ∧
        ∀ before s after, Occurs brokenCall before s after → before ++ s.steps <+: done → ∃ w, s.evaluate {} = .ok w :=
  ⟨rfl, ((evaluate_first_failure {} brokenCall).2.2 _).mp rfl⟩

/-- The function is looked up before its argument fails, and after the left operand. -/
example : brokenCall.steps.take 2 = [.push (.bool true), .find "f"] := rfl

end Expr

end Verdict
