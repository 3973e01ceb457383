import Verdict.Proofs.Evaluation.Steps
import Verdict.Proofs.Value.Equality

/-!
# Membership in a list that is written out

`e in [a, b, c]` asks what `e = a || e = b || e = c` asks. The disjunction evaluates `e` again for each item and a list
evaluates it once, and membership compares an item with `e` where the disjunction compares `e` with an item; but equality
is symmetric, and both come to the items in the same order, so they give one boolean or fail with one error
(`membership_as_disjunction`).
-/

namespace Verdict.Expr

/-- `e = a || e = b || …`, grouped to the left, as it goes on after what stands in front. -/
def orEquals (e : Expr) (front : Expr) (items : List Expr) : Expr :=
  items.foldl (fun chain item => .binary .or chain (.binary .eq e item)) front

/-- `e = a || e = b || …` for an item and others after it. -/
def equalsOneOf (e first : Expr) (others : List Expr) : Expr := orEquals e (.binary .eq e first) others

variable {env : Environment} {e l r : Expr} {v w : Value} {err : EvalError} {es : List Expr}

/-! ## Nodes with a part that fails -/

theorem evaluate_left_error (op : BinaryOp) (h : l.evaluate env = .error err) :
    (Expr.binary op l r).evaluate env = .error err := by
  rw [evaluate, h]
  rfl

theorem evaluate_right_error (op : BinaryOp) (hl : l.evaluate env = .ok v) (h : r.evaluate env = .error err) :
    (Expr.binary op l r).evaluate env = .error err := by
  rw [evaluate, hl, h]
  rfl

theorem evaluateAll_eq_ok_iff {vs : List Value} :
    evaluateAll env es = .ok vs ↔ List.Forall₂ (fun e v => e.evaluate env = .ok v) es vs := by
  induction es generalizing vs with
  | nil =>
    rw [List.forall₂_nil_left_iff]
    exact ⟨fun h => (Except.ok.inj h).symm, fun h => h ▸ rfl⟩
  | cons e es ih =>
    rw [evaluateAll, List.forall₂_cons_left_iff, bind_eq_ok]
    constructor
    · rintro ⟨v, hv, h⟩
      obtain ⟨ws, hws, h⟩ := bind_eq_ok.mp h
      cases h
      exact ⟨v, ws, hv, ih.mp hws, rfl⟩
    · rintro ⟨v, ws, hv, hws, rfl⟩
      exact ⟨v, hv, bind_eq_ok.mpr ⟨ws, ih.mpr hws, rfl⟩⟩

theorem evaluateAll_first_error (h : evaluateAll env es = .error err) :
    ∃ (done : List Expr) (e : Expr) (rest : List Expr), es = done ++ e :: rest ∧
      (∀ d ∈ done, ∃ v, d.evaluate env = .ok v) ∧ e.evaluate env = .error err := by
  induction es with
  | nil => cases h
  | cons e es ih =>
    rw [evaluateAll] at h
    cases hv : e.evaluate env with
    | error err' =>
      rw [hv] at h
      cases h
      exact ⟨[], e, es, rfl, by simp, hv⟩
    | ok v =>
      rw [hv] at h
      cases hes : evaluateAll env es with
      | ok vs =>
        rw [hes] at h
        cases h
      | error err' =>
        rw [hes] at h
        cases h
        obtain ⟨done, x, rest, rfl, hdone, hx⟩ := ih hes
        exact ⟨e :: done, x, rest, rfl, List.forall_mem_cons.mpr ⟨⟨v, hv⟩, hdone⟩, hx⟩

/-! ## The disjunction -/

theorem evaluate_equation (he : e.evaluate env = .ok v) (item : Expr) :
    (Expr.binary .eq e item).evaluate env = (item.evaluate env).map fun w => .bool (v.equal w) := by
  cases hitem : item.evaluate env with
  | error err => exact evaluate_right_error .eq he hitem
  | ok w => exact evaluate_binary .eq he hitem

theorem any_equal_iff (he : e.evaluate env = .ok v) {ws : List Value}
    (hws : List.Forall₂ (fun x w => x.evaluate env = .ok w) es ws) :
    ws.any (v.equal ·) = true ↔ ∃ item ∈ es, (Expr.binary .eq e item).evaluate env = .ok (.bool true) := by
  rw [List.any_eq_true]
  constructor
  · rintro ⟨w, hw, hequal⟩
    obtain ⟨item, hitem, hval⟩ := Value.exists_of_forall₂ hws.flip hw
    refine ⟨item, hitem, ?_⟩
    rw [evaluate_equation he, hval]
    exact congrArg (fun b => Except.ok (Value.bool b)) hequal
  · rintro ⟨item, hitem, hequal⟩
    obtain ⟨w, hw, hval⟩ := Value.exists_of_forall₂ hws hitem
    rw [evaluate_equation he, hval] at hequal
    exact ⟨w, hw, Value.bool.inj (Except.ok.inj hequal)⟩

theorem orEquals_error (h : l.evaluate env = .error err) (items : List Expr) :
    (orEquals e l items).evaluate env = .error err := by
  induction items generalizing l with
  | nil => exact h
  | cons item items ih => exact ih (evaluate_left_error .or h)

/-- After a part that is true or false, the disjunction asks for an item that is equal. -/
theorem evaluate_orEquals (he : e.evaluate env = .ok v) {b : Bool} (hl : l.evaluate env = .ok (.bool b))
    (items : List Expr) :
    (orEquals e l items).evaluate env = (evaluateAll env items).map fun ws => .bool (b || ws.any (v.equal ·)) := by
  induction items generalizing l b with
  | nil =>
    rw [orEquals, List.foldl_nil, hl, evaluateAll]
    simp [Except.map]
  | cons item items ih =>
    have hequation := evaluate_equation he item
    show (orEquals e (.binary .or l (.binary .eq e item)) items).evaluate env = _
    rw [evaluateAll]
    cases hitem : item.evaluate env with
    | error err =>
      rw [hitem] at hequation
      exact orEquals_error (evaluate_right_error .or hl hequation) items
    | ok w =>
      rw [hitem] at hequation
      have hor : (Expr.binary .or l (.binary .eq e item)).evaluate env = .ok (.bool (b || v.equal w)) :=
        evaluate_binary .or hl hequation
      rw [ih hor]
      show _ = (evaluateAll env items >>= fun ws => Except.ok (w :: ws)).map _
      cases evaluateAll env items with
      | error err => rfl
      | ok ws => simp [Except.map, bind, Except.bind, Bool.or_assoc]

theorem evaluate_equalsOneOf (he : e.evaluate env = .ok v) (first : Expr) (others : List Expr) :
    (equalsOneOf e first others).evaluate env =
      (evaluateAll env (first :: others)).map fun ws => .bool (ws.any (v.equal ·)) := by
  have hequation := evaluate_equation he first
  rw [equalsOneOf, evaluateAll]
  cases hfirst : first.evaluate env with
  | error err =>
    rw [hfirst] at hequation
    exact orEquals_error hequation others
  | ok w =>
    rw [hfirst] at hequation
    rw [evaluate_orEquals he hequation others]
    show _ = (evaluateAll env others >>= fun ws => Except.ok (w :: ws)).map _
    cases evaluateAll env others with
    | error err => rfl
    | ok ws => rfl

/-! ## Membership -/

theorem any_equal_comm (v : Value) (ws : List Value) : (ws.any fun w => w.equal v) = ws.any (v.equal ·) := by
  simp only [Value.equal_comm]

theorem evaluate_list (es : List Expr) : (Expr.list es).evaluate env = (evaluateAll env es).map .array := by
  rw [evaluate]
  cases evaluateAll env es <;> rfl

theorem evaluate_within (he : e.evaluate env = .ok v) (es : List Expr) :
    (Expr.binary .within e (.list es)).evaluate env = (evaluateAll env es).map fun ws => .bool (ws.any (v.equal ·)) := by
  have hlist : (Expr.list es).evaluate env = _ := evaluate_list es
  cases hes : evaluateAll env es with
  | error err =>
    rw [hes] at hlist
    exact evaluate_right_error .within he hlist
  | ok ws =>
    rw [hes] at hlist
    rw [evaluate_binary .within he hlist]
    exact congrArg (fun b => Except.ok (Value.bool b)) (any_equal_comm v ws)

theorem evaluate_within_error (h : evaluateAll env (e :: es) = .error err) :
    (Expr.binary .within e (.list es)).evaluate env = .error err := by
  rw [evaluateAll] at h
  cases he : e.evaluate env with
  | error err' =>
    rw [he] at h
    cases h
    exact evaluate_left_error .within he
  | ok v =>
    rw [he] at h
    rw [evaluate_within he]
    cases hes : evaluateAll env es with
    | error err' =>
      rw [hes] at h
      cases h
      rfl
    | ok ws =>
      rw [hes] at h
      cases h

theorem evaluate_contains (he : e.evaluate env = .ok v) {ws : List Value} (hes : evaluateAll env es = .ok ws) :
    (Expr.binary .contains (.list es) e).evaluate env = .ok (.bool (ws.any (v.equal ·))) := by
  have hlist : (Expr.list es).evaluate env = _ := evaluate_list es
  rw [hes] at hlist
  rw [evaluate_binary .contains hlist he]
  exact congrArg (fun b => Except.ok (Value.bool b)) (any_equal_comm v ws)

/-- **Membership in a list that is written out** is a disjunction of equalities. The two have one value or one error. If
the needle and all items have values, the list also contains the needle if the disjunction says so, which is if an item
is equal to it. Otherwise the error is that of the first of the needle and the items that has no value. -/
theorem membership_as_disjunction (env : Environment) (e first : Expr) (others : List Expr) :
    let items := first :: others
    let within := Expr.binary .within e (.list items)
    let contains := Expr.binary .contains (.list items) e
    let disjunction := equalsOneOf e first others
    within.evaluate env = disjunction.evaluate env ∧
    ((∀ x ∈ e :: items, ∃ v, x.evaluate env = .ok v) → ∃ b : Bool, within.evaluate env = .ok (.bool b) ∧
      contains.evaluate env = .ok (.bool b) ∧ disjunction.evaluate env = .ok (.bool b) ∧
      (b = true ↔ ∃ item ∈ items, (Expr.binary .eq e item).evaluate env = .ok (.bool true))) ∧
    ((∃ x ∈ e :: items, ∃ err, x.evaluate env = .error err) →
      ∃ (done : List Expr) (x : Expr) (rest : List Expr) (err : EvalError), e :: items = done ++ x :: rest ∧
      (∀ d ∈ done, ∃ v, d.evaluate env = .ok v) ∧ x.evaluate env = .error err ∧
      within.evaluate env = .error err ∧ disjunction.evaluate env = .error err) := by
  intro items within contains disjunction
  have hsame : within.evaluate env = disjunction.evaluate env := by
    cases he : e.evaluate env with
    | error err =>
      have hfront : (Expr.binary .eq e first).evaluate env = .error err := evaluate_left_error .eq he
      exact (evaluate_left_error .within he).trans (orEquals_error hfront others).symm
    | ok v => exact (evaluate_within he items).trans (evaluate_equalsOneOf he first others).symm
  refine ⟨hsame, fun h => ?_, fun ⟨x, hx, err, hfail⟩ => ?_⟩
  · cases hall : evaluateAll env (e :: items) with
    | error err =>
      obtain ⟨done, x, rest, hes, -, hx⟩ := evaluateAll_first_error hall
      obtain ⟨v, hv⟩ := h x (by simp [hes])
      rw [hx] at hv
      cases hv
    | ok vs =>
      obtain ⟨v, ws, he, hws, rfl⟩ := List.forall₂_cons_left_iff.mp (evaluateAll_eq_ok_iff.mp hall)
      have hitems : evaluateAll env items = .ok ws := evaluateAll_eq_ok_iff.mpr hws
      have hwithin : within.evaluate env = .ok (.bool (ws.any (v.equal ·))) := by
        rw [evaluate_within he, hitems]
        rfl
      exact ⟨_, hwithin, evaluate_contains he hitems, hsame ▸ hwithin, any_equal_iff he hws⟩
  · cases hall : evaluateAll env (e :: items) with
    | error err' =>
      obtain ⟨done, y, rest, hes, hdone, hy⟩ := evaluateAll_first_error hall
      have hwithin : within.evaluate env = .error err' := evaluate_within_error hall
      exact ⟨done, y, rest, err', hes, hdone, hy, hwithin, hsame ▸ hwithin⟩
    | ok vs =>
      obtain ⟨v, -, hv⟩ := Value.exists_of_forall₂ (evaluateAll_eq_ok_iff.mp hall) hx
      rw [hfail] at hv
      cases hv

/-- `1 in ["x", 1.0]` and `1 in ["x", missing, 1.0]` -/
theorem membership_as_disjunction_mixed :
    let one : Expr := .literal (.int ⟨.int64, 1, by decide, by decide⟩)
    let text : Expr := .literal (.string "x")
    let float : Expr := .literal (.float64 (Binary.ofInt 1))
    let missing : Expr := .variable "missing" []
    (∀ x ∈ [one, text, float], ∃ v, x.evaluate {} = .ok v) ∧
    (∃ b : Bool, (Expr.binary .within one (.list [text, float])).evaluate {} = .ok (.bool b) ∧
      (Expr.binary .contains (.list [text, float]) one).evaluate {} = .ok (.bool b) ∧
      (equalsOneOf one text [float]).evaluate {} = .ok (.bool b) ∧
      (b = true ↔ ∃ item ∈ [text, float], (Expr.binary .eq one item).evaluate {} = .ok (.bool true))) ∧
    missing.evaluate {} = .error (.variableNotFound "missing") ∧
    ∃ (done : List Expr) (x : Expr) (rest : List Expr) (err : EvalError), [one, text, missing, float] = done ++ x :: rest ∧
      (∀ d ∈ done, ∃ v, d.evaluate {} = .ok v) ∧ x.evaluate {} = .error err ∧
      (Expr.binary .within one (.list [text, missing, float])).evaluate {} = .error err ∧
      (equalsOneOf one text [missing, float]).evaluate {} = .error err := by
  intro one text float missing
  have hvalues : ∀ x ∈ [one, text, float], ∃ v, x.evaluate {} = .ok v := by
    simp only [List.forall_mem_cons]
    exact ⟨⟨_, rfl⟩, ⟨_, rfl⟩, ⟨_, rfl⟩, by simp⟩
  have hmissing : missing.evaluate {} = .error (.variableNotFound "missing") := rfl
  exact ⟨hvalues, (membership_as_disjunction {} one text [float]).2.1 hvalues, hmissing,
    (membership_as_disjunction {} one text [missing, float]).2.2 ⟨missing, by simp, _, hmissing⟩⟩

end Verdict.Expr
