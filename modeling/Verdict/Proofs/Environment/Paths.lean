import Mathlib.Data.List.Basic
import Verdict.Environment

/-!
# Paths through fields

A path is followed field by field through maps and structs, as far as it leads. Where it stops before its end, the error
names the front of it that says what is wrong: up to the field that is missing, or up to the value that has no fields
(`resolve_or_first_stop`).
-/

namespace Verdict

namespace Value

/-- A path leads from one value to another, field by field. -/
inductive Leads : Value → List String → Value → Prop
  | here (v : Value) : Leads v [] v
  | step {v next w : Value} {field : String} {path : List String} (h : v.get? field = some next)
      (hnext : Leads next path w) : Leads v (field :: path) w

/-- A map or a struct. -/
def HasFields (v : Value) : Prop := v.type = .map ∨ v.type = .struct

/-- So many fields of a path can be followed, fewer than it has, and they lead to `w`. -/
structure Stops (v : Value) (path : List String) (count : Nat) (w : Value) : Prop where
  lt_length : count < path.length
  leads : v.Leads (path.take count) w
  followed : ∀ j ≤ path.length, (∃ u, v.Leads (path.take j) u) ↔ j ≤ count

variable {v w next : Value} {field : String} {path more : List String} {count : Nat}

theorem leads_nil_iff : v.Leads [] w ↔ w = v :=
  ⟨fun | .here _ => rfl, fun h => h ▸ .here v⟩

theorem leads_cons_iff : v.Leads (field :: path) w ↔ ∃ next, v.get? field = some next ∧ next.Leads path w :=
  ⟨fun | .step h hnext => ⟨_, h, hnext⟩, fun ⟨_, h, hnext⟩ => .step h hnext⟩

theorem leads_append_iff : v.Leads (path ++ more) w ↔ ∃ u, v.Leads path u ∧ u.Leads more w := by
  induction path generalizing v with
  | nil => simp [leads_nil_iff]
  | cons field path ih =>
    simp only [List.cons_append, leads_cons_iff, ih]
    constructor
    · rintro ⟨next, hnext, u, hu, hw⟩
      exact ⟨u, ⟨next, hnext, hu⟩, hw⟩
    · rintro ⟨u, ⟨next, hnext, hu⟩, hw⟩
      exact ⟨next, hnext, u, hu, hw⟩

theorem hasFields_iff : v.HasFields ↔ ∃ fields, v.fields? = some fields := by
  cases v <;> simp [HasFields, type, fields?]

/-! ## Where a path stops -/

theorem Stops.first (h : v.get? field = none) (path : List String) : v.Stops (field :: path) 0 v where
  lt_length := Nat.zero_lt_succ _
  leads := .here v
  followed := by
    rintro (_ | j) -
    · exact iff_of_true ⟨v, .here v⟩ (Nat.le_refl 0)
    · refine iff_of_false ?_ (Nat.not_succ_le_zero j)
      rintro ⟨u, hu⟩
      obtain ⟨next, hnext, -⟩ := leads_cons_iff.mp hu
      rw [h] at hnext
      cases hnext

theorem Stops.cons (h : v.get? field = some next) (hstops : next.Stops path count w) :
    v.Stops (field :: path) (count + 1) w where
  lt_length := Nat.succ_lt_succ hstops.lt_length
  leads := .step h hstops.leads
  followed := by
    rintro (_ | j) hj
    · exact iff_of_true ⟨v, .here v⟩ (Nat.zero_le _)
    · have hnext : (∃ u, v.Leads ((field :: path).take (j + 1)) u) ↔ ∃ u, next.Leads (path.take j) u := by
        simp [leads_cons_iff, h]
      rw [hnext, hstops.followed j (Nat.le_of_succ_le_succ hj), Nat.succ_le_succ_iff]

theorem leads_or_stops (v : Value) (path : List String) : (∃ w, v.Leads path w) ∨ ∃ count w, v.Stops path count w := by
  induction path generalizing v with
  | nil => exact .inl ⟨v, .here v⟩
  | cons field path ih =>
    cases h : v.get? field with
    | none => exact .inr ⟨0, v, .first h path⟩
    | some next =>
      rcases ih next with ⟨w, hw⟩ | ⟨count, w, hstops⟩
      · exact .inl ⟨w, .step h hw⟩
      · exact .inr ⟨count + 1, w, .cons h hstops⟩

/-- Where a path stops, the value that is reached does not have the next field. -/
theorem Stops.exists_missing (h : v.Stops path count w) : ∃ field,
    path = path.take count ++ field :: path.drop (count + 1) ∧ path.take (count + 1) = path.take count ++ [field] ∧
      w.get? field = none := by
  obtain ⟨field, hfield⟩ : ∃ field, path[count]? = some field := ⟨_, List.getElem?_eq_getElem h.lt_length⟩
  have htake : path.take (count + 1) = path.take count ++ [field] := by
    rw [List.take_add_one, hfield, Option.toList_some]
  refine ⟨field, ?_, htake, ?_⟩
  · rw [List.append_cons, ← htake, List.take_append_drop]
  · by_contra hne
    obtain ⟨next, hnext⟩ := Option.ne_none_iff_exists'.mp hne
    have hleads : v.Leads (path.take (count + 1)) next := by
      rw [htake, leads_append_iff]
      exact ⟨w, h.leads, .step hnext (.here next)⟩
    exact Nat.not_succ_le_self count ((h.followed _ h.lt_length).mp ⟨next, hleads⟩)

end Value

namespace Environment

variable {env : Environment} {name field : String} {v w next : Value} {reached path more : List String} {count : Nat}

/-! ## One field -/

theorem follow_next (h : v.get? field = some next) :
    follow name reached v (field :: path) = follow name (reached ++ [field]) next path := by
  obtain ⟨fields, hfields, hget⟩ := Option.bind_eq_some_iff.mp h
  rw [follow, hfields]
  dsimp only
  rw [hget]

theorem follow_missing (hv : v.HasFields) (h : v.get? field = none) :
    follow name reached v (field :: path) = .error (.variableNotFound (dotted name (reached ++ [field]))) := by
  obtain ⟨fields, hfields⟩ := Value.hasFields_iff.mp hv
  rw [Value.get?, hfields] at h
  rw [follow, hfields]
  dsimp only
  rw [show Fields.get? field fields = none from h]

theorem follow_fieldless (hv : ¬ v.HasFields) :
    follow name reached v (field :: path) = .error (.notIndexable (dotted name reached) v.type) := by
  cases h : v.fields? with
  | none =>
    rw [follow, h]
  | some fields => exact absurd (Value.hasFields_iff.mpr ⟨fields, h⟩) hv

/-! ## Whole paths -/

theorem follow_append : follow name reached v (path ++ more) =
    follow name reached v path >>= fun u => follow name (reached ++ path) u more := by
  induction path generalizing reached v with
  | nil => simp [follow, bind, Except.bind]
  | cons field path ih =>
    rw [List.cons_append]
    cases h : v.get? field with
    | some next =>
      rw [follow_next h, follow_next h, ih, List.append_assoc]
      rfl
    | none =>
      by_cases hv : v.HasFields
      · rw [follow_missing hv h, follow_missing hv h]
        rfl
      · rw [follow_fieldless hv, follow_fieldless hv]
        rfl

theorem follow_of_leads (h : v.Leads path w) (name : String) (reached : List String) :
    follow name reached v path = .ok w := by
  induction h generalizing reached with
  | here v => rfl
  | step h _ ih => rw [follow_next h, ih]

/-- The error of a path that stops: it names the fields up to the missing one, or those up to a value without fields. -/
theorem follow_of_stops (h : v.Stops path count w) (name : String) (reached : List String) :
    w.HasFields ∧ follow name reached v path =
        .error (.variableNotFound (dotted name (reached ++ path.take (count + 1)))) ∨
      ¬ w.HasFields ∧ follow name reached v path =
        .error (.notIndexable (dotted name (reached ++ path.take count)) w.type) := by
  obtain ⟨field, hpath, htake, hmissing⟩ := h.exists_missing
  have hrest : follow name reached v path =
      follow name (reached ++ path.take count) w (field :: path.drop (count + 1)) := by
    conv => lhs; rw [hpath]
    rw [follow_append, follow_of_leads h.leads]
    rfl
  by_cases hw : w.HasFields
  · refine .inl ⟨hw, ?_⟩
    rw [hrest, follow_missing hw hmissing, List.append_assoc, ← htake]
  · exact .inr ⟨hw, by rw [hrest, follow_fieldless hw]⟩

theorem follow_eq_ok_iff : follow name reached v path = .ok w ↔ v.Leads path w := by
  refine ⟨fun h => ?_, fun h => follow_of_leads h name reached⟩
  rcases v.leads_or_stops path with ⟨u, hu⟩ | ⟨count, u, hstops⟩
  · rw [follow_of_leads hu] at h
    cases h
    exact hu
  · rcases follow_of_stops hstops name reached with ⟨-, herr⟩ | ⟨-, herr⟩
    · rw [herr] at h
      cases h
    · rw [herr] at h
      cases h

/-- **A path is followed as far as it leads.** A variable with a path has the value that the path leads to from the value
of the variable. If there is no such variable, the error is about its name. If the path stops, the error is about the
name and the fields that can be followed: with the next field where that is missing in a map or a struct, and else
without it, and with the type of the value that has no fields. A longer path goes on from where the shorter one leads. -/
theorem resolve_or_first_stop (env : Environment) (name : String) (path : List String) :
    (∀ v, env.resolve name path = .ok v ↔ ∃ root, env.get? name = some root ∧ root.Leads path v) ∧
    (env.get? name = none → env.resolve name path = .error (.variableNotFound name)) ∧
    (∀ root, env.get? name = some root → (∀ v, ¬ root.Leads path v) → ∃ i v, root.Stops path i v ∧
      (v.HasFields ∧ env.resolve name path = .error (.variableNotFound (dotted name (path.take (i + 1)))) ∨
        ¬ v.HasFields ∧ env.resolve name path = .error (.notIndexable (dotted name (path.take i)) v.type))) ∧
    ∀ more, (∀ v, env.resolve name path = .ok v → env.resolve name (path ++ more) = follow name path v more) ∧
      ∀ e, env.resolve name path = .error e → env.resolve name (path ++ more) = .error e := by
  cases hroot : env.get? name with
  | none =>
    have hunbound (p : List String) : env.resolve name p = .error (.variableNotFound name) := by rw [resolve, hroot]
    simp [hunbound]
  | some root =>
    have hbound (p : List String) : env.resolve name p = follow name [] root p := by rw [resolve, hroot]
    simp only [hbound, follow_append, follow_eq_ok_iff, List.nil_append]
    refine ⟨fun v => by simp, nofun, ?_, fun more => ⟨fun v hv => ?_, fun e he => ?_⟩⟩
    · rintro _ ⟨⟩ hnowhere
      rcases root.leads_or_stops path with ⟨v, hv⟩ | ⟨i, v, hstops⟩
      · exact absurd hv (hnowhere v)
      · exact ⟨i, v, hstops, follow_of_stops hstops name []⟩
    · rw [follow_of_leads hv]
      rfl
    · rw [he]
      rfl

/-- `user.address.zip`, where `user` is a map and `address` a struct. -/
def addressBook : Environment :=
  empty.set "user"
    (.map (.ofList [("address", .struct (.ofList [("zip", .int ⟨.int64, 7, by decide, by decide⟩)]))]))

/-- Fields after a number, a field that is missing one level down, and a variable that is not there. -/
theorem resolve_or_first_stop_nested :
    let path := ["address", "zip", "x", "y"]
    (∃ root, addressBook.get? "user" = some root ∧ (∀ v, ¬ root.Leads path v) ∧ ∃ i v, root.Stops path i v ∧
      (v.HasFields ∧ addressBook.resolve "user" path = .error (.variableNotFound (dotted "user" (path.take (i + 1)))) ∨
        ¬ v.HasFields ∧
          addressBook.resolve "user" path = .error (.notIndexable (dotted "user" (path.take i)) v.type))) ∧
    addressBook.resolve "user" path = .error (.notIndexable "user.address.zip" (.int .int64)) ∧
    addressBook.resolve "user" ["address", "city"] = .error (.variableNotFound "user.address.city") ∧
    addressBook.resolve "user" (["address", "city"] ++ ["x"]) = .error (.variableNotFound "user.address.city") ∧
    addressBook.get? "group" = none ∧ addressBook.resolve "group" path = .error (.variableNotFound "group") := by
  intro path
  have hzip : addressBook.resolve "user" path = .error (.notIndexable "user.address.zip" (.int .int64)) := by rfl
  have hcity : addressBook.resolve "user" ["address", "city"] = .error (.variableNotFound "user.address.city") := by rfl
  have hgroup : addressBook.get? "group" = none := by rfl
  obtain ⟨hok, -, hstops, -⟩ := resolve_or_first_stop addressBook "user" path
  obtain ⟨root, hroot⟩ : ∃ root, addressBook.get? "user" = some root := ⟨_, rfl⟩
  have hnowhere (v : Value) : ¬ root.Leads path v := fun hv => by
    have h := (hok v).mpr ⟨root, hroot, hv⟩
    rw [hzip] at h
    cases h
  exact ⟨⟨root, hroot, hnowhere, hstops root hroot hnowhere⟩, hzip, hcity,
    ((resolve_or_first_stop addressBook "user" ["address", "city"]).2.2.2 ["x"]).2 _ hcity,
    hgroup, (resolve_or_first_stop addressBook "group" path).2.1 hgroup⟩

end Environment

end Verdict
