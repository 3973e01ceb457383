import Verdict.Environment
import Verdict.Proofs.Fields
import Verdict.Proofs.Value.Plain

/-!
# The history of an environment

Variables of an environment are set, functions registered and other environments merged into it. Whatever is done, the
last change that binds a name counts, for variables and for functions apart from each other; and merging is associative,
with the empty environment as its neutral one (`last_change_counts`).
-/

namespace Verdict.Environment

/-- One thing that is done to an environment. -/
inductive Change where
  | set (name : String) (v : Value)
  | register (name : String) (f : Function)
  | builtins
  | merge (other : Environment)

/-- The functions that every command has. -/
def builtin? (name : String) : Option Function :=
  if name = "len" then some len
  else if name = "lower" then some (onString "lower" Text.toLower)
  else if name = "upper" then some (onString "upper" Text.toUpper)
  else none

namespace Change

def apply (env : Environment) : Change → Environment
  | .set name v => env.set name v
  | .register name f => env.register name f
  | .builtins => env.withBuiltins
  | .merge other => env.merge other

/-- What a change binds the variable of that name to, if it does. -/
def binding? (name : String) : Change → Option Value
  | .set key v => if name = key then some v else none
  | .merge other => other.get? name
  | .register _ _ | .builtins => none

/-- What a change binds the function of that name to, if it does. -/
def registration? (name : String) : Change → Option Function
  | .register key f => if name = key then some f else none
  | .builtins => builtin? name
  | .merge other => other.function? name
  | .set _ _ => none

end Change

/-- Changes are made one after the other. -/
def run (start : Environment) (changes : List Change) : Environment := changes.foldl Change.apply start

/-- The last of some changes that binds counts; where none does, what was there before them stays. -/
structure LastCounts {α : Type} (binds : Change → Option α) (changes : List Change) (before after : Option α) : Prop where
  last : ∀ earlier c later a, changes = earlier ++ c :: later → binds c = some a → (∀ d ∈ later, binds d = none) →
    after = some a
  untouched : (∀ c ∈ changes, binds c = none) → after = before

variable {env start : Environment} {changes earlier later : List Change} {change : Change} {name : String}

/-! ## One change

Variables and functions are two views of an environment, and a change acts on either of them by what it binds. -/

/-- In a view of the environment, a change does what it binds and nothing else. -/
def Change.ActsBy {α : Type} (view : Environment → Option α) (binds : Change → Option α) (change : Change) : Prop :=
  ∀ env, view (change.apply env) = (binds change).or (view env)

theorem Change.actsBy_binding (change : Change) (name : String) : change.ActsBy (get? · name) (binding? name) := by
  intro env
  cases change with
  | set key v =>
    show Fields.get? name (Fields.insert key v env.bindings) = (if name = key then some v else none).or _
    rw [Fields.get?_insert]
    split <;> rfl
  | register key f | builtins => rfl
  | merge other => exact Fields.get?_merge name env.bindings other.bindings

theorem function?_withBuiltins (env : Environment) (name : String) :
    env.withBuiltins.function? name = (builtin? name).or (env.function? name) := by
  show Fields.get? name (Fields.insert "upper" _ (Fields.insert "lower" _ (Fields.insert "len" _ env.functions))) = _
  rw [Fields.get?_insert, Fields.get?_insert, Fields.get?_insert, builtin?]
  split_ifs <;> simp_all [function?]

theorem Change.actsBy_registration (change : Change) (name : String) :
    change.ActsBy (function? · name) (registration? name) := by
  intro env
  cases change with
  | set key v => rfl
  | register key f =>
    show Fields.get? name (Fields.insert key f env.functions) = (if name = key then some f else none).or _
    rw [Fields.get?_insert]
    split <;> rfl
  | builtins => exact function?_withBuiltins env name
  | merge other => exact Fields.get?_merge name env.functions other.functions

/-! ## All changes -/

section View

variable {α : Type} {view : Environment → Option α} {binds : Change → Option α}

theorem run_append (start : Environment) (earlier later : List Change) :
    run start (earlier ++ later) = run (run start earlier) later := List.foldl_append

theorem view_run_untouched (h : ∀ c ∈ changes, c.ActsBy view binds) (hnone : ∀ c ∈ changes, binds c = none)
    (start : Environment) : view (run start changes) = view start := by
  induction changes generalizing start with
  | nil => rfl
  | cons change changes ih =>
    rw [List.forall_mem_cons] at h hnone
    show view (run (change.apply start) changes) = _
    rw [ih h.2 hnone.2, h.1, hnone.1, Option.none_or]

theorem view_run_congr (h : ∀ c ∈ changes, c.ActsBy view binds) (hview : view env = view start) :
    view (run env changes) = view (run start changes) := by
  induction changes generalizing env start with
  | nil => exact hview
  | cons change changes ih =>
    rw [List.forall_mem_cons] at h
    exact ih h.2 (by rw [h.1, h.1, hview])

theorem lastCounts_run (h : ∀ c ∈ changes, c.ActsBy view binds) (start : Environment) :
    LastCounts binds changes (view start) (view (run start changes)) where
  last := by
    rintro earlier c later a rfl hc hlater
    rw [List.forall_mem_append, List.forall_mem_cons] at h
    rw [run_append]
    show view (run (c.apply (run start earlier)) later) = _
    rw [view_run_untouched h.2.2 hlater, h.2.1, hc, Option.some_or]
  untouched hnone := view_run_untouched h hnone start

/-- A change that binds nothing in a view may as well not have been made. -/
theorem view_run_without (h : ∀ c ∈ earlier ++ change :: later, c.ActsBy view binds) (hnone : binds change = none)
    (start : Environment) : view (run start (earlier ++ change :: later)) = view (run start (earlier ++ later)) := by
  rw [List.forall_mem_append, List.forall_mem_cons] at h
  have hview : view (change.apply (run start earlier)) = view (run start earlier) := by
    rw [h.2.1, hnone, Option.none_or]
  rw [run_append, run_append]
  exact view_run_congr h.2.2 hview

end View

/-! ## Names and merging -/

theorem mem_keys_iff : name ∈ env.keys ↔ ∃ v, env.get? name = some v := by
  rw [keys, ← Fields.contains_iff, Fields.contains, Option.isSome_iff_exists]
  rfl

theorem empty_merge (env : Environment) : empty.merge env = env := by
  show Environment.mk (Fields.ofList env.bindings.toList) (Fields.ofList env.functions.toList) = env
  rw [Fields.ofList_toList, Fields.ofList_toList]

theorem merge_assoc (a b c : Environment) : (a.merge b).merge c = a.merge (b.merge c) := by
  show Environment.mk _ _ = Environment.mk _ _
  congr 1
  · exact Fields.merge_assoc a.bindings b.bindings c.bindings
  · exact Fields.merge_assoc a.functions b.functions c.functions

/-- **The last change counts.** Whatever is done to an environment, a variable has the value of the last change that binds
it, of which a merge is one for all variables of the merged environment, or else the value from the start; the same is
true of functions. A change that binds no variable could as well be left out as far as variables are concerned, and one
that binds no function as far as functions are. The names are those of the bound variables, each once. Merging is
associative, and the empty environment changes nothing on either side. -/
theorem last_change_counts (start : Environment) (changes : List Change) :
    let env := run start changes
    (∀ name, LastCounts (Change.binding? name) changes (start.get? name) (env.get? name)) ∧
    (∀ name, LastCounts (Change.registration? name) changes (start.function? name) (env.function? name)) ∧
    (∀ earlier c later, changes = earlier ++ c :: later →
      (∀ name, c.binding? name = none → env.get? name = (run start (earlier ++ later)).get? name) ∧
      ∀ name, c.registration? name = none → env.function? name = (run start (earlier ++ later)).function? name) ∧
    (env.keys.Nodup ∧ ∀ name, name ∈ env.keys ↔ ∃ v, env.get? name = some v) ∧
    env.merge empty = env ∧ empty.merge env = env ∧ ∀ b c, (env.merge b).merge c = env.merge (b.merge c) := by
  intro env
  have hvariable (name : String) : ∀ c ∈ changes, c.ActsBy (get? · name) (Change.binding? name) :=
    fun c _ => c.actsBy_binding name
  have hfunction (name : String) : ∀ c ∈ changes, c.ActsBy (function? · name) (Change.registration? name) :=
    fun c _ => c.actsBy_registration name
  refine ⟨fun name => lastCounts_run (hvariable name) start, fun name => lastCounts_run (hfunction name) start, ?_,
    ⟨env.bindings.names_nodup, fun name => mem_keys_iff⟩, rfl, empty_merge env, merge_assoc env⟩
  rintro earlier c later rfl
  exact ⟨fun name hnone => view_run_without (hvariable name) hnone start,
    fun name hnone => view_run_without (hfunction name) hnone start⟩

/-- A variable and a function under each of two names, and a merge that sets one of the variables again. -/
theorem last_change_counts_equalNames :
    let start : Environment := { bindings := .ofList [("a", .bool true)] }
    let other := run empty [.register "len" (onString "len" id), .set "a" .null]
    let changes := [.set "len" (.string "x"), .merge other, .register "a" len, .builtins]
    (run start changes).get? "a" = some .null ∧ (run start changes).get? "len" = some (.string "x") ∧
      (run start changes).function? "a" = some len ∧ (run start changes).function? "len" = some len := by
  intro start other changes
  have hunset : other.get? "len" = none := rfl
  obtain ⟨hvariable, hfunction, -⟩ := last_change_counts start changes
  refine ⟨?_, ?_, ?_, ?_⟩
  · exact (hvariable "a").last [.set "len" (.string "x")] (.merge other) _ _ rfl rfl (by simp [Change.binding?])
  · exact (hvariable "len").last [] _ _ _ rfl rfl (by simp [Change.binding?, hunset])
  · exact (hfunction "a").last [_, _] _ _ _ rfl rfl (by simp [Change.registration?, builtin?])
  · exact (hfunction "len").last [_, _, _] _ [] _ rfl rfl (by simp)

end Verdict.Environment
