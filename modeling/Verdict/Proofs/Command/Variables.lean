import Verdict.Command.Run
import Verdict.Proofs.Command.Assignment
import Verdict.Proofs.Environment.History
import Verdict.Proofs.Print.RoundTrip
import Verdict.Proofs.Tagged.Loading

/-!
# The variables of a command

A command has the variables of a file and those given one by one. The last assignment to a name counts, then the file, and
a name that neither of them has is not found (`variables_precedence`).
-/

namespace Verdict

namespace Command

/-- The data of a file of variables, which is written as its name says. -/
def fileData? (file source : String) : Option Plain :=
  if isYamlFile file then Yaml.parse? source else Plain.parseJson? source

/-- The value of a variable in a file, where there is one. -/
def fileValue? (files : Files) (file : Option String) (name : String) : Option Value := do
  let file ← file
  let .object members ← fileData? file (← files file) | none
  (Fields.get? name members).map .ofPlain

variable {files : Files} {file : Option String} {path name : String} {loaded : Environment}
  {assignments : List Assignment}

theorem load_some (path source : String) : Environment.load path (some source) =
    orElse (if isYamlFile path then LoadError.malformedYaml else .malformedJson) (fileData? path source) >>=
      fun data => (Environment.ofPlain data).mapError .notVariables := by
  unfold Environment.load fileData?
  dsimp only [orElse]
  split <;> rfl

theorem exists_of_load {content : Option String} (h : Environment.load path content = .ok loaded) :
    ∃ source members, content = some source ∧ fileData? path source = some (.object members) ∧
      Environment.ofPlain (.object members) = .ok loaded := by
  cases content with
  | none => cases h
  | some source =>
    rw [load_some] at h
    cases hdata : fileData? path source with
    | none =>
      rw [hdata] at h
      cases h
    | some data =>
      rw [hdata] at h
      cases data with
      | object members => exact ⟨source, members, rfl, hdata, by cases h; rfl⟩
      | _ => cases h

theorem get?_membersOfPlain {bound : Option String} (name : String) (members : Fields Plain bound) :
    Fields.get? name (Value.membersOfPlain members) = (Fields.get? name members).map .ofPlain := by
  induction members with
  | nil => rfl
  | cons key above p members ih =>
    rw [Value.membersOfPlain, Fields.get?, Fields.get?, ih]
    split <;> rfl

theorem exists_loaded (hfile : ∀ path, file = some path → ∃ loaded, Environment.load path (files path) = .ok loaded) :
    ∃ loaded, (∀ name, loaded.get? name = fileValue? files file name) ∧
      (∀ f, loaded.function? f = none) ∧
      ∀ assignments, Sources.environment files ⟨file, assignments⟩ = .ok (Command.environment loaded assignments) := by
  cases file with
  | none => exact ⟨.empty, fun _ => rfl, fun _ => rfl, fun _ => rfl⟩
  | some path =>
    obtain ⟨loaded, hload⟩ := hfile path rfl
    obtain ⟨source, members, hsource, hdata, hof⟩ := exists_of_load hload
    refine ⟨loaded, fun name => ?_, ?_, fun assignments => ?_⟩
    · have hvalue : fileValue? files (some path) name = (Fields.get? name members).map .ofPlain := by
        simp [fileValue?, hsource, hdata]
      cases hof
      rw [hvalue]
      exact get?_membersOfPlain name members
    · cases hof
      exact fun _ => rfl
    · simp only [Sources.environment, hload]

/-! ## What counts -/

def Assignment.change (a : Assignment) : Environment.Change := .set a.name a.value

/-- The changes that make the environment of a command. -/
def changes (loaded : Environment) (assignments : List Assignment) : List Environment.Change :=
  .builtins :: .merge loaded :: assignments.map Assignment.change

theorem environment_eq_run (loaded : Environment) (assignments : List Assignment) :
    Command.environment loaded assignments = Environment.run .empty (changes loaded assignments) := by
  rw [Command.environment, changes, Environment.run, List.foldl_cons, List.foldl_cons, List.foldl_map]
  rfl

theorem lastCounts_get? (loaded : Environment) (assignments : List Assignment) (name : String) :
    Environment.LastCounts (Environment.Change.binding? name) (changes loaded assignments) none
      ((Command.environment loaded assignments).get? name) := by
  rw [environment_eq_run]
  exact Environment.lastCounts_run (fun c _ => c.actsBy_binding name) .empty

theorem get?_assigned {earlier later : List Assignment} {a : Assignment} (hlater : ∀ b ∈ later, b.name ≠ a.name) :
    (Command.environment loaded (earlier ++ a :: later)).get? a.name = some a.value := by
  refine (lastCounts_get? loaded _ a.name).last (changes loaded earlier) a.change (later.map Assignment.change) a.value
    (by simp [changes]) (if_pos rfl) ?_
  rw [List.forall_mem_map]
  exact fun b hb => if_neg (hlater b hb).symm

theorem get?_unassigned (h : ∀ a ∈ assignments, a.name ≠ name) :
    (Command.environment loaded assignments).get? name = loaded.get? name := by
  have hnone : ∀ c ∈ assignments.map Assignment.change, c.binding? name = none := by
    rw [List.forall_mem_map]
    exact fun a ha => if_neg (h a ha).symm
  have hcounts := lastCounts_get? loaded assignments name
  cases hvalue : loaded.get? name with
  | some v => exact hcounts.last [.builtins] (.merge loaded) _ v rfl hvalue hnone
  | none =>
    refine hcounts.untouched ?_
    rw [changes, List.forall_mem_cons, List.forall_mem_cons]
    exact ⟨rfl, hvalue, hnone⟩

theorem function?_environment (hnone : ∀ f, loaded.function? f = none) (assignments : List Assignment) (f : String) :
    (Command.environment loaded assignments).function? f = Environment.builtin? f := by
  have hcounts : Environment.LastCounts (Environment.Change.registration? f) (changes loaded assignments) none
      ((Command.environment loaded assignments).function? f) := by
    rw [environment_eq_run]
    exact Environment.lastCounts_run (fun c _ => c.actsBy_registration f) .empty
  have hrest : ∀ c ∈ .merge loaded :: assignments.map Assignment.change, c.registration? f = none := by
    rw [List.forall_mem_cons, List.forall_mem_map]
    exact ⟨hnone f, fun _ _ => rfl⟩
  cases hbuiltin : Environment.builtin? f with
  | some g => exact hcounts.last [] .builtins _ g rfl hbuiltin hrest
  | none => exact hcounts.untouched (List.forall_mem_cons.mpr ⟨hbuiltin, hrest⟩)

/-! ## Asking for a variable -/

theorem exists_of_mapM_append {α β : Type} {f : α → Option β} {as as' : List α} {a : α} {cs : List β}
    (h : (as ++ a :: as').mapM f = some cs) :
    ∃ bs b bs', cs = bs ++ b :: bs' ∧ f a = some b ∧ as'.mapM f = some bs' := by
  rw [List.mapM_append, List.mapM_cons] at h
  obtain ⟨bs, -, h⟩ := Option.bind_eq_some_iff.mp h
  obtain ⟨rest, hrest, h⟩ := Option.bind_eq_some_iff.mp h
  obtain ⟨b, hb, hrest⟩ := Option.bind_eq_some_iff.mp hrest
  obtain ⟨bs', hbs', hrest⟩ := Option.bind_eq_some_iff.mp hrest
  cases hrest
  cases h
  exact ⟨bs, b, bs', rfl, hb, hbs'⟩

theorem parse_variable {n : String} (hn : Expr.IsVariable n) : Expr.parse ("$" ++ n) = .ok (.variable n []) := by
  have hwritable : Expr.Writable Expr.IsWord (.variable n []) := .reference hn (by simp)
  have hdisplay : (Expr.variable n []).display = "$" ++ n := by
    apply String.toList_injective
    simp [Expr.display, Expr.text, Expr.pathText]
  rw [← hdisplay]
  exact hwritable.reads_display (by rw [Expr.height]; decide)

theorem evaluate_variable (env : Environment) (n : String) :
    (Expr.variable n []).evaluate env = (env.get? n).elim (.error (.variableNotFound n)) .ok := by
  rw [Expr.evaluate, Environment.resolve]
  cases env.get? n <;> rfl

/-- **Variables of a command.** Its file is loaded and all arguments are accepted. Then a variable has the value of the
last argument that gives its name one, else that of the file, else it is not found; and the functions are those that
every command has. An argument is refused if it has no equals sign or no name; else its value is what the text behind its
first equals sign denotes. -/
theorem variables_precedence (files : Files) (file : Option String) (args : List String)
    {assignments : List Assignment}
    (hfile : ∀ path, file = some path → ∃ loaded, Environment.load path (files path) = .ok loaded)
    (hargs : args.mapM Assignment.ofText? = some assignments) :
    (∃ env, Sources.environment files ⟨file, assignments⟩ = .ok env ∧
      (∀ n, Expr.IsVariable n → ∃ e, Expr.parse ("$" ++ n) = .ok e ∧
        (∀ earlier arg later value, args = earlier ++ arg :: later → Gives arg n value →
          (∀ other ∈ later, ∀ value, ¬ Gives other n value) → ∃ v, Denotes value v ∧ e.evaluate env = .ok v) ∧
        ((∀ arg ∈ args, ∀ value, ¬ Gives arg n value) →
          e.evaluate env = (fileValue? files file n).elim (.error (.variableNotFound n)) .ok)) ∧
      ∀ f, env.function? f = Environment.builtin? f) ∧
    ∀ arg, (Assignment.ofText? arg = none ↔ '=' ∉ arg.toList ∨ ∃ value, Gives arg "" value) ∧
      ∀ a, Assignment.ofText? arg = some a ↔
        ∃ value, Gives arg a.name value ∧ a.name ≠ "" ∧ Denotes value a.value := by
  refine ⟨?_, fun arg => ⟨ofText?_eq_none_iff, fun a => ofText?_eq_some_iff⟩⟩
  obtain ⟨loaded, hvalue, hfunction, henv⟩ := exists_loaded hfile
  refine ⟨_, henv assignments, fun n hn => ⟨_, parse_variable hn, ?_, ?_⟩, function?_environment hfunction _⟩
  · rintro earlier arg later value rfl hgives hlater
    obtain ⟨as, a, bs, rfl, hread, hbs⟩ := exists_of_mapM_append hargs
    obtain ⟨value', hgives', -, hdenotes⟩ := ofText?_eq_some_iff.mp hread
    obtain ⟨rfl, rfl⟩ := hgives.unique hgives'
    have hbs_name : ∀ b ∈ bs, b.name ≠ a.name := by
      intro b hb heq
      obtain ⟨other, hother, hread⟩ := mem_of_mapM hbs b hb
      obtain ⟨value, hgives, -⟩ := ofText?_eq_some_iff.mp hread
      exact hlater other hother value (heq ▸ hgives)
    refine ⟨a.value, hdenotes, ?_⟩
    rw [evaluate_variable, get?_assigned hbs_name]
    rfl
  · intro hnone
    have hunassigned : ∀ a ∈ assignments, a.name ≠ n := by
      rintro a ha rfl
      obtain ⟨arg, harg, hread⟩ := mem_of_mapM hargs a ha
      obtain ⟨value, hgives, -⟩ := ofText?_eq_some_iff.mp hread
      exact hnone arg harg value hgives
    rw [evaluate_variable, get?_unassigned hunassigned, hvalue]

/-- The data of a file of two variables. -/
def twoVariables : Json := .object [("a", .bool true), ("b", .null)]

theorem parse_twoVariables :
    Plain.parseJson? twoVariables.compact = some (.object (.ofList [("a", .bool true), ("b", .null)])) := by
  have hlegible : twoVariables.Legible := .object (by simp [Json.Legible.bool, Json.Legible.null])
  rw [Plain.parseJson?, hlegible.parse?_texts _ List.mem_cons_self]
  rfl

/-- Two arguments for one variable of a file: the second one has white space and signs around the name, and another equals
sign in the value. -/
theorem variables_precedence_overridden :
    let files : Files := fun path => if path = "v.json" then some twoVariables.compact else none
    let args := ["a=[true]", " $$a = b=c"]
    (∀ path, some "v.json" = some path → ∃ loaded, Environment.load path (files path) = .ok loaded) ∧
      ∃ assignments env, args.mapM Assignment.ofText? = some assignments ∧
        Sources.environment files ⟨some "v.json", assignments⟩ = .ok env ∧
        (Expr.parse "$a").map (·.evaluate env) = .ok (.ok (.string " b=c")) ∧
        (Expr.parse "$b").map (·.evaluate env) = .ok (.ok .null) ∧
        (Expr.parse "$c").map (·.evaluate env) = .ok (.error (.variableNotFound "c")) := by
  intro files args
  have hcontent : files "v.json" = some twoVariables.compact := if_pos rfl
  have hdata : fileData? "v.json" twoVariables.compact = some (.object (.ofList [("a", .bool true), ("b", .null)])) :=
    parse_twoVariables
  have hfile : ∀ path, some "v.json" = some path → ∃ loaded, Environment.load path (files path) = .ok loaded := by
    rintro path heq
    cases heq
    refine ⟨⟨Value.membersOfPlain (.ofList [("a", .bool true), ("b", .null)]), .nil⟩, ?_⟩
    rw [hcontent, load_some, hdata]
    rfl
  have hfirst : Gives "a=[true]" "a" "[true]" := gives_iff.mpr ⟨['a'], rfl, rfl⟩
  have hsecond : Gives " $$a = b=c" "a" " b=c" := gives_iff.mpr ⟨" $$a ".toList, rfl, rfl⟩
  have hargs : args.mapM Assignment.ofText? = some [⟨"a", valueOfText "[true]"⟩, ⟨"a", valueOfText " b=c"⟩] := by
    simp [args, ofText?_eq hfirst, ofText?_eq hsecond]
  have hvariable (n : String) (hn : n ∈ ["a", "b", "c"]) : Expr.IsVariable n := by
    simp only [List.mem_cons, List.not_mem_nil, or_false] at hn
    rcases hn with rfl | rfl | rfl <;> exact ⟨by decide, by simp [Grammar.IsSigned], List.all_eq_true.mp rfl⟩
  have hnone (n : String) (hn : n ≠ "a") : ∀ arg ∈ args, ∀ value, ¬ Gives arg n value := by
    intro arg harg value hgives
    rcases List.mem_cons.mp harg with rfl | harg
    · exact hn (hgives.unique hfirst).1
    · cases List.mem_singleton.mp harg
      exact hn (hgives.unique hsecond).1
  obtain ⟨⟨env, henv, hvariables, -⟩, -⟩ := variables_precedence files (some "v.json") args hfile hargs
  refine ⟨hfile, _, env, hargs, henv, ?_, ?_, ?_⟩
  · obtain ⟨e, hparse, hlast, -⟩ := hvariables "a" (hvariable _ (by simp))
    obtain ⟨v, hdenotes, hv⟩ := hlast [_] _ [] _ rfl hsecond (by simp)
    have hnot : (Json.parse? " b=c").isNone = true := by decide +kernel
    have hstring : Denotes " b=c" (.string " b=c") :=
      .text (by rw [Plain.parseJson?, Option.isNone_iff_eq_none.mp hnot]; rfl)
    rw [show Expr.parse "$a" = .ok e from hparse, Except.map, hv, denotes_iff.mp hdenotes, ← denotes_iff.mp hstring]
  · obtain ⟨e, hparse, -, hrest⟩ := hvariables "b" (hvariable _ (by simp))
    have hvalue : fileValue? files (some "v.json") "b" = some .null := by
      simp [fileValue?, hcontent, hdata, Fields.ofList, Fields.get?_insertAll, Value.ofPlain]
    rw [show Expr.parse "$b" = .ok e from hparse, Except.map, hrest (hnone _ (by decide)), hvalue]
    rfl
  · obtain ⟨e, hparse, -, hrest⟩ := hvariables "c" (hvariable _ (by simp))
    have hvalue : fileValue? files (some "v.json") "c" = none := by
      simp [fileValue?, hcontent, hdata, Fields.ofList, Fields.get?_insertAll, Fields.get?]
    rw [show Expr.parse "$c" = .ok e from hparse, Except.map, hrest (hnone _ (by decide)), hvalue]
    rfl

end Command

end Verdict
