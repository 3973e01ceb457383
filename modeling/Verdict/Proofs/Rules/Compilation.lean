import Verdict.Proofs.Grammar.Passes
import Verdict.Proofs.Value.Structure
import Verdict.RuleSet

/-!
# Compiling rules

A definition is sound after some names if it has none of them and its text is an expression; definitions are compiled
if each is sound after the names given and those before it (`Sound`), and refused for the first that is not
(`compile_eq_ok_or_error`).
-/

namespace Verdict

/-- The rule is what the definition says, with the text word for word and the tree that is read from it. -/
structure RuleDefinition.Compiles (d : RuleDefinition) (r : Rule) : Prop where
  name : r.name = d.name
  description : r.description = d.description
  attributes : r.condition.attributes = d.attributes
  source : r.condition.source = d.source
  node : Expr.parse d.source = .ok r.condition.node

namespace RuleSet

variable {seen : List String} {d : RuleDefinition} {ds : List RuleDefinition} {rules : List Rule} {error : RuleError}

theorem condition_eq_ok {source : String} {c : Condition} :
    Condition.parse source = .ok c ↔ ∃ e, Expr.parse source = .ok e ∧ c = ⟨source, [], e⟩ := by
  rw [Condition.parse]
  cases Expr.parse source <;> simp [Except.map, eq_comm]

theorem condition_eq_error {source : String} {e : ParseError} :
    Condition.parse source = .error e ↔ Expr.parse source = .error e := by
  rw [Condition.parse]
  cases Expr.parse source <;> simp [Except.map]

/-! ## One definition -/

/-- A definition that can be compiled after those of some names. -/
structure SoundAfter (seen : List String) (d : RuleDefinition) : Prop where
  fresh : d.name ∉ seen
  isRead : ∃ e, Expr.parse d.source = .ok e

/-- What a definition is refused for after those of some names. A name that comes again is the first reason. -/
inductive FaultAfter (seen : List String) (d : RuleDefinition) : RuleError → Prop
  | duplicate : d.name ∈ seen → FaultAfter seen d (.duplicateName d.name)
  | invalid {e} : d.name ∉ seen → Expr.parse d.source = .error e → FaultAfter seen d (.invalidRule d.name e)

theorem sound_or_fault (seen : List String) (d : RuleDefinition) :
    SoundAfter seen d ∨ ∃ error, FaultAfter seen d error := by
  by_cases hseen : d.name ∈ seen
  · exact .inr ⟨_, .duplicate hseen⟩
  · cases he : Expr.parse d.source with
    | ok e => exact .inl ⟨hseen, e, he⟩
    | error e => exact .inr ⟨_, .invalid hseen he⟩

theorem compileFrom_fault (h : FaultAfter seen d error) : compileFrom seen (d :: ds) = .error error := by
  rw [compileFrom]
  cases h with
  | duplicate hseen => rw [if_pos (List.contains_iff_mem.mpr hseen)]
  | invalid hseen he => rw [if_neg (mt List.contains_iff_mem.mp hseen), condition_eq_error.mpr he]

theorem compileFrom_sound (h : SoundAfter seen d) (ds : List RuleDefinition) : ∃ r, d.Compiles r ∧
    compileFrom seen (d :: ds) = (compileFrom (d.name :: seen) ds).map (r :: ·) := by
  obtain ⟨hseen, e, he⟩ := h
  refine ⟨⟨d.name, d.description, ⟨d.source, d.attributes, e⟩⟩, ⟨rfl, rfl, rfl, rfl, he⟩, ?_⟩
  rw [compileFrom, if_neg (mt List.contains_iff_mem.mp hseen), condition_eq_ok.mpr ⟨e, he, rfl⟩]
  cases compileFrom (d.name :: seen) ds <;> rfl

/-! ## All definitions -/

/-- Each definition is sound after the names given and those of the definitions before it. -/
def Sound (seen : List String) : List RuleDefinition → Prop
  | [] => True
  | d :: ds => SoundAfter seen d ∧ Sound (d.name :: seen) ds

theorem sound_iff : Sound seen ds ↔
    (ds.map RuleDefinition.name).Nodup ∧ ∀ d ∈ ds, d.name ∉ seen ∧ ∃ e, Expr.parse d.source = .ok e := by
  induction ds generalizing seen with
  | nil => simp [Sound]
  | cons d ds ih =>
    rw [Sound, ih, List.map_cons, List.nodup_cons, List.forall_mem_cons]
    constructor
    · rintro ⟨⟨hfresh, hread⟩, hnodup, hall⟩
      refine ⟨⟨?_, hnodup⟩, ⟨hfresh, hread⟩, fun d' hd' => ?_⟩
      · intro hmem
        obtain ⟨d', hd', heq⟩ := List.mem_map.mp hmem
        exact (hall d' hd').1 (heq ▸ List.mem_cons_self)
      · exact ⟨fun hseen => (hall d' hd').1 (List.mem_cons_of_mem _ hseen), (hall d' hd').2⟩
    · rintro ⟨⟨hnew, hnodup⟩, ⟨hfresh, hread⟩, hall⟩
      refine ⟨⟨hfresh, hread⟩, hnodup, fun d' hd' => ⟨fun hseen => ?_, (hall d' hd').2⟩⟩
      rcases List.mem_cons.mp hseen with heq | hseen
      · exact hnew (heq ▸ List.mem_map_of_mem hd')
      · exact (hall d' hd').1 hseen

theorem compileFrom_of_sound (h : Sound seen ds) :
    ∃ rules, compileFrom seen ds = .ok rules ∧ List.Forall₂ RuleDefinition.Compiles ds rules := by
  induction ds generalizing seen with
  | nil => exact ⟨[], rfl, .nil⟩
  | cons d ds ih =>
    obtain ⟨rules, hrules, hall⟩ := ih h.2
    obtain ⟨r, hr, heq⟩ := compileFrom_sound h.1 ds
    exact ⟨r :: rules, by rw [heq, hrules]; rfl, .cons hr hall⟩

theorem FaultAfter.congr {names : List String} (h : FaultAfter seen d error) (heq : ∀ n, n ∈ seen ↔ n ∈ names) :
    FaultAfter names d error := by
  cases h with
  | duplicate hseen => exact .duplicate ((heq _).mp hseen)
  | invalid hseen he => exact .invalid (mt (heq _).mpr hseen) he

theorem compileFrom_of_fault {before after : List RuleDefinition} (h : Sound seen before)
    (hfault : FaultAfter (before.map RuleDefinition.name ++ seen) d error) :
    compileFrom seen (before ++ d :: after) = .error error := by
  induction before generalizing seen with
  | nil => exact compileFrom_fault hfault
  | cons b before ih =>
    obtain ⟨r, -, heq⟩ := compileFrom_sound h.1 (before ++ d :: after)
    have hrest := ih h.2 (hfault.congr fun n => by simp [or_left_comm])
    rw [List.cons_append, heq, hrest]
    rfl

theorem sound_or_first_fault (seen : List String) (ds : List RuleDefinition) : Sound seen ds ∨
    ∃ before d after error, ds = before ++ d :: after ∧ Sound seen before ∧
      FaultAfter (before.map RuleDefinition.name ++ seen) d error := by
  induction ds generalizing seen with
  | nil => exact .inl trivial
  | cons d ds ih =>
    rcases sound_or_fault seen d with hsound | ⟨error, hfault⟩
    · rcases ih (d.name :: seen) with hall | ⟨before, d', after, error, rfl, hbefore, hfault⟩
      · exact .inl ⟨hsound, hall⟩
      · exact .inr ⟨d :: before, d', after, error, rfl, ⟨hsound, hbefore⟩, hfault.congr fun n => by simp [or_left_comm]⟩
    · exact .inr ⟨[], d, ds, error, rfl, trivial, hfault⟩

theorem compileFrom_eq_error_iff : compileFrom seen ds = .error error ↔
    ∃ before d after, ds = before ++ d :: after ∧ Sound seen before ∧
      FaultAfter (before.map RuleDefinition.name ++ seen) d error := by
  constructor
  · intro h
    rcases sound_or_first_fault seen ds with hsound | ⟨before, d, after, error', rfl, hbefore, hfault⟩
    · obtain ⟨rules, hrules, -⟩ := compileFrom_of_sound hsound
      rw [hrules] at h
      cases h
    · rw [compileFrom_of_fault hbefore hfault] at h
      cases h
      exact ⟨before, d, after, rfl, hbefore, hfault⟩
  · rintro ⟨before, d, after, rfl, hbefore, hfault⟩
    exact compileFrom_of_fault hbefore hfault

theorem compileFrom_eq_ok (h : compileFrom seen ds = .ok rules) :
    Sound seen ds ∧ List.Forall₂ RuleDefinition.Compiles ds rules := by
  rcases sound_or_first_fault seen ds with hsound | ⟨before, d, after, error, rfl, hbefore, hfault⟩
  · obtain ⟨rules', hrules, hall⟩ := compileFrom_of_sound hsound
    rw [hrules] at h
    cases h
    exact ⟨hsound, hall⟩
  · rw [compileFrom_of_fault hbefore hfault] at h
    cases h

theorem compile_eq_ok {set : RuleSet} : compile ds = .ok set ↔ compileFrom [] ds = .ok set.rules := by
  rw [compile, map_eq_ok]
  constructor
  · rintro ⟨rules, hrules, rfl⟩
    exact hrules
  · exact fun h => ⟨set.rules, h, rfl⟩

theorem compile_eq_error : compile ds = .error error ↔ compileFrom [] ds = .error error := by
  rw [compile]
  cases compileFrom [] ds <;> simp [Except.map]

theorem compiles_of_compile {set : RuleSet} (h : compile ds = .ok set) :
    List.Forall₂ RuleDefinition.Compiles ds set.rules :=
  (compileFrom_eq_ok (compile_eq_ok.mp h)).2

theorem exists_definition (h : List.Forall₂ RuleDefinition.Compiles ds rules) :
    ∀ r ∈ rules, ∃ d ∈ ds, d.Compiles r :=
  fun _ hr => Value.exists_of_forall₂ h.flip hr

/-! ## Looking up -/

theorem get?_eq_some_iff {set : RuleSet} (h : (set.rules.map Rule.name).Nodup) {n : String} {r : Rule} :
    set.get? n = some r ↔ r ∈ set.rules ∧ r.name = n := by
  obtain ⟨rules⟩ := set
  show rules.find? _ = some r ↔ _
  constructor
  · intro hfind
    exact ⟨List.mem_of_find?_eq_some hfind, by simpa using List.find?_some hfind⟩
  · rintro ⟨hmem, rfl⟩
    induction rules with
    | nil => cases hmem
    | cons q rules ih =>
      obtain ⟨hnew, hnodup⟩ := List.nodup_cons.mp h
      rcases List.mem_cons.mp hmem with rfl | hmem
      · simp
      · have hne : q.name ≠ r.name := fun heq => hnew (heq ▸ List.mem_map_of_mem hmem)
        rw [List.find?_cons_of_neg (by simpa using hne)]
        exact ih hnodup hmem

theorem names_of_compiles (h : List.Forall₂ RuleDefinition.Compiles ds rules) :
    rules.map Rule.name = ds.map RuleDefinition.name := by
  induction h with
  | nil => rfl
  | cons hr _ ih => rw [List.map_cons, List.map_cons, hr.name, ih]

/-! ## All or nothing -/

theorem sound_nil_iff : Sound [] ds ↔
    (ds.map RuleDefinition.name).Nodup ∧ ∀ d ∈ ds, ∃ e, Expr.parse d.source = .ok e := by
  simp [sound_iff]

/-- **All rules or the first fault.** Definitions are compiled if and only if no name comes twice and every text is an
expression. The rules are then those of the definitions one by one, and each is found by its name. Otherwise the error
is that of the first definition that has a name that has come before or whose text is no expression. -/
theorem compile_or_first_fault (ds : List RuleDefinition) :
    ((∃ set, compile ds = .ok set) ↔
      (ds.map RuleDefinition.name).Nodup ∧ ∀ d ∈ ds, ∃ e, Expr.parse d.source = .ok e) ∧
    (∀ set, compile ds = .ok set → List.Forall₂ RuleDefinition.Compiles ds set.rules ∧
      ∀ n r, set.get? n = some r ↔ r ∈ set.rules ∧ r.name = n) ∧
    ∀ error, compile ds = .error error ↔ ∃ before d after, ds = before ++ d :: after ∧
      (before.map RuleDefinition.name).Nodup ∧ (∀ b ∈ before, ∃ e, Expr.parse b.source = .ok e) ∧
      FaultAfter (before.map RuleDefinition.name) d error := by
  refine ⟨?_, fun set hset => ?_, fun error => ?_⟩
  · rw [← sound_nil_iff]
    constructor
    · rintro ⟨set, hset⟩
      exact (compileFrom_eq_ok (compile_eq_ok.mp hset)).1
    · intro hsound
      obtain ⟨rules, hrules, -⟩ := compileFrom_of_sound hsound
      exact ⟨⟨rules⟩, compile_eq_ok.mpr hrules⟩
  · obtain ⟨hsound, hcompiles⟩ := compileFrom_eq_ok (compile_eq_ok.mp hset)
    refine ⟨hcompiles, fun n r => get?_eq_some_iff ?_⟩
    rw [names_of_compiles hcompiles]
    exact (sound_nil_iff.mp hsound).1
  · rw [compile_eq_error, compileFrom_eq_error_iff]
    refine exists₃_congr fun before d after => and_congr_right fun _ => ?_
    rw [List.append_nil, sound_nil_iff, and_assoc]

/-- Two rules, one of them without a description. -/
def twoRules : List RuleDefinition :=
  [⟨"adult", "Of age", "$age >= 18", ["age"]⟩, ⟨"former", "", "!$member.active", []⟩]

theorem twoRules_read : ∀ d ∈ twoRules, ∃ e, Expr.parse d.source = .ok e := by
  have hadult : Expr.parse "$age >= 18" =
      .ok (.binary .ge (.variable "age" []) (.literal (.int ⟨.int64, 18, by decide, by decide⟩))) := rfl
  have hformer : Expr.parse "!$member.active" = .ok (.not (.variable "member" ["active"])) := rfl
  exact List.forall_mem_cons.mpr ⟨⟨_, hadult⟩, List.forall_mem_singleton.mpr ⟨_, hformer⟩⟩

theorem compile_or_first_fault_twoRules :
    (∃ set r, compile twoRules = .ok set ∧ set.get? "former" = some r ∧
      List.Forall₂ RuleDefinition.Compiles twoRules set.rules) ∧
    compile (twoRules ++ [⟨"adult", "", "(", []⟩, ⟨"other", "", "", []⟩]) = .error (.duplicateName "adult") := by
  have hnodup : (twoRules.map RuleDefinition.name).Nodup := by decide
  constructor
  · obtain ⟨hiff, hrules, -⟩ := compile_or_first_fault twoRules
    obtain ⟨set, hset⟩ := hiff.mpr ⟨hnodup, twoRules_read⟩
    obtain ⟨hcompiles, hget⟩ := hrules set hset
    have hname : "former" ∈ set.rules.map Rule.name := by
      rw [names_of_compiles hcompiles]
      decide
    obtain ⟨r, hr⟩ := List.mem_map.mp hname
    exact ⟨set, r, hset, (hget "former" r).mpr hr, hcompiles⟩
  · exact ((compile_or_first_fault _).2.2 _).mpr ⟨twoRules, _, _, rfl, hnodup, twoRules_read, .duplicate (by decide)⟩

end RuleSet

end Verdict
