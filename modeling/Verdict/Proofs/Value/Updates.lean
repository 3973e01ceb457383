import Verdict.Json.Writer
import Verdict.Value.Display
import Verdict.Proofs.Environment.Paths
import Verdict.Proofs.Fields
import Verdict.Proofs.Tagged.Values
import Verdict.Proofs.Text.Utf8
import Verdict.Proofs.Value.Plain

/-!
# Runs of updates

The fields of a map or a struct are asked for and set, one after the other. Whatever is done, the value stays of its type,
its names rise in the order of their bytes, and each field has the value that was set last (`updates_as_finite_map`). All
that is written of the value lists its fields in that order.
-/

namespace Verdict.Value

/-- One thing that is done to a value. -/
inductive Access where
  | set (name : String) (x : Value)
  | get (name : String)

namespace Access

/-- The field that is asked for or set. -/
def name : Access → String
  | .set name _ | .get name => name

/-- What becomes of the value, and the answer. -/
def apply (v : Value) : Access → Value × Option Value
  | .set name x => v.setField name x
  | .get name => (v, v.get? name)

end Access

/-- The value after all accesses. -/
def after (v : Value) (run : List Access) : Value := run.foldl (fun v access => (access.apply v).1) v

/-- The answers to all accesses. -/
def answers (v : Value) : List Access → List (Option Value)
  | [] => []
  | access :: run => (access.apply v).2 :: answers (access.apply v).1 run

/-- The names of the fields rise in the order of their bytes. -/
def NamesRise (v : Value) : Prop :=
  ∀ fields, v.fields? = some fields → (fields.toList.map fun f => Text.bytes f.1).Pairwise (· < ·)

/-- The latest value that was set counts; where none was, what was there before stays. -/
structure LatestCounts (name : String) (run : List Access) (before after : Option Value) : Prop where
  latest : ∀ earlier x later, run = earlier ++ .set name x :: later → (∀ y, .set name y ∉ later) → after = some x
  untouched : (∀ y, .set name y ∉ run) → after = before

/-- A member of an object in JSON. -/
def memberText (name : String) (j : Json) : String := String.ofList (Json.stringText name) ++ ":" ++ j.compact

/-- All that is written of a value has those fields, one after the other: how it is displayed, its plain data with their
JSON, and the JSON of its stored form. -/
structure Lists (v : Value) (fields : List (String × Value)) : Prop where
  held : v.fields?.map Fields.toList = some fields
  display : v.display =
    "\x7b" ++ ", ".intercalate (fields.map fun f => f.1 ++ ": " ++ String.ofList f.2.nestedText) ++ "\x7d"
  plain : ∃ members, v.toPlain = .object members ∧ members.toList = fields.map fun f => (f.1, f.2.toPlain)
  plainText : v.toPlain.toJson.compact =
    "\x7b" ++ ",".intercalate (fields.map fun f => memberText f.1 f.2.toPlain.toJson) ++ "\x7d"
  storedText : v.toTagged.compact = "\x7b\"type\":\"" ++ v.type.name ++ "\",\"value\":\x7b" ++
    ",".intercalate (fields.map fun f => memberText f.1 f.2.toTagged) ++ "\x7d\x7d"

variable {v w x : Value} {name key : String} {run earlier later : List Access} {access : Access}
  {bound : Option String}

/-! ## Order -/

theorem namesRise (v : Value) : v.NamesRise := by
  intro fields _
  rw [List.pairwise_map]
  exact fields.rising.imp Text.lt_iff_bytes_lt.mp

/-! ## What is written -/

theorem intercalate_cons (separator text : List Char) (texts : List (List Char)) :
    separator.intercalate (text :: texts) = text ++ texts.flatMap (separator ++ ·) := by
  induction texts generalizing text with
  | nil => simp
  | cons next texts ih => simp [List.intercalate_cons_cons, ih]

theorem fieldsText_eq (fields : Fields Value bound) : fieldsText fields =
    fields.toList.flatMap fun f => ", ".toList ++ (f.1.toList ++ ": ".toList ++ f.2.nestedText) := by
  induction fields with
  | nil => rfl
  | cons name above v fields ih => simp [fieldsText, Fields.toList, ih]

theorem writeMembers_eq (members : List (String × Json)) : Json.writeMembers members =
    (members.flatMap fun m => ",".toList ++ (Json.stringText m.1 ++ ":".toList ++ m.2.write)) ++ ['}'] := by
  induction members with
  | nil => rfl
  | cons m members ih => simp [Json.writeMembers, ih]

theorem compact_object (members : List (String × Json)) :
    (Json.object members).compact = "\x7b" ++ ",".intercalate (members.map fun m => memberText m.1 m.2) ++ "\x7d" := by
  apply String.toList_injective
  cases members with
  | nil => rfl
  | cons m members =>
    simp [Json.compact, Json.write, writeMembers_eq, String.toList_intercalate, intercalate_cons, memberText,
      List.flatMap_map]

theorem display_map (fields : Fields Value) : display (.map fields) =
    "\x7b" ++ ", ".intercalate (fields.toList.map fun f => f.1 ++ ": " ++ String.ofList f.2.nestedText) ++ "\x7d" := by
  apply String.toList_injective
  cases fields with
  | nil => rfl
  | cons name above v fields =>
    simp [display, text, nestedText, fieldsText_eq, Fields.toList, String.toList_intercalate, intercalate_cons,
      List.flatMap_map]

theorem compact_typed (type : ValueType) (members : List (String × Json)) :
    (typed type (.object members)).compact = "\x7b\"type\":\"" ++ type.name ++ "\",\"value\":\x7b" ++
      ",".intercalate (members.map fun m => memberText m.1 m.2) ++ "\x7d\x7d" := by
  have hname : String.ofList (Json.stringText type.name) = "\"" ++ type.name ++ "\"" := by
    rcases type with _ | _ | kind | _ | _ | _ | _ | _ | _ | _
    case int => cases kind <;> decide
    all_goals decide
  have hkey : String.ofList (Json.stringText typeKey) = "\"type\"" := by decide
  have hcontent : String.ofList (Json.stringText contentKey) = "\"value\"" := by decide
  have htype : Json.compact (.string type.name) = "\"" ++ type.name ++ "\"" := hname
  rw [typed, compact_object, List.map_cons, List.map_cons, List.map_nil, memberText, memberText, compact_object, hkey,
    hcontent, htype]
  apply String.toList_injective
  simp [String.toList_intercalate]

theorem membersToJson_eq (members : Fields Plain bound) :
    Plain.membersToJson members = members.toList.map fun m => (m.1, m.2.toJson) := by
  induction members with
  | nil => rfl
  | cons name above p members ih => rw [Plain.membersToJson, ih, Fields.toList, List.map_cons]

theorem toJson_object (fields : Fields Value) : (Plain.object (fieldsToPlain fields)).toJson =
    .object (fields.toList.map fun f => (f.1, f.2.toPlain.toJson)) := by
  rw [Plain.toJson, membersToJson_eq, toList_fieldsToPlain, List.map_map]
  rfl

theorem lists_of_fields {fields : Fields Value} (h : v.fields? = some fields) : v.Lists fields.toList := by
  have hplain : v.toPlain = .object (fieldsToPlain fields) := by cases v <;> cases h <;> rfl
  have hdisplay : v.display = display (.map fields) := by cases v <;> cases h <;> cases fields <;> rfl
  have hstored : v.toTagged = typed v.type (.object (fieldsToTagged fields)) := by cases v <;> cases h <;> rfl
  refine ⟨congrArg _ h, hdisplay.trans (display_map fields), ⟨_, hplain, toList_fieldsToPlain fields⟩, ?_, ?_⟩
  · rw [hplain, toJson_object, compact_object, List.map_map]
    rfl
  · rw [hstored, compact_typed, fieldsToTagged_eq, List.map_map]
    rfl

/-! ## One access -/

theorem get?_setField (hv : v.HasFields) (name key : String) (x : Value) :
    (v.setField name x).1.get? key = if key = name then some x else v.get? key := by
  obtain ⟨fields, hfields⟩ := hasFields_iff.mp hv
  cases v with
  | map fs | struct fs => exact Fields.get?_insert key name x fs
  | _ => cases hfields

theorem setField_snd (v : Value) (name : String) (x : Value) : (v.setField name x).2 = v.get? name := by
  cases v <;> rfl

theorem Access.apply_snd (v : Value) (access : Access) : (access.apply v).2 = v.get? access.name := by
  cases access with
  | set name x => exact setField_snd v name x
  | get name => rfl

theorem Access.type_apply (v : Value) (access : Access) : (access.apply v).1.type = v.type := by
  cases access with
  | set name x => cases v <;> rfl
  | get name => rfl

theorem Access.apply_fieldless (hv : ¬ v.HasFields) (access : Access) : access.apply v = (v, none) := by
  rw [hasFields_iff] at hv
  cases access <;> cases v <;> first | rfl | exact absurd ⟨_, rfl⟩ hv

/-! ## All accesses -/

theorem after_append (v : Value) (earlier later : List Access) :
    after v (earlier ++ later) = after (after v earlier) later := List.foldl_append

theorem after_concat (v : Value) (run : List Access) (access : Access) :
    after v (run ++ [access]) = (access.apply (after v run)).1 := after_append v run [access]

theorem after_type (v : Value) (run : List Access) : (after v run).type = v.type := by
  induction run generalizing v with
  | nil => rfl
  | cons access run ih => exact (ih _).trans (access.type_apply v)

theorem HasFields.after (hv : v.HasFields) (run : List Access) : (v.after run).HasFields := by
  rw [HasFields, after_type]
  exact hv

theorem answers_append (v : Value) (earlier later : List Access) :
    answers v (earlier ++ later) = answers v earlier ++ answers (after v earlier) later := by
  induction earlier generalizing v with
  | nil => rfl
  | cons access earlier ih => exact congrArg _ (ih _)

theorem answers_length (v : Value) (run : List Access) : (answers v run).length = run.length := by
  induction run generalizing v with
  | nil => rfl
  | cons access run ih => exact congrArg _ (ih _)

theorem get?_after_untouched (hv : v.HasFields) (h : ∀ x, .set name x ∉ run) : (after v run).get? name = v.get? name := by
  induction run generalizing v with
  | nil => rfl
  | cons access run ih =>
    have hrest : ∀ x, .set name x ∉ run := fun x hx => h x (List.mem_cons_of_mem _ hx)
    refine (ih (hv.after [access]) hrest).trans ?_
    cases access with
    | get key => rfl
    | set key x =>
      have hne : name ≠ key := fun heq => h x (heq ▸ List.mem_cons_self)
      exact (get?_setField hv key name x).trans (if_neg hne)

theorem latestCounts_after (hv : v.HasFields) (name : String) (run : List Access) :
    LatestCounts name run (v.get? name) ((after v run).get? name) where
  latest := by
    rintro earlier x later rfl hlater
    have hset : ((after v earlier).setField name x).1.get? name = some x :=
      (get?_setField (hv.after earlier) name name x).trans (if_pos rfl)
    have hthen : ((after v earlier).setField name x).1.HasFields := (hv.after earlier).after [.set name x]
    rw [after_append]
    exact (get?_after_untouched hthen hlater).trans hset
  untouched := get?_after_untouched hv

theorem run_fieldless (hv : ¬ v.HasFields) (run : List Access) :
    after v run = v ∧ answers v run = List.replicate run.length none := by
  induction run with
  | nil => exact ⟨rfl, rfl⟩
  | cons access run ih =>
    simp only [after, List.foldl_cons, answers, access.apply_fieldless hv, List.length_cons, List.replicate_succ]
    exact ⟨ih.1, congrArg _ ih.2⟩

/-- **Maps and structs are finite maps.** Whatever is asked for and set, at every moment such a value is of the type that
it had, its names are distinct and rise in the order of their bytes, it is written with its fields in that order, and
each of them has the value that was set last or else the one from the start. The answer to a get is the value of the
field, and the answer to a set is what a get would have given just before; a set changes no other field, and a get
changes nothing. A value of any other type answers nothing and stays as it is. -/
theorem updates_as_finite_map (v : Value) (run : List Access) :
    (v.HasFields → (∀ earlier, earlier <+: run →
      let w := after v earlier
      w.type = v.type ∧ w.NamesRise ∧
      (∃ fields, w.Lists fields ∧ (fields.map Prod.fst).Nodup ∧
        ∀ name x, w.get? name = some x ↔ (name, x) ∈ fields) ∧
      ∀ name, LatestCounts name earlier (v.get? name) (w.get? name)) ∧
      ∀ earlier access later, run = earlier ++ access :: later →
        let before := after v earlier
        let next := after v (earlier ++ [access])
        (answers v run)[earlier.length]? = some (before.get? access.name) ∧
        match access with
        | .get _ => next = before
        | .set name x => next.get? name = some x ∧ ∀ other ≠ name, next.get? other = before.get? other) ∧
    (¬ v.HasFields → (∀ earlier, earlier <+: run → after v earlier = v) ∧
      answers v run = List.replicate run.length none) := by
  refine ⟨fun hfields => ⟨fun earlier _ => ?_, ?_⟩, fun hnone =>
    ⟨fun earlier _ => (run_fieldless hnone earlier).1, (run_fieldless hnone run).2⟩⟩
  · obtain ⟨fields, heq⟩ := hasFields_iff.mp (hfields.after earlier)
    have hget (name : String) : (after v earlier).get? name = Fields.get? name fields := by rw [get?, heq]; rfl
    refine ⟨after_type v earlier, namesRise _, ⟨_, lists_of_fields heq, fields.names_nodup, fun name x => ?_⟩,
      fun name => latestCounts_after hfields name earlier⟩
    rw [hget]
    exact Fields.get?_eq_some_iff
  · rintro earlier access later rfl
    refine ⟨?_, ?_⟩
    · rw [answers_append, List.getElem?_append_right (answers_length v earlier).le, answers_length, Nat.sub_self]
      exact congrArg some (access.apply_snd _)
    · cases access with
      | get name => exact after_concat v earlier (.get name)
      | set name x =>
        have hget (key : String) := get?_setField (hfields.after earlier) name key x
        dsimp only
        rw [after_concat]
        exact ⟨(hget name).trans (if_pos rfl), fun other hne => (hget other).trans (if_neg hne)⟩

/-- Fields whose names are of one, two and four bytes, set in another order than they are listed in, one of them twice. -/
theorem updates_as_finite_map_interleaved :
    let v : Value := .struct (.ofList [("é", .bool true)])
    let run : List Access := [.set "😀" .null, .set "z" .null, .get "é", .set "z" (.bool false), .get "z", .get "Z"]
    v.HasFields ∧ (after v run).display = "\x7bz: false, é: true, 😀: null\x7d" ∧
      answers v run = [none, none, some (.bool true), some .null, some (.bool false), none] ∧
      (after v run).get? "é" = some (.bool true) ∧ (after v run).get? "z" = some (.bool false) := by
  intro v run
  have hfields : v.HasFields := .inr rfl
  obtain ⟨-, -, -, hlatest⟩ := ((updates_as_finite_map v run).1 hfields).1 run List.prefix_rfl
  refine ⟨hfields, rfl, rfl, (hlatest "é").untouched (by simp [run]), ?_⟩
  exact (hlatest "z").latest [_, _, _] _ [_, _] rfl (by simp)

end Verdict.Value
