import Verdict.Proofs.Print.RoundTrip
import Verdict.Proofs.Tagged.Expressions

/-!
# The two limits on depth

Reading a text bounds the height of its tree, and loading a stored tree bounds how deeply its JSON nests. A node
costs one or two levels there, so a tree that was read can be too deep to be loaded: it is loaded exactly if its
stored form nests no deeper than is allowed (`loaded_of_parse`), which it does up to a height of 63
(`loaded_of_height`). A row of 126 negations is read and not loaded (`negations_not_loaded`).
-/

namespace Verdict.Expr

mutual

/-- How deeply the stored form of an expression nests. -/
def storedNesting : Expr → Nat
  | .literal v => v.toTagged.nesting + 1
  | .variable _ path => if path.isEmpty then 1 else 2
  | .not operand => operand.storedNesting + 1
  | .binary _ left right => max left.storedNesting right.storedNesting + 1
  | .list items | .call _ items => storedNestingOfAll items + 2
termination_by structural e => e

def storedNestingOfAll : List Expr → Nat
  | [] => 0
  | e :: es => max e.storedNesting (storedNestingOfAll es)
termination_by structural es => es

end

theorem nestingOfItems_allToTagged {es : List Expr} (h : ∀ e ∈ es, e.toTagged.nesting = e.storedNesting) :
    Json.nestingOfItems (allToTagged es) = storedNestingOfAll es := by
  induction es with
  | nil => rfl
  | cons e es ih =>
    rw [List.forall_mem_cons] at h
    rw [allToTagged, Json.nestingOfItems, storedNestingOfAll, h.1, ih h.2]

theorem nesting_toTagged (e : Expr) : e.toTagged.nesting = e.storedNesting := by
  induction e using Expr.induction with
  | literal v => simp [toTagged, node, Json.nesting, Json.nestingOfMembers, storedNesting]
  | reference name path =>
    cases path with
    | nil => rfl
    | cons f fs => simp [toTagged, node, Json.nesting, Json.nestingOfMembers, storedNesting, nesting_strings]
  | negation e ih => simp [toTagged, node, Json.nesting, Json.nestingOfMembers, storedNesting, ih]
  | operation op l r ihl ihr => simp [toTagged, node, Json.nesting, Json.nestingOfMembers, storedNesting, ihl, ihr]
  | items es ih =>
    simp [toTagged, node, Json.nesting, Json.nestingOfMembers, storedNesting, nestingOfItems_allToTagged ih]
  | application f es ih =>
    simp [toTagged, node, Json.nesting, Json.nestingOfMembers, storedNesting, nestingOfItems_allToTagged ih]

/-! ## Trees that were read -/

theorem Writable.of_mem_literals {P : Value → Prop} {e : Expr} (h : Writable P e) : ∀ v ∈ e.literals, P v := by
  induction h with
  | value hv => exact List.forall_mem_singleton.mpr hv
  | reference => exact fun _ hv => absurd hv List.not_mem_nil
  | negation _ ih => exact ih
  | operation _ _ _ ihl ihr => exact List.forall_mem_append.mpr ⟨ihl, ihr⟩
  | items _ ih | application _ _ _ ih =>
    intro v hv
    obtain ⟨e, he, hv⟩ := mem_literalsOfAll.mp hv
    exact ih e he v hv

theorem IsRead.storable {v : Value} (hv : IsRead v) (hfloat : ∀ x, v = .float64 x → Value.Rereads x) : v.Storable := by
  cases hv with
  | bool b => exact .bool b
  | string s => exact .string s
  | number h =>
    rcases numberValue?_cases h with ⟨n, -, rfl⟩ | ⟨negative, n, j, rfl⟩
    · exact .int n
    · exact .float64 (hfloat _ rfl)

variable {source : String} {e : Expr}

theorem literals_storable (h : Expr.parse source = .ok e) (hfloat : ∀ x, .float64 x ∈ e.literals → Value.Rereads x) :
    ∀ v ∈ e.literals, v.Storable := by
  intro v hv
  exact ((parse_writable h).of_mem_literals v hv).storable fun x hx => hfloat x (hx ▸ hv)

/-- **What is loaded of a tree that was read**: all of it or nothing, as its stored form nests. -/
theorem loaded_of_parse (h : Expr.parse source = .ok e) (hfloat : ∀ x, .float64 x ∈ e.literals → Value.Rereads x) :
    ∀ text ∈ e.toTagged.texts,
      Expr.ofJsonText? text = if e.storedNesting ≤ Json.maxNesting then some e else none := by
  rw [← nesting_toTagged]
  exact ofJsonText?_eq (literals_storable h hfloat)

theorem IsRead.nesting {v : Value} (hv : IsRead v) : v.toTagged.nesting = 1 := by
  cases hv with
  | bool b => rfl
  | string s => rfl
  | number h =>
    rcases numberValue?_cases h with ⟨n, -, rfl⟩ | ⟨negative, n, j, rfl⟩
    · rfl
    · rw [Value.toTagged, Value.nesting_typed]
      cases Json.Numeral.ofFloat? (Binary.ofDecimal negative n j) <;> rfl

theorem storedNestingOfAll_le {es : List Expr} (h : ∀ e ∈ es, e.storedNesting ≤ 2 * e.height) :
    storedNestingOfAll es ≤ 2 * heightOfAll es := by
  induction es with
  | nil => exact le_refl 0
  | cons e es ih =>
    rw [List.forall_mem_cons] at h
    have he := h.1
    have hes := ih h.2
    rw [storedNestingOfAll, heightOfAll]
    omega

/-- Each node costs at most two levels. -/
theorem Writable.storedNesting_le (h : Writable IsRead e) : e.storedNesting ≤ 2 * e.height := by
  induction h with
  | value hv => rw [storedNesting, hv.nesting, height]
  | reference =>
    rw [storedNesting, height]
    split <;> omega
  | negation _ ih =>
    rw [storedNesting, height]
    omega
  | operation _ _ _ ihl ihr =>
    rw [storedNesting, height]
    omega
  | items _ ih | application _ _ _ ih =>
    have hes := storedNestingOfAll_le ih
    rw [storedNesting, height]
    omega

/-- A tree that was read is loaded if it is not taller than half of what may nest. -/
theorem loaded_of_height (h : Expr.parse source = .ok e) (hfloat : ∀ x, .float64 x ∈ e.literals → Value.Rereads x)
    (hheight : e.height ≤ 63) : ∀ text ∈ e.toTagged.texts, Expr.ofJsonText? text = some e := by
  intro text ht
  have hle := (parse_writable h).storedNesting_le
  have hmax : e.storedNesting ≤ Json.maxNesting := by
    rw [Json.maxNesting]
    omega
  rw [loaded_of_parse h hfloat text ht, if_pos hmax]

/-- **When what was read can be loaded.** A tree that was read from a text is loaded from the text of its stored form,
and evaluates as before in every environment, exactly if the stored form nests no deeper than is allowed. A stored
condition has one level less for it. -/
theorem parse_loads_iff (h : Expr.parse source = .ok e) (hfloat : ∀ x, .float64 x ∈ e.literals → Value.Rereads x) :
    (∀ text ∈ e.toTagged.texts,
      (∃ loaded, Expr.ofJsonText? text = some loaded ∧ ∀ env, loaded.evaluate env = e.evaluate env) ↔
        e.storedNesting ≤ Json.maxNesting) ∧
    ∀ attributes, ∀ text ∈ (Condition.toTagged ⟨source, attributes, e⟩).texts,
      (∃ loaded, Condition.ofJsonText? text = some loaded ∧ ∀ env, loaded.evaluate env = e.evaluate env) ↔
        e.storedNesting < Json.maxNesting := by
  constructor
  · intro text ht
    rw [loaded_of_parse h hfloat text ht]
    split
    · next hle => exact iff_of_true ⟨e, rfl, fun _ => rfl⟩ hle
    · next hle => exact iff_of_false (fun ⟨_, hnone, _⟩ => nomatch hnone) hle
  · intro attributes text ht
    have hloaded := Condition.ofJsonText?_eq (c := ⟨source, attributes, e⟩) (literals_storable h hfloat) text ht
    rw [hloaded, nesting_toTagged]
    split
    · next hlt => exact iff_of_true ⟨_, rfl, fun _ => rfl⟩ hlt
    · next hlt => exact iff_of_false (fun ⟨_, hnone, _⟩ => nomatch hnone) hlt

/-- A path and a call with a fraction. -/
def fractionCall : Expr :=
  .list [.variable "a" ["b"], .call "f" [.literal (.float64 (Binary.ofDecimal true 15 (-1)))]]

theorem parse_loads_fractionCall :
    Expr.parse "[$a.b, f(-1.5)]" = .ok fractionCall ∧
      ∀ text ∈ fractionCall.toTagged.texts,
        ∃ loaded, Expr.ofJsonText? text = some loaded ∧ ∀ env, loaded.evaluate env = fractionCall.evaluate env := by
  have hparse : Expr.parse "[$a.b, f(-1.5)]" = .ok fractionCall := rfl
  have hfloat : ∀ x, .float64 x ∈ fractionCall.literals → Value.Rereads x := by
    intro x hx
    have hx' : x = Binary.ofDecimal true 15 (-1) := by
      simpa [fractionCall, literals, literalsOfAll] using hx
    exact hx' ▸ ⟨⟨true, ['1'], ['5'], none⟩, rfl, rfl⟩
  exact ⟨hparse, fun text ht => ((parse_loads_iff hparse hfloat).1 text ht).mpr (by decide)⟩

/-! ## A tree that is too deep -/

/-- `true` behind a row of negations. -/
def negations : Nat → Expr
  | 0 => .literal (.bool true)
  | n + 1 => .not (negations n)

theorem writable_negations : ∀ n, Writable IsWord (negations n)
  | 0 => .value (.bool true)
  | n + 1 => .negation (writable_negations n)

theorem height_negations : ∀ n, (negations n).height = n + 1
  | 0 => rfl
  | n + 1 => by rw [negations, height, height_negations n]

theorem storedNesting_negations : ∀ n, (negations n).storedNesting = n + 2
  | 0 => rfl
  | n + 1 => by rw [negations, storedNesting, storedNesting_negations n]

theorem literals_negations : ∀ n, (negations n).literals = [.bool true]
  | 0 => rfl
  | n + 1 => literals_negations n

theorem text_negations : ∀ n, (negations n).text = List.replicate n '!' ++ "true".toList
  | 0 => rfl
  | n + 1 => by
    rw [negations, text, text_negations n]
    rfl

theorem negations_not_loaded :
    Expr.parse (String.ofList (List.replicate 126 '!' ++ "true".toList)) = .ok (negations 126) ∧
      (∀ x, .float64 x ∉ (negations 126).literals) ∧
      ∀ text ∈ (negations 126).toTagged.texts, Expr.ofJsonText? text = none := by
  have hparse : Expr.parse (negations 126).display = .ok (negations 126) :=
    (writable_negations 126).reads_display (by rw [height_negations]; decide)
  have hfloat : ∀ x, .float64 x ∉ (negations 126).literals := by
    rw [literals_negations]
    simp
  refine ⟨text_negations 126 ▸ hparse, hfloat, fun text ht => ?_⟩
  rw [loaded_of_parse hparse (fun x hx => absurd hx (hfloat x)) text ht, storedNesting_negations]
  rfl

end Verdict.Expr
