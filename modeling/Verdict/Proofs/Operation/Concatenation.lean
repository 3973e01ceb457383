import Verdict.Environment
import Verdict.Proofs.Operation.Arithmetic

/-!
# Strings and concatenation

What a string begins with, ends with and contains is what it can be put together from with `+`, and the length of a sum
is the sum of the lengths. What contains a value also has it in it, for values of all types (`tests_by_concatenation`).
-/

namespace Verdict.Operation

variable {s p q r : String}

/-! ## Parts of texts -/

theorem isInfix_iff {part text : List Char} : isInfix part text = true ↔ part <:+: text := by
  induction text with
  | nil => rw [isInfix, List.isEmpty_iff, List.infix_nil]
  | cons c cs ih => rw [isInfix, Bool.or_eq_true, List.isPrefixOf_iff_prefix, ih, List.infix_cons_iff]

theorem add_strings (s p : String) : BinaryOp.add.apply (.string s) (.string p) = .ok (.string (s ++ p)) := by
  show Except.ok (Value.string (String.ofList (s.toList ++ p.toList))) = _
  rw [← String.toList_append, String.ofList_toList]

theorem add_eq_string_iff :
    BinaryOp.add.apply (.string p) (.string r) = .ok (.string s) ↔ p.toList ++ r.toList = s.toList := by
  rw [add_strings, Except.ok.injEq, Value.string.injEq, ← String.toList_inj, String.toList_append]

theorem add_add_eq_string_iff :
    (BinaryOp.add.apply (.string q) (.string p) >>= fun v => BinaryOp.add.apply v (.string r)) = .ok (.string s) ↔
      q.toList ++ p.toList ++ r.toList = s.toList := by
  rw [add_strings]
  show BinaryOp.add.apply (.string (q ++ p)) (.string r) = _ ↔ _
  rw [add_eq_string_iff, String.toList_append]

theorem exists_string {P : List Char → Prop} : (∃ r : String, P r.toList) ↔ ∃ cs, P cs :=
  ⟨fun ⟨r, h⟩ => ⟨r.toList, h⟩, fun ⟨cs, h⟩ => ⟨String.ofList cs, by rwa [String.toList_ofList]⟩⟩

theorem isPrefixOf_iff_add : p.toList.isPrefixOf s.toList = true ↔
    ∃ r : String, BinaryOp.add.apply (.string p) (.string r) = .ok (.string s) := by
  simp only [add_eq_string_iff]
  rw [List.isPrefixOf_iff_prefix, exists_string (P := fun cs => p.toList ++ cs = s.toList)]
  rfl

theorem isSuffixOf_iff_add : p.toList.isSuffixOf s.toList = true ↔
    ∃ r : String, BinaryOp.add.apply (.string r) (.string p) = .ok (.string s) := by
  simp only [add_eq_string_iff]
  rw [List.isSuffixOf_iff_suffix, exists_string (P := fun cs => cs ++ p.toList = s.toList)]
  rfl

theorem isInfix_iff_add : isInfix p.toList s.toList = true ↔ ∃ q r : String,
    (BinaryOp.add.apply (.string q) (.string p) >>= fun v => BinaryOp.add.apply v (.string r)) = .ok (.string s) := by
  simp only [add_add_eq_string_iff]
  rw [isInfix_iff, exists_string (P := fun cs => ∃ r : String, cs ++ p.toList ++ r.toList = s.toList)]
  exact exists_congr fun cs => (exists_string (P := fun ds => cs ++ p.toList ++ ds = s.toList)).symm

/-! ## Lengths -/

open Environment in
theorem lengthValue_eq_ok_iff {n : Nat} {v : Value} :
    lengthValue n = .ok v ↔ ∃ h : IntKind.int64.Holds n, v = .int h.integer := by
  unfold lengthValue
  by_cases h : IntKind.int64.Holds n
  · rw [Integer.ofInt?_of_holds h]
    exact ⟨fun heq => ⟨h, (Except.ok.inj heq).symm⟩, fun ⟨_, heq⟩ => heq ▸ rfl⟩
  · rw [Integer.ofInt?_of_not_holds h]
    exact ⟨nofun, fun ⟨hn, _⟩ => absurd hn h⟩

theorem len_string_iff {i : Integer} :
    Environment.len [.string s] = .ok (.int i) ↔ i.kind = .int64 ∧ i.val = s.toList.length := by
  show Environment.lengthValue s.length = _ ↔ _
  rw [lengthValue_eq_ok_iff, String.length_toList]
  constructor
  · rintro ⟨h, heq⟩
    cases heq
    exact ⟨rfl, rfl⟩
  · obtain ⟨kind, val, min_le, le_max⟩ := i
    rintro ⟨hkind, hval⟩
    cases hkind
    cases hval
    exact ⟨⟨min_le, le_max⟩, rfl⟩

theorem holds_of_le {m n : Nat} (h : IntKind.int64.Holds n) (hle : m ≤ n) : IntKind.int64.Holds m :=
  ⟨(by decide : IntKind.int64.min ≤ 0).trans (Int.natCast_nonneg m), (Int.ofNat_le.mpr hle).trans h.2⟩

theorem add_lengths_iff {m n : Nat} (hm : IntKind.int64.Holds m) (hn : IntKind.int64.Holds n) {v : Value} :
    BinaryOp.add.apply (.int hm.integer) (.int hn.integer) = .ok v ↔ Environment.lengthValue (m + n) = .ok v := by
  -- `rfl` would compare the two integers before their kinds
  have hexact := add_exact (hm.integer_kind.trans hn.integer_kind.symm)
  rw [IntKind.Holds.integer_kind, IntKind.Holds.integer_val, IntKind.Holds.integer_val, ← Int.natCast_add] at hexact
  rw [lengthValue_eq_ok_iff]
  constructor
  · exact hexact.eq_ok
  · rintro ⟨h, rfl⟩
    exact hexact.fits h

theorem len_add_iff {v : Value} : Environment.len [.string (s ++ p)] = .ok v ↔ ∃ a b,
    Environment.len [.string s] = .ok a ∧ Environment.len [.string p] = .ok b ∧ BinaryOp.add.apply a b = .ok v := by
  show Environment.lengthValue (s ++ p).length = _ ↔ ∃ a b, Environment.lengthValue s.length = _ ∧
    Environment.lengthValue p.length = _ ∧ _
  rw [String.length_append]
  constructor
  · intro hv
    obtain ⟨h, -⟩ := lengthValue_eq_ok_iff.mp hv
    have hs := holds_of_le h (Nat.le_add_right s.length p.length)
    have hp := holds_of_le h (Nat.le_add_left p.length s.length)
    have hadd := (add_lengths_iff hs hp).mpr hv
    exact ⟨_, _, lengthValue_eq_ok_iff.mpr ⟨hs, rfl⟩, lengthValue_eq_ok_iff.mpr ⟨hp, rfl⟩, hadd⟩
  · rintro ⟨a, b, ha, hb, hadd⟩
    obtain ⟨hs, rfl⟩ := lengthValue_eq_ok_iff.mp ha
    obtain ⟨hp, rfl⟩ := lengthValue_eq_ok_iff.mp hb
    exact (add_lengths_iff hs hp).mp hadd

/-! ## Members of values -/

theorem within_of_contains {x y v : Value} (h : BinaryOp.contains.apply y x = .ok v) :
    ∃ b : Bool, v = .bool b ∧ BinaryOp.within.apply x y = .ok (.bool b) := by
  change containment y x = .ok v at h
  unfold containment at h
  split at h
  · cases h
    exact ⟨_, rfl, rfl⟩
  · cases h
    exact ⟨_, rfl, rfl⟩
  · cases h
    exact ⟨_, rfl, rfl⟩
  · cases h

/-- **The tests of strings and concatenation.** A string begins with another one if it is a sum with that in front, ends
with it if it is a sum with that at its end, and contains it, or has it in it, if it is a sum with that in the middle. So
each holds for the empty string. The length of a sum is the sum of the lengths, which count characters. A value of any
type that contains another one has it in it. -/
theorem tests_by_concatenation (s p : String) (x y : Value) :
    (∃ b : Bool, BinaryOp.startsWith.apply (.string s) (.string p) = .ok (.bool b) ∧
      (b = true ↔ ∃ r : String, BinaryOp.add.apply (.string p) (.string r) = .ok (.string s))) ∧
    (∃ b : Bool, BinaryOp.endsWith.apply (.string s) (.string p) = .ok (.bool b) ∧
      (b = true ↔ ∃ r : String, BinaryOp.add.apply (.string r) (.string p) = .ok (.string s))) ∧
    (∃ b : Bool, BinaryOp.contains.apply (.string s) (.string p) = .ok (.bool b) ∧
      BinaryOp.within.apply (.string p) (.string s) = .ok (.bool b) ∧
      (b = true ↔ ∃ q r : String,
        (BinaryOp.add.apply (.string q) (.string p) >>= fun v => BinaryOp.add.apply v (.string r)) = .ok (.string s))) ∧
    (∀ op ∈ [BinaryOp.startsWith, .endsWith, .contains], op.apply (.string s) (.string "") = .ok (.bool true)) ∧
    (∃ t, BinaryOp.add.apply (.string s) (.string p) = .ok t ∧ ∀ v, Environment.len [t] = .ok v ↔ ∃ a b,
      Environment.len [.string s] = .ok a ∧ Environment.len [.string p] = .ok b ∧ BinaryOp.add.apply a b = .ok v) ∧
    (∀ i : Integer, Environment.len [.string s] = .ok (.int i) ↔ i.kind = .int64 ∧ i.val = s.toList.length) ∧
    ∀ v, BinaryOp.contains.apply y x = .ok v → ∃ b : Bool, v = .bool b ∧ BinaryOp.within.apply x y = .ok (.bool b) := by
  refine ⟨⟨_, rfl, isPrefixOf_iff_add⟩, ⟨_, rfl, isSuffixOf_iff_add⟩, ⟨_, rfl, rfl, isInfix_iff_add⟩, ?_,
    ⟨_, add_strings s p, fun v => len_add_iff⟩, fun i => len_string_iff, fun v => within_of_contains⟩
  simp only [List.forall_mem_cons]
  have htrue {b : Bool} (h : b = true) : (Except.ok (.bool b) : Outcome) = .ok (.bool true) := by rw [h]
  exact ⟨htrue (List.isPrefixOf_iff_prefix.mpr List.nil_prefix), htrue (List.isSuffixOf_iff_suffix.mpr List.nil_suffix),
    htrue (isInfix_iff.mpr List.nil_infix), nofun⟩

/-- A word with an accent, and a value in a set that holds it in another width. -/
theorem tests_by_concatenation_accent :
    let x : Value := .int ⟨.uint8, 3, by decide, by decide⟩
    let y : Value := .set [.string "é", .int ⟨.int64, 3, by decide, by decide⟩]
    BinaryOp.contains.apply y x = .ok (.bool true) ∧
    (∃ b : Bool, Value.bool true = .bool b ∧ BinaryOp.within.apply x y = .ok (.bool b)) ∧
    (∃ b : Bool, BinaryOp.endsWith.apply (.string "café") (.string "fé") = .ok (.bool b) ∧
      (b = true ↔ ∃ r : String, BinaryOp.add.apply (.string r) (.string "fé") = .ok (.string "café"))) := by
  intro x y
  have hcontains : BinaryOp.contains.apply y x = .ok (.bool true) := rfl
  obtain ⟨-, hends, -, -, -, -, hwithin⟩ := tests_by_concatenation "café" "fé" x y
  exact ⟨hcontains, hwithin _ hcontains, hends⟩

end Verdict.Operation
