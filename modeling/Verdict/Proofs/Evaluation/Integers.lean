import Verdict.Proofs.Evaluation.Steps
import Verdict.Proofs.Json.Numerals
import Verdict.Proofs.Number.Nearest
import Verdict.Proofs.Operation.Comparison
import Verdict.Proofs.Print.RoundTrip
import Verdict.Proofs.Value.Plain

/-!
# Integers in texts and in data

JSON data has all integers of 64 bits, signed and unsigned. An integer in the text of an expression is an `int64` or,
where it does not fit one, the double nearest to it. So a variable is compared exactly with the integers that fit, and as
a double with those beyond (`comparison_with_literal`).
-/

namespace Verdict

theorem Json.WideInt.eq_iff {m n : Json.WideInt} : m = n ↔ m.val = n.val := by
  cases m
  cases n
  rw [mk.injEq]

theorem Json.WideInt.natAbs_lt (n : Json.WideInt) : n.val.natAbs < 2 ^ 100 := by
  have hlow := n.min_le
  have hhigh := n.lt_max
  omega

theorem Plain.ofJson?_wideInt (depth : Nat) (m : Json.WideInt) :
    (ofJson? depth (.number (.ofInt m.val))).map Value.ofPlain = some (.ofWideInt m) := by
  have hwide : Json.WideInt.ofInt? m.val = some m := dif_pos ⟨m.min_le, m.lt_max⟩
  rw [ofJson?, Json.Numeral.value?_ofInt hwide]
  rfl

namespace Expr

open Grammar Lexer Operation

/-- The text of a comparison of a variable with an integer. -/
def comparisonText (x operator : String) (n : Int) : String :=
  "$" ++ x ++ " " ++ operator ++ " " ++ String.ofList (Decimal.displayInt n)

example : comparisonText "x" "<" (-5) = "$x < -5" := by decide

variable {x : String} {o : Word × BinaryOp} {n : Int} {v w : Value} {env : Environment}

/-! ## Reading -/

theorem words_comparison (hx : IsVariable x) (ho : o ∈ operators) (n : Int) : words (comparisonText x o.1.text n) =
    [name ("$" ++ x), o.1, ⟨.number, String.ofList (Decimal.displayInt n)⟩] := by
  have hblank : ∀ c ∈ [' '], Text.isBlank c = true := List.forall_mem_singleton.mpr (by decide)
  have htext : (comparisonText x o.1.text n).toList =
      ("$" ++ x).toList ++ ([' '] ++ (o.1.text.toList ++ ([' '] ++ Decimal.displayInt n))) := by
    simp [comparisonText]
  have hnumber := scan_number (decide (n < 0)) (Decimal.isDigits_digitsOf n.natAbs) (.inl rfl)
    (show ([] : List Char).head?.any Decimal.isDigit = false from rfl) (by simp)
  rw [List.append_nil, List.append_nil, ← Decimal.displayInt_eq] at hnumber
  rw [words, htext, scan_name _ (isName_signed hx) rfl, scan_between ho hblank hblank (by simp), hnumber,
    scan_nil_of_blank rfl]
  rfl

theorem parse_comparison (hx : IsVariable x) (ho : o ∈ operators)
    (hv : Parser.numberValue? (Decimal.displayInt n) = some v) :
    parse (comparisonText x o.1.text n) = .ok (.binary o.2 (.variable x []) (.literal v)) := by
  have hkind : ∀ o ∈ operators, o.1.kind ≠ .error := by decide
  have hvariable : Operand Parser.maxDepth [name ("$" ++ x)] (.variable x []) := .primary (primary_reference hx [])
  have hliteral : Operand Parser.maxDepth [⟨.number, String.ofList (Decimal.displayInt n)⟩] (.literal v) :=
    .primary (.number (by rw [String.toList_ofList]; exact hv))
  rw [parse_words_iff, no_error_iff, words_comparison hx ho]
  refine ⟨?_, expression_operation ho hvariable hliteral, ?_⟩
  · simp [name, hkind o ho]
  · rw [height, height, height]
    decide

theorem evaluate_comparison (hx : IsVariable x) (ho : o ∈ operators)
    (hv : Parser.numberValue? (Decimal.displayInt n) = some v) (hw : env.get? x = some w) :
    (parse (comparisonText x o.1.text n)).map (·.evaluate env) = .ok (o.2.apply w v) := by
  have hread : (Expr.variable x []).evaluate env = .ok w := by
    rw [evaluate, Environment.resolve, hw]
    rfl
  rw [parse_comparison hx ho hv, Except.map, evaluate_binary o.2 hread rfl]

/-! ## Numbers -/

/-- A literal that fits an `int64` is that integer, and one beyond is placed where the double of the integer is. -/
theorem literal_placed (n : Json.WideInt) (i : Integer) : ∃ v o,
    Parser.numberValue? (Decimal.displayInt n.val) = some v ∧ Placed (.int i) v o ∧
    (n.val ≤ IntKind.int64.max → o = compare i.val n.val) ∧
    (IntKind.int64.max < n.val → o = compare (Binary.position i.val) (Binary.position n.val)) := by
  by_cases hfits : n.val ≤ IntKind.int64.max
  · have hholds : IntKind.int64.Holds n.val := ⟨n.min_le, hfits⟩
    have hvalue : Parser.numberValue? (Decimal.displayInt n.val) = some (.int hholds.integer) :=
      Parser.numberValue?_displayInt (n := hholds.integer) rfl
    exact ⟨_, _, hvalue, .integers i hholds.integer, fun _ => rfl, by omega⟩
  · have hmax : IntKind.int64.max = 9223372036854775807 := rfl
    have hhigh := n.lt_max
    obtain ⟨k, hk⟩ := Int.eq_ofNat_of_zero_le (by omega : 0 ≤ n.val)
    have hvalue : Parser.numberValue? (Decimal.displayInt n.val) = some (.float64 (Binary.ofDecimal false k 0)) := by
      have hnot : ¬ IntKind.int64.Holds k := fun h => hfits (hk ▸ h.2)
      rw [Decimal.displayInt_eq, decide_eq_false (by omega),
        Parser.numberValue?_whole false (Decimal.isDigits_digitsOf _), Decimal.natOf_digitsOf, hk, Int.natAbs_natCast,
        if_neg Bool.false_ne_true, Integer.ofInt?_of_not_holds hnot]
    have hrank : Value.rank (.float64 (Binary.ofDecimal false k 0)) = some (Binary.position n.val) := by
      rw [hk]
      exact Binary.rank_ofDecimal (by omega) (by omega)
    exact ⟨_, _, hvalue, .numbers (Value.rank_int i) hrank (.inr rfl), fun h => absurd h hfits, fun _ => rfl⟩

/-- **A variable and a literal.** A variable that is bound from a JSON integer is compared exactly with an integer in the
text that fits an `int64`. An integer beyond is taken for the nearest number with 53 bits: it is less than that only if
so are the numbers nearest to both, and it equals that number and the integer itself. -/
theorem comparison_with_literal (hx : IsVariable x) {depth : Nat} {m n : Json.WideInt}
    (hm : env.get? x = (Plain.ofJson? depth (.number (.ofInt m.val))).map Value.ofPlain) :
    ∃ eq lt : Bool,
      (parse (comparisonText x "=" n.val)).map (·.evaluate env) = .ok (.ok (.bool eq)) ∧
      (parse (comparisonText x "<" n.val)).map (·.evaluate env) = .ok (.ok (.bool lt)) ∧
      (n.val ≤ IntKind.int64.max → (eq = true ↔ m = n) ∧ (lt = true ↔ m.val < n.val)) ∧
      (IntKind.int64.max < n.val →
        (lt = true ↔ Binary.nearest m.val < Binary.nearest n.val) ∧ (lt = true → m.val < n.val) ∧
        (m = n ∨ m.val = Binary.nearest n.val → eq = true) ∧
        (eq = true → Binary.nearest m.val = Binary.nearest n.val)) := by
  obtain ⟨i, hi, hval⟩ := Value.ofWideInt_eq m
  obtain ⟨v, o, hv, hplaced, hexact, hrounded⟩ := literal_placed n i
  rw [hval] at hexact hrounded
  have henv : env.get? x = some (.int i) := by rw [hm, Plain.ofJson?_wideInt, hi]
  have hequal : BinaryOp.eq.apply (.int i) v = .ok (.bool (o == .eq)) := by rw [BinaryOp.apply, hplaced.equal_eq]
  have hless : BinaryOp.lt.apply (.int i) v = .ok (.bool o.isLT) := comparison_of_order hplaced.order?_eq
  refine ⟨o == .eq, o.isLT, ?_, ?_, fun hfits => ?_, fun hbeyond => ?_⟩
  · rw [← hequal]
    exact evaluate_comparison (o := (sign "=", .eq)) hx (by decide) hv henv
  · rw [← hless]
    exact evaluate_comparison (o := (sign "<", .lt)) hx (by decide) hv henv
  · rw [hexact hfits, beq_iff_eq, Int.compare_eq_eq, Ordering.isLT_iff_eq_lt, Int.compare_eq_lt, Json.WideInt.eq_iff]
    exact ⟨.rfl, .rfl⟩
  · rw [hrounded hbeyond, beq_iff_eq, Int.compare_eq_eq, Ordering.isLT_iff_eq_lt, Int.compare_eq_lt]
    have hm100 := m.natAbs_lt
    have hn100 := n.natAbs_lt
    refine ⟨Binary.position_lt_iff hm100 hn100, fun hlt => ?_, ?_, (Binary.position_eq_iff hm100 hn100).mp⟩
    · by_contra hle
      have hmono := Binary.position_mono (not_lt.mp hle) hn100 hm100
      omega
    · rintro (rfl | hnearest)
      · rfl
      · have hmax : IntKind.int64.max = 9223372036854775807 := rfl
        obtain ⟨k, hk⟩ := Int.eq_ofNat_of_zero_le (by omega : 0 ≤ n.val)
        rw [hnearest, hk, Binary.nearest_natCast, Binary.position_nearestNat (by omega)]

theorem isVariable_x : IsVariable "x" := ⟨by decide, by simp [IsSigned], List.all_eq_true.mp rfl⟩

/-- The last double below the integers beyond, and the first of these. -/
theorem comparison_with_literal_first :
    let m : Json.WideInt := ⟨9223372036854774784, by decide, by decide⟩
    let env : Environment := { bindings := .ofList [("x", .ofWideInt m)] }
    env.get? "x" = (Plain.ofJson? 0 (.number (.ofInt m.val))).map Value.ofPlain ∧
      (parse (comparisonText "x" "<" 9223372036854774785)).map (·.evaluate env) = .ok (.ok (.bool true)) ∧
      (parse (comparisonText "x" "<" 9223372036854775808)).map (·.evaluate env) = .ok (.ok (.bool true)) := by
  intro m env
  have hm : env.get? "x" = (Plain.ofJson? 0 (.number (.ofInt m.val))).map Value.ofPlain := by
    rw [Plain.ofJson?_wideInt]
    rfl
  obtain ⟨_, lt, -, hlt, hfits, -⟩ :=
    comparison_with_literal (n := ⟨9223372036854774785, by decide, by decide⟩) isVariable_x hm
  obtain ⟨_, lt', -, hlt', -, hbeyond⟩ :=
    comparison_with_literal (n := ⟨9223372036854775808, by decide, by decide⟩) isVariable_x hm
  have htrue : lt = true := (hfits (by decide)).2.mpr (by decide)
  have htrue' : lt' = true := (hbeyond (by decide)).1.mpr (by decide)
  rw [htrue] at hlt
  rw [htrue'] at hlt'
  exact ⟨hm, hlt, hlt'⟩

/-- Two integers that are one double: the one in the text is taken for the one in the data. -/
theorem comparison_beyond_int64 :
    let m : Json.WideInt := ⟨9223372036854775808, by decide, by decide⟩
    let n : Json.WideInt := ⟨9223372036854775809, by decide, by decide⟩
    let env : Environment := { bindings := .ofList [("x", .ofWideInt m)] }
    env.get? "x" = (Plain.ofJson? 0 (.number (.ofInt m.val))).map Value.ofPlain ∧ m.val < n.val ∧
      (parse (comparisonText "x" "=" n.val)).map (·.evaluate env) = .ok (.ok (.bool true)) ∧
      (parse (comparisonText "x" "<" n.val)).map (·.evaluate env) = .ok (.ok (.bool false)) := by
  intro m n env
  have hm : env.get? "x" = (Plain.ofJson? 0 (.number (.ofInt m.val))).map Value.ofPlain := by
    rw [Plain.ofJson?_wideInt]
    rfl
  have hdata : env.get? "x" = some (.int ⟨.uint64, 9223372036854775808, by decide, by decide⟩) := by
    show some (Value.ofWideInt m) = _
    rw [Value.ofWideInt, dif_neg (by decide)]
  have hliteral : Parser.numberValue? (Decimal.displayInt n.val) =
      some (.float64 (Binary.ofDecimal false 9223372036854775809 0)) := by rfl
  refine ⟨hm, by decide, ?_, ?_⟩
  · exact evaluate_comparison (o := (sign "=", .eq)) isVariable_x (by decide) hliteral hdata
  · exact evaluate_comparison (o := (sign "<", .lt)) isVariable_x (by decide) hliteral hdata

end Expr

end Verdict
