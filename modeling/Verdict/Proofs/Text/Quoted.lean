import Mathlib.Data.List.Basic
import Verdict.Proofs.Token.Words
import Verdict.Text.Quoted

/-!
# Quoted texts end where they end

Each character of a quoted text can be read back from what is written for it, whatever follows (`unquoteChar?_quoteChar`).
So what stands behind a quoted text can be told from it, and two texts that are quoted alike are one text
(`quote_append_inj`).
-/

namespace Verdict.Text

/-- The number of some hexadecimal digits. -/
def codeOf (ds : List Char) : Nat := ds.foldl (fun n d => n * 16 + (CodeSet.hexDigit? d).getD 0) 0

/-- The character that a letter behind a backslash stands for. -/
def unescape (e : Char) : Char :=
  match e with
  | '0' => '\x00'
  | 't' => '\t'
  | 'r' => '\r'
  | 'n' => '\n'
  | e => e

/-- Reads back one character of a quoted text, where that is not at its end. -/
def unquoteChar? : List Char → Option (Char × List Char)
  | [] | '"' :: _ => none
  | '\\' :: 'u' :: '{' :: cs =>
    some (.ofNat (codeOf (cs.takeWhile (· != '}'))), (cs.dropWhile (· != '}')).drop 1)
  | '\\' :: e :: cs => some (unescape e, cs)
  | c :: cs => some (c, cs)

variable {c : Char} {cs ds rest rest' : List Char}

/-! ## Escapes by number -/

theorem hexDigit?_digitChar : ∀ n < 16, CodeSet.hexDigit? (Nat.digitChar n) = some n := by
  decide

theorem codeOf_toDigits (n : Nat) : codeOf (Nat.toDigits 16 n) = n := by
  induction n using Nat.strong_induction_on with
  | _ n ih =>
    rcases Nat.lt_or_ge n 16 with h | h
    · rw [Nat.toDigits_of_lt_base h, codeOf, List.foldl_cons, List.foldl_nil, hexDigit?_digitChar n h]
      exact Nat.zero_add n
    · have hlast := hexDigit?_digitChar (n % 16) (Nat.mod_lt n (by decide))
      rw [Nat.toDigits_of_base_le (by decide) h, codeOf, List.foldl_append, List.foldl_cons, List.foldl_nil, hlast]
      show codeOf (Nat.toDigits 16 (n / 16)) * 16 + n % 16 = n
      rw [ih (n / 16) (Nat.div_lt_self (by omega) (by decide))]
      exact Nat.div_add_mod' n 16

theorem brace_notMem_toDigits (n : Nat) : '}' ∉ Nat.toDigits 16 n := by
  have hdigit : ∀ k < 16, '}' ≠ Nat.digitChar k := by decide
  induction n using Nat.strong_induction_on with
  | _ n ih =>
    rcases Nat.lt_or_ge n 16 with h | h
    · rw [Nat.toDigits_of_lt_base h, List.mem_singleton]
      exact hdigit n h
    · rw [Nat.toDigits_of_base_le (by decide) h, List.mem_append, List.mem_singleton, not_or]
      exact ⟨ih (n / 16) (Nat.div_lt_self (by omega) (by decide)), hdigit _ (Nat.mod_lt n (by decide))⟩

theorem unquoteChar?_codeEscape (c : Char) (rest : List Char) : unquoteChar? (codeEscape c ++ rest) = some (c, rest) := by
  have hdigits : ∀ d ∈ Nat.toDigits 16 c.toNat, (d != '}') = true := by
    intro d hd
    rw [bne_iff_ne]
    rintro rfl
    exact brace_notMem_toDigits _ hd
  have hsplit : codeEscape c ++ rest = '\\' :: 'u' :: '{' :: (Nat.toDigits 16 c.toNat ++ '}' :: rest) := by
    simp [codeEscape]
  rw [hsplit, unquoteChar?, takeWhile_run hdigits rfl, dropWhile_run hdigits rfl, codeOf_toDigits, Char.ofNat_toNat]
  rfl

/-! ## Characters and texts -/

theorem unquoteChar?_plain (hquote : c ≠ '"') (hslash : c ≠ '\\') (rest : List Char) :
    unquoteChar? (c :: rest) = some (c, rest) := by
  rw [unquoteChar?.eq_def]
  split <;> simp_all

theorem unquoteChar?_quoteChar (c : Char) (rest : List Char) : unquoteChar? (quoteChar c ++ rest) = some (c, rest) := by
  unfold quoteChar
  split
  · rfl
  · rfl
  · rfl
  · rfl
  · rfl
  · rfl
  · next hquote hslash =>
    have hplain : unquoteChar? ([c] ++ rest) = some (c, rest) := unquoteChar?_plain hquote hslash rest
    have hcode := unquoteChar?_codeEscape c rest
    split_ifs
    · exact hplain
    · exact hcode
    · exact hcode
    · exact hplain

theorem quoted_append_inj (h : cs.flatMap quoteChar ++ '"' :: rest = ds.flatMap quoteChar ++ '"' :: rest') :
    cs = ds ∧ rest = rest' := by
  induction cs generalizing ds with
  | nil =>
    cases ds with
    | nil => exact ⟨rfl, (List.cons.inj h).2⟩
    | cons d ds =>
      -- at the closing quote no character is read back
      have hread := congrArg unquoteChar? h
      rw [List.flatMap_cons, List.append_assoc, unquoteChar?_quoteChar] at hread
      cases hread
  | cons c cs ih =>
    have hread := congrArg unquoteChar? h
    rw [List.flatMap_cons, List.append_assoc, unquoteChar?_quoteChar] at hread
    cases ds with
    | nil => cases hread
    | cons d ds =>
      rw [List.flatMap_cons, List.append_assoc, unquoteChar?_quoteChar] at hread
      obtain ⟨rfl, htail⟩ := Prod.mk.inj (Option.some.inj hread)
      obtain ⟨rfl, hrest⟩ := ih htail
      exact ⟨rfl, hrest⟩

/-- A quoted text ends at its last quote. -/
theorem quote_append_inj (h : quote cs ++ rest = quote ds ++ rest') : cs = ds ∧ rest = rest' := by
  rw [quote, quote, List.cons_append, List.cons_append, List.append_assoc, List.append_assoc] at h
  exact quoted_append_inj (List.cons.inj h).2

end Verdict.Text
