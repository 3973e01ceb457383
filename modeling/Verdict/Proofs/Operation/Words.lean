import Verdict.Proofs.Number.Words
import Verdict.Proofs.Operation.Typing

/-!
# The operators on words

Two integers of one kind are two words of one width, and the operators work on the words: bit by bit, or as shifts by an
amount that is less than the width. What the word is read as is an integer of the same kind (`words_exact`).
-/

namespace Verdict.Operation

/-- The outcome is the one integer of kind `k` that has the word `w`. -/
def IsWord (k : IntKind) (w : Nat) (o : Outcome) : Prop :=
  ∃ r : Integer, o = .ok (.int r) ∧ r.kind = k ∧ k.Holds r.val ∧ r.code = w ∧
    ∀ s : Integer, s.kind = k → s.code = w → s = r

variable {op : BinaryOp} {k : IntKind} {m n : Integer}

theorem isWord_ofWord (k : IntKind) (w : BitVec k.width) : IsWord k w.toNat (.ok (.int (.ofWord k w))) := by
  have hcode := Integer.code_ofWord k w
  refine ⟨.ofWord k w, rfl, rfl, (Integer.ofWord k w).holds, hcode, fun s hkind hs => ?_⟩
  exact Integer.eq_of_code_eq hkind (hs.trans hcode.symm)

theorem toNat_word_of_kind (hkind : m.kind = n.kind) : (Integer.word m.kind n.val).toNat = n.code := by
  rw [hkind, Integer.toNat_word]

theorem fitting_eq_overflow_iff {r : Option Integer} : fitting op r = .error (.overflow op) ↔ r = none := by
  cases r with
  | none => exact iff_of_true rfl rfl
  | some r => exact iff_of_false nofun nofun

theorem shl_of_amount (hkind : m.kind = n.kind) (hamount : 0 ≤ n.val ∧ n.val < m.kind.width) :
    IsWord m.kind (m.code <<< n.val.toNat % 2 ^ m.kind.width) (BinaryOp.shl.apply (.int m) (.int n)) := by
  rw [BinaryOp.apply, bitwise_integers hkind, onIntegers, Integer.shl?, if_pos hamount, fitting, ← Integer.toNat_word m,
    ← BitVec.toNat_shiftLeft]
  exact isWord_ofWord ..

theorem shr_of_amount (hkind : m.kind = n.kind) (hamount : 0 ≤ n.val ∧ n.val < m.kind.width) :
    ∃ r : Integer, BinaryOp.shr.apply (.int m) (.int n) = .ok (.int r) ∧ r.kind = m.kind ∧ m.kind.Holds r.val ∧
      r.val = m.val.fdiv (2 ^ n.val.toNat) := by
  rw [BinaryOp.apply, bitwise_integers hkind, onIntegers, Integer.shr?, if_pos hamount, fitting]
  exact ⟨_, rfl, rfl, Integer.holds (.ofWord ..), Integer.ofWord_shiftRight m.holds _⟩

/-- **The operators on words.** Bit by bit, an operator gives the integer of the operands' kind with the word that the two
words make. A shift is refused exactly if the amount is no position in the word; else a shift to the left gives the low
bits of the shifted word, and one to the right the floor of the quotient by a power of two. -/
theorem words_exact (hkind : m.kind = n.kind) :
    IsWord m.kind (m.code &&& n.code) (BinaryOp.bitAnd.apply (.int m) (.int n)) ∧
    IsWord m.kind (m.code ||| n.code) (BinaryOp.bitOr.apply (.int m) (.int n)) ∧
    IsWord m.kind (m.code ^^^ n.code) (BinaryOp.bitXor.apply (.int m) (.int n)) ∧
    (∀ op ∈ [BinaryOp.shl, .shr],
      op.apply (.int m) (.int n) = .error (.overflow op) ↔ n.val < 0 ∨ m.kind.width ≤ n.val) ∧
    (0 ≤ n.val → n.val < m.kind.width →
      IsWord m.kind (m.code <<< n.val.toNat % 2 ^ m.kind.width) (BinaryOp.shl.apply (.int m) (.int n)) ∧
      ∃ r : Integer, BinaryOp.shr.apply (.int m) (.int n) = .ok (.int r) ∧ r.kind = m.kind ∧ m.kind.Holds r.val ∧
        r.val = m.val.fdiv (2 ^ n.val.toNat)) := by
  have hm := Integer.toNat_word m
  have hn := toNat_word_of_kind hkind
  refine ⟨?_, ?_, ?_, ?_, ?_⟩
  · rw [BinaryOp.apply, bitwise_integers hkind, ← hm, ← hn, ← BitVec.toNat_and]
    exact isWord_ofWord ..
  · rw [BinaryOp.apply, bitwise_integers hkind, ← hm, ← hn, ← BitVec.toNat_or]
    exact isWord_ofWord ..
  · rw [BinaryOp.apply, bitwise_integers hkind, ← hm, ← hn, ← BitVec.toNat_xor]
    exact isWord_ofWord ..
  · intro op hop
    have hrange : ¬ (0 ≤ n.val ∧ n.val < m.kind.width) ↔ n.val < 0 ∨ m.kind.width ≤ n.val := by omega
    rcases List.mem_pair.mp hop with rfl | rfl
    · rw [BinaryOp.apply, bitwise_integers hkind, onIntegers, fitting_eq_overflow_iff, Integer.shl?_eq_none_iff, hrange]
    · rw [BinaryOp.apply, bitwise_integers hkind, onIntegers, fitting_eq_overflow_iff, Integer.shr?_eq_none_iff, hrange]
  · exact fun hlow hhigh => ⟨shl_of_amount hkind ⟨hlow, hhigh⟩, shr_of_amount hkind ⟨hlow, hhigh⟩⟩

/-- A shift to the left into the sign, and one to the right that keeps it. -/
theorem words_exact_signs :
    let m : Integer := ⟨.int8, -63, by decide, by decide⟩
    let n : Integer := ⟨.int8, 1, by decide, by decide⟩
    m.kind = n.kind ∧ 0 ≤ n.val ∧ n.val < m.kind.width ∧ IsWord m.kind 1 (BinaryOp.bitAnd.apply (.int m) (.int n)) ∧
      IsWord m.kind 130 (BinaryOp.shl.apply (.int m) (.int n)) ∧
      ∃ r : Integer, BinaryOp.shr.apply (.int m) (.int n) = .ok (.int r) ∧ r.val = -32 := by
  intro m n
  have hlow : 0 ≤ n.val := by decide
  have hhigh : n.val < m.kind.width := by decide
  obtain ⟨hand, -, -, -, hshift⟩ := words_exact (m := m) (n := n) rfl
  obtain ⟨hshl, r, hr, -, -, hval⟩ := hshift hlow hhigh
  have hbits : m.code &&& n.code = 1 := by decide
  have hword : m.code <<< n.val.toNat % 2 ^ m.kind.width = 130 := by decide
  exact ⟨rfl, hlow, hhigh, hbits ▸ hand, hword ▸ hshl, r, hr, hval⟩

end Verdict.Operation
