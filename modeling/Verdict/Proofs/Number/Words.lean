import Verdict.Proofs.Number.Kinds

/-!
# The words of integers

An integer of a kind and its two's complement word say the same: the word of a number is the number modulo a power of two
(`Integer.code`), reading it in the kind gives the number back (`ofWord_word`), and every word is read as a number of the
kind. So an integer of a kind is told by its word (`eq_of_code_eq`).
-/

namespace Verdict

variable {k : IntKind} {a : Int}

namespace IntKind

theorem width_pos (k : IntKind) : 0 < k.width := by
  cases k <;> decide

theorem holds_iff_of_signed (h : k.signed = true) : k.Holds a ↔ -2 ^ (k.width - 1) ≤ a ∧ a < 2 ^ (k.width - 1) := by
  unfold Holds min max
  rw [if_pos h, if_pos h, Int.le_sub_one_iff]
  norm_cast

theorem holds_iff_of_unsigned (h : k.signed = false) : k.Holds a ↔ 0 ≤ a ∧ a < 2 ^ k.width := by
  unfold Holds min max
  rw [h, if_neg Bool.false_ne_true, if_neg Bool.false_ne_true, Int.le_sub_one_iff]
  norm_cast

end IntKind

namespace Integer

/-- The two's complement word of an integer, as a natural number. -/
def code (n : Integer) : Nat := (n.val % 2 ^ n.kind.width).toNat

theorem toNat_word (n : Integer) : (word n.kind n.val).toNat = n.code := by
  rw [word, BitVec.toNat_ofInt, code, Int.natCast_pow]
  rfl

theorem word_ofWord (k : IntKind) (w : BitVec k.width) : word k (k.ofWord w) = w := by
  unfold word IntKind.ofWord
  split
  · exact BitVec.ofInt_toInt
  · rw [BitVec.ofInt_natCast, BitVec.ofNat_toNat, BitVec.setWidth_eq]

theorem code_ofWord (k : IntKind) (w : BitVec k.width) : (ofWord k w).code = w.toNat := by
  rw [← toNat_word]
  exact congrArg BitVec.toNat (word_ofWord k w)

theorem ofWord_word (h : k.Holds a) : k.ofWord (word k a) = a := by
  unfold word IntKind.ofWord
  cases hsigned : k.signed with
  | true =>
    obtain ⟨hlow, hhigh⟩ := (IntKind.holds_iff_of_signed hsigned).mp h
    rw [if_pos rfl]
    exact BitVec.toInt_ofInt_eq_self k.width_pos hlow hhigh
  | false =>
    obtain ⟨hlow, hhigh⟩ := (IntKind.holds_iff_of_unsigned hsigned).mp h
    rw [if_neg Bool.false_ne_true, BitVec.toNat_ofInt, Int.natCast_pow, Nat.cast_ofNat,
      Int.emod_eq_of_lt hlow hhigh, Int.toNat_of_nonneg hlow]

theorem eq_of_code_eq {m n : Integer} (hkind : m.kind = n.kind) (h : m.code = n.code) : m = n := by
  obtain ⟨k, a, hmin, hmax⟩ := m
  obtain ⟨k', b, hmin', hmax'⟩ := n
  obtain rfl : k = k' := hkind
  have hword : word k a = word k b := by
    apply BitVec.eq_of_toNat_eq
    rw [toNat_word ⟨k, a, hmin, hmax⟩, toNat_word ⟨k, b, hmin', hmax'⟩, h]
  have hval : a = b := by rw [← ofWord_word ⟨hmin, hmax⟩, hword, ofWord_word ⟨hmin', hmax'⟩]
  subst hval
  rfl

/-- A word shifted to the right, with the sign filled in for a signed kind, is the floor of a quotient. -/
theorem ofWord_shiftRight (h : k.Holds a) (s : Nat) :
    k.ofWord (if k.signed then (word k a).sshiftRight s else word k a >>> s) = a.fdiv (2 ^ s) := by
  have hread := ofWord_word h
  rw [Int.fdiv_eq_ediv_of_nonneg _ (pow_nonneg (by decide) s)]
  unfold IntKind.ofWord at *
  cases hsigned : k.signed with
  | true =>
    rw [hsigned, if_pos rfl] at hread
    rw [if_pos rfl, if_pos rfl, BitVec.toInt_sshiftRight, hread, Int.shiftRight_eq_div_pow]
    norm_cast
  | false =>
    rw [hsigned, if_neg Bool.false_ne_true] at hread
    rw [if_neg Bool.false_ne_true, if_neg Bool.false_ne_true, BitVec.toNat_ushiftRight, Nat.shiftRight_eq_div_pow,
      Int.natCast_ediv, hread]
    norm_cast

end Integer

end Verdict
