import Mathlib.Data.List.Basic

/-!
# Texts in the order of their bytes

Texts are ordered by the code points of their characters, and their bytes in UTF-8 have the same order
(`lt_iff_bytes_lt`): where two characters differ, the bytes of the smaller one are less at the first place where these
differ, be they more or fewer than those of the other.
-/

namespace Verdict.Text

/-- The bytes of a text in UTF-8. -/
def bytes (s : String) : List UInt8 := s.toUTF8.data.toList

theorem bytes_eq (s : String) : bytes s = s.toList.flatMap String.utf8EncodeChar := by
  rw [bytes, String.toUTF8_eq_toByteArray, ← String.utf8Encode_toList]
  exact List.toList_data_toByteArray

/-- At the first place where two rows of bytes differ, both go on and the first one is less. -/
inductive Below : List UInt8 → List UInt8 → Prop
  | head {a b : UInt8} {as bs : List UInt8} (h : a < b) : Below (a :: as) (b :: bs)
  | tail {a : UInt8} {as bs : List UInt8} (h : Below as bs) : Below (a :: as) (a :: bs)

theorem Below.append_lt {as bs : List UInt8} (h : Below as bs) (cs ds : List UInt8) : as ++ cs < bs ++ ds := by
  induction h with
  | head h => exact List.cons_lt_cons_iff.mpr (.inl h)
  | tail _ ih => exact List.cons_lt_cons_iff.mpr (.inr ⟨rfl, ih⟩)

/-! ## One character -/

theorem ofNat_lt {m n : Nat} (h : m < n) (hn : n < 256) : UInt8.ofNat m < UInt8.ofNat n := by
  rw [UInt8.lt_iff_toNat_lt, UInt8.toNat_ofNat', UInt8.toNat_ofNat', Nat.mod_eq_of_lt (Nat.lt_trans h hn),
    Nat.mod_eq_of_lt hn]
  exact h

theorem Below.ofNat {m n : Nat} {as bs : List UInt8} (hn : n < 256) (hle : m ≤ n) (h : m = n → Below as bs) :
    Below (.ofNat m :: as) (.ofNat n :: bs) := by
  rcases Nat.eq_or_lt_of_le hle with rfl | hlt
  · exact .tail (h rfl)
  · exact .head (ofNat_lt hlt hn)

theorem below_utf8EncodeChar {c d : Char} (h : c < d) : Below (String.utf8EncodeChar c) (String.utf8EncodeChar d) := by
  have hlt : c.val.toNat < d.val.toNat := h
  have hd : d.val.toNat < 0x110000 := by
    have := d.valid
    simp only [UInt32.isValidChar, Nat.isValidChar] at this
    omega
  unfold String.utf8EncodeChar
  generalize c.val.toNat = m at hlt
  generalize d.val.toNat = n at hlt hd
  dsimp only
  split_ifs
  -- A character of more bytes begins with a greater one. Among those of as many the first group of bits decides that differs.
  all_goals first
    | omega
    | exact .head (ofNat_lt (by omega) (by omega))
    | skip
  · exact .ofNat (by omega) (by omega) fun _ => .ofNat (by omega) (by omega) fun _ => by omega
  · refine .ofNat (by omega) (by omega) fun _ => .ofNat (by omega) (by omega) fun _ => ?_
    exact .ofNat (by omega) (by omega) fun _ => by omega
  · refine .ofNat (by omega) (by omega) fun _ => .ofNat (by omega) (by omega) fun _ => ?_
    exact .ofNat (by omega) (by omega) fun _ => .ofNat (by omega) (by omega) fun _ => by omega

/-! ## Texts -/

theorem flatMap_lt {cs ds : List Char} (h : cs < ds) :
    cs.flatMap String.utf8EncodeChar < ds.flatMap String.utf8EncodeChar := by
  induction cs generalizing ds with
  | nil =>
    cases ds with
    | nil => exact absurd h (List.lt_irrefl _)
    | cons d ds =>
      obtain ⟨b, bs, hb⟩ := List.exists_cons_of_ne_nil (String.utf8EncodeChar_ne_nil (c := d))
      rw [List.flatMap_nil, List.flatMap_cons, hb]
      exact List.nil_lt_cons _ _
  | cons c cs ih =>
    cases ds with
    | nil => exact absurd h (List.not_lt_nil _)
    | cons d ds =>
      rw [List.flatMap_cons, List.flatMap_cons]
      rcases List.cons_lt_cons_iff.mp h with hlt | ⟨rfl, hrest⟩
      · exact (below_utf8EncodeChar hlt).append_lt _ _
      · exact List.append_left_lt (ih hrest)

theorem bytes_lt {s t : String} (h : s < t) : bytes s < bytes t := by
  rw [bytes_eq, bytes_eq]
  exact flatMap_lt h

/-- **Texts are in the order of their bytes.** -/
theorem lt_iff_bytes_lt {s t : String} : s < t ↔ bytes s < bytes t := by
  refine ⟨bytes_lt, fun h => ?_⟩
  by_contra hnot
  rcases Std.le_iff_lt_or_eq.mp (String.not_lt.mp hnot) with hlt | rfl
  · exact List.lt_asymm h (bytes_lt hlt)
  · exact List.lt_irrefl _ h

end Verdict.Text
