import Mathlib
import Verdict.Proofs.Number.Rounding

/-!
# Doubles and their parts

A finite double is zero or a canonical mantissa and exponent with a sign, from which its word is packed
(`unpack_cases`), and which are unpacked from the word again (`unpack_pack`). The proofs go over the three fields of a word.
-/

namespace Verdict.Rounding

open Float.Model Float.Model.UnpackedFloat

/-! ## Fields -/

section fields

variable {f : Format}

theorem sign_ofBitVec_toBitVec (s : Sign) : Sign.ofBitVec s.toBitVec = s := by
  cases s <;> rfl

theorem sign_toBitVec_ofBitVec (b : BitVec 1) : (Sign.ofBitVec b).toBitVec = b := by
  unfold Sign.ofBitVec
  split
  · next h => exact h.symm
  · next h =>
    have hne : b.toNat ≠ 0 := fun h0 => h (BitVec.eq_of_toNat_eq h0)
    have hlt := b.isLt
    apply BitVec.eq_of_toNat_eq
    show 1 = b.toNat
    omega

theorem unpackSign_packComponents (s : Sign) (e : BitVec f.exponentBits) (m : BitVec f.mantissaBitsWithoutImplicit) :
    unpackSign (packComponents f s e m) = s.toBitVec := by
  apply BitVec.eq_of_getLsbD_eq
  intro i hi
  obtain rfl : i = 0 := by omega
  simp only [unpackSign, packComponents, BitVec.getLsbD_cast, BitVec.getLsbD_extractLsb, Nat.add_zero, Nat.sub_self,
    Nat.zero_add, Nat.lt_one_iff, decide_true, Bool.true_and, BitVec.getLsbD_append]
  rw [if_neg (by omega), if_neg (by omega)]
  congr 1
  omega

theorem packComponents_unpack (b : BitVec f.numBits) :
    packComponents f (.ofBitVec (unpackSign b)) (unpackExponent b) (unpackMantissa b) = b := by
  have hm := f.hm
  have he := f.he
  unfold packComponents
  rw [sign_toBitVec_ofBitVec]
  apply BitVec.eq_of_getLsbD_eq
  intro i hi
  simp only [unpackSign, unpackExponent, unpackMantissa, BitVec.getLsbD_append, BitVec.getLsbD_cast,
    BitVec.getLsbD_extractLsb, Nat.zero_add]
  by_cases hlow : i < f.mantissaBitsWithoutImplicit
  · simp [hlow]
    omega
  · have hi' : f.mantissaBitsWithoutImplicit + (i - f.mantissaBitsWithoutImplicit) = i := by omega
    by_cases hmid : i - f.mantissaBitsWithoutImplicit < f.exponentBits
    · simp [hlow, hmid, hi']
      omega
    · have hi'' : f.mantissaBitsWithoutImplicit + f.exponentBits +
          (i - f.mantissaBitsWithoutImplicit - f.exponentBits) = i := by omega
      simp [hlow, hmid, hi'']
      omega

theorem unpack_packComponents (s : Sign) (e : BitVec f.exponentBits) (m : BitVec f.mantissaBitsWithoutImplicit) :
    UnpackedFloat.unpack f (packComponents f s e m) =
      if e = -1#_ then if m = 0#_ then .infinity s else .notANumber
      else if e = 0#_ then
        if h : m = 0#_ then .zero s
        else .finite s m.toNat (e.toNat - (f.exponentBias + f.mantissaBitsWithoutImplicit) + 1)
          (by simpa [BitVec.toNat_pos, BitVec.pos_iff_ne_zero])
      else .finite s (1#1 ++ m).toNat (e.toNat - (f.exponentBias + f.mantissaBitsWithoutImplicit)) (by simp) := by
  unfold UnpackedFloat.unpack
  simp only [unpackMantissa_packComponents, unpackExponent_packComponents, unpackSign_packComponents,
    sign_ofBitVec_toBitVec]

theorem toNat_implicit {n : Nat} (m : BitVec n) : (1#1 ++ m).toNat = 2 ^ n + m.toNat := by
  rw [BitVec.toNat_append, ← Nat.shiftLeft_add_eq_or_of_lt m.isLt, Nat.shiftLeft_eq]
  simp

theorem isNaN_unpack_pack {u : UnpackedFloat} (hu : u.isNaN = false) :
    (UnpackedFloat.unpack f (UnpackedFloat.pack f u)).isNaN = false := by
  have hones : (0#f.exponentBits) ≠ -1#_ := by
    intro h
    have hnat := congrArg BitVec.toNat h
    have hpow := Nat.pow_lt_pow_right (a := 2) (by decide) f.he
    simp only [BitVec.neg_one_eq_allOnes, BitVec.toNat_allOnes, BitVec.toNat_zero] at hnat
    omega
  have hinfinity (s : Sign) : (UnpackedFloat.unpack f (packedInfinity f s)).isNaN = false := by
    rw [packedInfinity, unpack_packComponents, if_pos rfl]
    exact congrArg _ (if_pos rfl)
  have hother (s : Sign) {e : BitVec f.exponentBits} (he : e ≠ -1#_) (m : BitVec f.mantissaBitsWithoutImplicit) :
      (UnpackedFloat.unpack f (packComponents f s e m)).isNaN = false := by
    rw [unpack_packComponents, if_neg he]
    split
    · split <;> rfl
    · rfl
  cases u with
  | notANumber => cases hu
  | infinity s => exact hinfinity s
  | zero s => exact hother s hones 0
  | finite s m e hm =>
    unfold UnpackedFloat.pack
    dsimp only
    split
    · exact hinfinity s
    · next hfits =>
      split
      · refine hother s ?_ _
        intro h
        have hnat := congrArg BitVec.toNat h
        simp only [BitVec.neg_one_eq_allOnes, BitVec.toNat_allOnes, BitVec.toNat_ofNat] at hnat
        rw [Nat.mod_eq_of_lt (by omega)] at hnat
        omega
      · exact hother s hones _

end fields

/-! ## Finite doubles -/

/-- A double of a canonical mantissa and exponent that is not too great. -/
structure Fits (m : Nat) (e : Int) : Prop extends Canonical m e where
  le_most : e ≤ 971

theorem pack_subnormal (s : Sign) {m : Nat} (hpos : 0 < m) (hm : m < 2 ^ 52) :
    UnpackedFloat.pack Format.binary64 (.finite s m (-1074) hpos) =
      packComponents Format.binary64 s 0#11 (BitVec.ofNat 52 m) := by
  have hlog : m.log2 < 52 := (Nat.log2_lt hpos.ne').mpr hm
  have hnot : ¬ m.log2 + 1 = Format.binary64.mantissaBits := by
    show ¬ m.log2 + 1 = 53
    omega
  unfold UnpackedFloat.pack
  dsimp only
  rw [if_neg (by decide), if_neg hnot]

theorem pack_normal (s : Sign) {m : Nat} {e : Int} (h : Fits m e) (hm : 2 ^ 52 ≤ m) :
    UnpackedFloat.pack Format.binary64 (.finite s m e h.pos) =
      packComponents Format.binary64 s (BitVec.ofNat 11 (e + 1075).toNat) (BitVec.ofNat 52 m) := by
  have hlog : m.log2 < 53 := (Nat.log2_lt h.pos.ne').mpr h.lt
  have hlog' : 52 ≤ m.log2 := (Nat.le_log2 h.pos.ne').mpr hm
  have hbits : m.log2 + 1 = Format.binary64.mantissaBits := by
    show m.log2 + 1 = 53
    omega
  have hle := h.least_le
  have hle' := h.le_most
  have hbias : e + (Format.exponentBias Format.binary64 : Int) + (Format.binary64.mantissaBitsWithoutImplicit : Int) =
      e + 1075 := by
    show e + 1023 + 52 = e + 1075
    omega
  have hfits : ¬ 2 ^ Format.binary64.exponentBits ≤ (e + 1075).toNat + 1 := by
    show ¬ 2048 ≤ (e + 1075).toNat + 1
    omega
  unfold UnpackedFloat.pack
  dsimp only
  rw [hbias, if_neg hfits, if_pos hbits]

theorem unpack_pack (s : Sign) {m : Nat} {e : Int} (h : Fits m e) :
    UnpackedFloat.unpack Format.binary64 (UnpackedFloat.pack Format.binary64 (.finite s m e h.pos)) =
      .finite s m e h.pos := by
  have hlt := h.lt
  have hle := h.least_le
  have hle' := h.le_most
  by_cases hm : 2 ^ 52 ≤ m
  · have hexp : (BitVec.ofNat 11 (e + 1075).toNat).toNat = (e + 1075).toNat := by
      rw [BitVec.toNat_ofNat, Nat.mod_eq_of_lt (by omega)]
    have hzero : BitVec.ofNat 11 (e + 1075).toNat ≠ 0#11 := by
      intro h0
      rw [h0] at hexp
      simp only [BitVec.toNat_zero] at hexp
      omega
    have hones : BitVec.ofNat 11 (e + 1075).toNat ≠ -1#11 := by
      intro h1
      rw [h1] at hexp
      have : (-1#11 : BitVec 11).toNat = 2047 := by decide
      omega
    rw [pack_normal s h hm, unpack_packComponents, if_neg hones, if_neg hzero]
    simp only [finite.injEq, true_and]
    refine ⟨?_, ?_⟩
    · rw [toNat_implicit, BitVec.toNat_ofNat]
      omega
    · show ((BitVec.ofNat 11 (e + 1075).toNat).toNat : Int) - (1023 + 52) = e
      omega
  · obtain rfl : e = -1074 := h.normal.resolve_left hm
    have hzero : BitVec.ofNat 52 m ≠ 0#52 := by
      intro h0
      have hm0 := congrArg BitVec.toNat h0
      have hpos := h.pos
      simp only [BitVec.toNat_ofNat] at hm0
      omega
    rw [pack_subnormal s h.pos (by omega), unpack_packComponents, if_neg (by decide), if_pos rfl, dif_neg hzero]
    simp only [finite.injEq, true_and]
    refine ⟨?_, ?_⟩
    · rw [BitVec.toNat_ofNat]
      omega
    · rfl

theorem unpack_pack_zero (s : Sign) :
    UnpackedFloat.unpack Format.binary64 (UnpackedFloat.pack Format.binary64 (.zero s)) = .zero s := by
  show UnpackedFloat.unpack Format.binary64 (packComponents Format.binary64 s 0 0) = _
  rw [unpack_packComponents]
  rfl

/-- What a finite double is unpacked to, and that its word is packed from that. -/
theorem unpack_cases {b : BitVec Format.binary64.numBits} (h : (UnpackedFloat.unpack Format.binary64 b).isFinite = true) :
    (∃ s, UnpackedFloat.unpack Format.binary64 b = .zero s ∧ UnpackedFloat.pack Format.binary64 (.zero s) = b) ∨
      ∃ s m e, ∃ hf : Fits m e, UnpackedFloat.unpack Format.binary64 b = .finite s m e hf.pos ∧
        UnpackedFloat.pack Format.binary64 (.finite s m e hf.pos) = b := by
  generalize hs : Sign.ofBitVec (unpackSign b) = s
  generalize he : unpackExponent b = e
  generalize hm : unpackMantissa b = m
  have hb := packComponents_unpack b
  rw [hs, he, hm] at hb
  subst hb
  have hmlt : m.toNat < 2 ^ 52 := m.isLt
  rw [unpack_packComponents] at h ⊢
  by_cases hones : e = -1#_
  · rw [if_pos hones] at h
    split at h <;> cases h
  · rw [if_neg hones] at h ⊢
    by_cases hzero : e = 0#_
    · subst hzero
      rw [if_pos rfl] at h ⊢
      by_cases hm0 : m = 0#_
      · rw [dif_pos hm0]
        subst hm0
        exact .inl ⟨s, rfl, rfl⟩
      · have hpos : 0 < m.toNat := Nat.pos_of_ne_zero fun h0 => hm0 (BitVec.eq_of_toNat_eq h0)
        have hfits : Fits m.toNat (-1074) := ⟨⟨hpos, by omega, by omega, .inr rfl⟩, by omega⟩
        rw [dif_neg hm0]
        refine .inr ⟨s, m.toNat, -1074, hfits, rfl, ?_⟩
        rw [pack_subnormal s hpos hmlt]
        congr 1
        exact BitVec.ofNat_toNat _ _ ▸ rfl
    · rw [if_neg hzero]
      have hexp : 0 < e.toNat ∧ e.toNat < 2047 := by
        constructor
        · exact Nat.pos_of_ne_zero fun h0 => hzero (BitVec.eq_of_toNat_eq h0)
        · have helt : e.toNat < 2048 := e.isLt
          have hne : e.toNat ≠ 2047 := fun h1 => hones (BitVec.eq_of_toNat_eq (h1.trans (by decide)))
          omega
      have hfits : Fits (2 ^ 52 + m.toNat) (e.toNat - 1075) := ⟨⟨by omega, by omega, by omega, .inl (by omega)⟩, by omega⟩
      refine .inr ⟨s, 2 ^ 52 + m.toNat, e.toNat - 1075, hfits, ?_, ?_⟩
      · simp only [finite.injEq, true_and]
        exact ⟨toNat_implicit m, rfl⟩
      · rw [pack_normal s hfits (by omega)]
        congr 1
        · apply BitVec.eq_of_toNat_eq
          rw [BitVec.toNat_ofNat]
          omega
        · apply BitVec.eq_of_toNat_eq
          rw [BitVec.toNat_ofNat]
          omega

end Verdict.Rounding
