import LinearDispatch.Proofs.NumberOrder

/-!
# The negative of a binary64 number

A negative is computed on the unpacked number, by its sign alone, and then packed into 64 bits
again. That loses nothing, because a number that came out of 64 bits fits into them with either
sign. So a negative stands for the negative point, `point_neg`.
-/

namespace LinearDispatch.Number

open Float.Model (UnpackedFloat Format)
open Float.Model.UnpackedFloat (Sign pack packComponents unpackExponent unpackMantissa unpackSign
  unpackExponent_packComponents unpackMantissa_packComponents)

/-! ## Packing and unpacking -/

/-- A canonical number whose exponent is not above the largest one. -/
structure Fits (u : UnpackedFloat) : Prop where
  canonical : Canonical u
  exponent : ∀ {sign mantissa exponent h}, u = .finite sign mantissa exponent h → exponent ≤ 971

theorem fits_unpackBits (b : BitVec Format.binary64.numBits) :
    Fits (UnpackedFloat.unpack .binary64 b) := by
  refine ⟨canonical_unpackBits b, ?_⟩
  intro sign mantissa exponent h unpacked
  have bias : (Format.binary64.exponentBias : Int) = 1023 := rfl
  have width : (Format.binary64.mantissaBitsWithoutImplicit : Int) = 52 := rfl
  have bound : (unpackExponent b).toNat < 2 ^ 11 := (unpackExponent b).isLt
  unfold UnpackedFloat.unpack at unpacked
  dsimp only at unpacked
  split at unpacked
  · split at unpacked <;> cases unpacked
  · next notGreatest =>
      have below : (unpackExponent b).toNat ≠ 2047 := by
        intro greatest
        exact notGreatest (BitVec.eq_of_toNat_eq greatest)
      split at unpacked
      · next zero =>
          have exponent : (unpackExponent b).toNat = 0 := by rw [zero]; rfl
          split at unpacked
          · cases unpacked
          · cases unpacked
            omega
      · cases unpacked
        omega

theorem fits_unpack (x : Float) : Fits (unpack x) :=
  fits_unpackBits x.toModel.toBits.toBitVec

theorem unpackSign_packComponents {spec : Format} {sign : Sign}
    {exponent : BitVec spec.exponentBits} {mantissa : BitVec spec.mantissaBitsWithoutImplicit} :
    unpackSign (packComponents spec sign exponent mantissa) = sign.toBitVec := by
  refine BitVec.eq_of_getLsbD_eq fun i hi => ?_
  have first : i = 0 := by omega
  subst first
  simp [unpackSign, packComponents, BitVec.getLsbD_append, BitVec.getElem_append]

theorem ofBitVec_toBitVec (s : Sign) : Sign.ofBitVec s.toBitVec = s := by
  cases s <;> rfl

/-- With an exponent between the least and the greatest, a mantissa has a leading bit. -/
theorem unpack_normal {sign : Sign} {exponent : BitVec 11} {mantissa : BitVec 52}
    (notLeast : exponent ≠ 0#11) (notGreatest : exponent ≠ -1#11) :
    UnpackedFloat.unpack .binary64 (packComponents .binary64 sign exponent mantissa) =
      .finite sign (2 ^ 52 + mantissa.toNat) (exponent.toNat - 1075) (by positivity) := by
  have leading : (1#1 ++ mantissa).toNat = 2 ^ 52 + mantissa.toNat := by
    rw [BitVec.toNat_append, ← Nat.shiftLeft_add_eq_or_of_lt mantissa.isLt]
    rfl
  unfold UnpackedFloat.unpack
  simp only [unpackExponent_packComponents, unpackMantissa_packComponents,
    unpackSign_packComponents, ofBitVec_toBitVec]
  rw [if_neg notGreatest, if_neg notLeast, UnpackedFloat.finite.injEq]
  exact ⟨rfl, leading, rfl⟩

/-- With the least exponent, a mantissa has no leading bit. -/
theorem unpack_subnormal {sign : Sign} {mantissa : BitVec 52} (positive : 0 < mantissa.toNat) :
    UnpackedFloat.unpack .binary64 (packComponents .binary64 sign 0#11 mantissa) =
      .finite sign mantissa.toNat (-1074) positive := by
  have notZero : mantissa ≠ 0#52 := by
    rintro rfl
    exact absurd positive (Nat.lt_irrefl 0)
  unfold UnpackedFloat.unpack
  simp only [unpackExponent_packComponents, unpackMantissa_packComponents,
    unpackSign_packComponents, ofBitVec_toBitVec]
  rw [if_neg (by decide), if_pos trivial, dif_neg notZero]
  rfl

/-- What is unpacked again is what was packed. -/
theorem unpack_pack {u : UnpackedFloat} (h : Fits u) :
    UnpackedFloat.unpack .binary64 (pack .binary64 u) = u := by
  cases u with
  | notANumber => rfl
  | infinity sign => cases sign <;> rfl
  | zero sign => cases sign <;> rfl
  | finite sign m e hm =>
      obtain ⟨small, least, normal⟩ := h.canonical
      have greatest := h.exponent rfl
      have biased : (e + (Format.binary64.exponentBias : Int) +
          (Format.binary64.mantissaBitsWithoutImplicit : Int)).toNat = (e + 1075).toNat := by
        rw [show (Format.binary64.exponentBias : Int) = 1023 from rfl,
          show (Format.binary64.mantissaBitsWithoutImplicit : Int) = 52 from rfl]
        omega
      have roomy : ¬2 ^ Format.binary64.exponentBits ≤ (e + 1075).toNat + 1 := by
        rw [show Format.binary64.exponentBits = 11 from rfl]
        omega
      unfold pack
      dsimp only
      rw [biased, if_neg roomy]
      by_cases leading : 2 ^ 52 ≤ m
      · have bits : m.log2 + 1 = Format.binary64.mantissaBits := by
          rw [(Nat.log2_eq_iff (by omega)).2 ⟨leading, small⟩]
          rfl
        have exponent : (BitVec.ofNat 11 (e + 1075).toNat).toNat = (e + 1075).toNat := by
          rw [BitVec.toNat_ofNat]
          omega
        have mantissa : (BitVec.ofNat 52 m).toNat = m - 2 ^ 52 := by
          rw [BitVec.toNat_ofNat]
          omega
        rw [if_pos bits, unpack_normal, UnpackedFloat.finite.injEq]
        · refine ⟨rfl, ?_, ?_⟩ <;> omega
        · intro zero
          rw [zero] at exponent
          have : (0#11).toNat = 0 := rfl
          omega
        · intro greatest
          rw [greatest] at exponent
          have : (-1#11).toNat = 2047 := rfl
          omega
      · have bits : ¬m.log2 + 1 = Format.binary64.mantissaBits := by
          have := (Nat.log2_lt (by omega)).2 (not_le.1 leading)
          rw [show Format.binary64.mantissaBits = 53 from rfl]
          omega
        have mantissa : (BitVec.ofNat 52 m).toNat = m := by
          rw [BitVec.toNat_ofNat]
          omega
        have exponent : e = -1074 := by
          by_contra above
          exact leading (normal (by omega))
        rw [if_neg bits]
        refine (unpack_subnormal (by rw [mantissa]; exact hm)).trans ?_
        rw [UnpackedFloat.finite.injEq]
        exact ⟨rfl, mantissa, exponent.symm⟩

/-! ## The negative -/

theorem Fits.neg {u : UnpackedFloat} (h : Fits u) : Fits u.neg := by
  cases u with
  | notANumber => exact h
  | infinity sign => exact ⟨trivial, nofun⟩
  | zero sign => exact ⟨trivial, nofun⟩
  | finite sign m e hm =>
      refine ⟨h.canonical, ?_⟩
      intro sign m e h' unpacked
      cases unpacked
      exact h.exponent rfl

theorem pointOf_neg (u : UnpackedFloat) : pointOf u.neg = (pointOf u).map (- ·) := by
  cases u with
  | notANumber => rfl
  | infinity sign =>
      cases sign with
      | positive => exact congrArg some EReal.neg_top.symm
      | negative => exact congrArg some EReal.neg_bot.symm
  | zero sign =>
      show some ((0 : ℝ) : EReal) = some (-((0 : ℝ) : EReal))
      rw [← EReal.coe_neg, neg_zero]
  | finite sign m e hm =>
      cases sign with
      | positive => exact congrArg some (EReal.coe_neg _)
      | negative =>
          show some ((magnitude m e : ℝ) : EReal) = some (-((-magnitude m e : ℝ) : EReal))
          rw [← EReal.coe_neg, neg_neg]

theorem point_neg (x : Float) : point (-x) = (point x).map (- ·) := by
  have negated : unpack (-x) = UnpackedFloat.unpack .binary64 (pack .binary64 (unpack x).neg) := rfl
  unfold point
  rw [negated, unpack_pack (fits_unpack x).neg, pointOf_neg]

theorem isInf_neg (x : Float) : (-x).isInf = x.isInf := by
  have negated : (-x).isInf =
      (UnpackedFloat.unpack .binary64 (pack .binary64 (unpack x).neg)).isInf := rfl
  have status : x.isInf = (unpack x).isInf := rfl
  rw [negated, status, unpack_pack (fits_unpack x).neg]
  cases unpack x <;> rfl

end LinearDispatch.Number
