import LinearDispatch.Proofs.NumberNegation

/-!
# Where numbers overflow

Rounding to a binary64 number goes to infinity from one magnitude on: half a unit above the largest
finite number, the half included because that number has an odd mantissa. `overflow` is that
magnitude, and `overflows_round` reads it off the two shifts and the rounding between them that the
arithmetic is made of. Only the exponent in which the shifts end counts, except in the last binade
below: there the round bit decides.

Two conversions come down to it: that of an integer, which fails just if there is no binary64
neighbour, and that of seconds to milliseconds.
-/

namespace LinearDispatch.Number

open Float.Model (UnpackedFloat Format totalExponent)
open Float.Model.UnpackedFloat

/-- From this magnitude on, a number rounds to infinity. -/
@[irreducible] def overflow : ℕ := (2 ^ 54 - 1) * 2 ^ 970

/-! ## Shifts and rounding -/

/-- What an exact mantissa is after a shift: a quotient, and the last bit that was cut off. -/
theorem shiftRight_exact (m k : ℕ) :
    ((ExtendedMantissa.mk m false false) >>> k).mantissa = m / 2 ^ k ∧
      ((ExtendedMantissa.mk m false false) >>> k).roundBit =
        (k != 0 && m / 2 ^ (k - 1) % 2 != 0) := by
  induction k with
  | zero => exact ⟨(Nat.div_one m).symm, rfl⟩
  | succ k ih =>
      have step : (ExtendedMantissa.mk m false false) >>> (k + 1) =
          ((ExtendedMantissa.mk m false false) >>> k).shiftRightOne := rfl
      rw [step]
      unfold ExtendedMantissa.shiftRightOne
      dsimp only
      rw [ih.1, Nat.div_div_eq_div_mul, ← Nat.pow_succ]
      exact ⟨rfl, rfl⟩

theorem roundedMantissa_le (em : ExtendedMantissa) :
    em.mantissa ≤ em.roundedMantissa ∧ em.roundedMantissa ≤ em.mantissa + 1 := by
  obtain ⟨m, _ | _, _ | _⟩ := em <;>
    simp [ExtendedMantissa.roundedMantissa, ExtendedMantissa.accuracy,
      Accuracy.roundToNearestEven]
  omega

/-- An odd mantissa is rounded up just if the round bit is set. -/
theorem roundedMantissa_of_odd {em : ExtendedMantissa} (odd : em.mantissa % 2 = 1) :
    em.roundedMantissa = em.mantissa + 1 ↔ em.roundBit = true := by
  obtain ⟨m, _ | _, _ | _⟩ := em <;>
    simp_all [ExtendedMantissa.roundedMantissa, ExtendedMantissa.accuracy,
      Accuracy.roundToNearestEven]

/-- The exponent to which a number is rounded. -/
def grid (m : ℕ) (e : ℤ) : ℤ :=
  max (m.log2 + e - 52) (-1074)

theorem targetExponent_eq (m : ℕ) (e : ℤ) :
    Format.binary64.targetExponent (totalExponent m e) = grid m e := by
  have bits : (Format.binary64.mantissaBits : ℤ) = 53 := rfl
  have least : Format.binary64.minExponent = -1074 := rfl
  unfold Format.targetExponent totalExponent grid
  rw [bits, least]
  congr 1
  ring

theorem shift_eq (m : ℕ) (e : ℤ) :
    shiftToTargetExponent .binary64 m e .exact =
      ((ExtendedMantissa.mk m false false) >>> (grid m e - e).toNat,
        e + (grid m e - e).toNat) := by
  unfold shiftToTargetExponent
  rw [targetExponent_eq]
  rfl

/-- A number with few bits is not shifted. -/
theorem shift_short {m : ℕ} {e : ℤ} (short : m < 2 ^ 53) (he : -1074 ≤ e) :
    shiftToTargetExponent .binary64 m e .exact = (⟨m, false, false⟩, e) := by
  have bits : m.log2 ≤ 52 := by
    by_cases zero : m = 0
    · rw [zero]
      decide
    · exact Nat.lt_succ_iff.1 ((Nat.log2_lt zero).2 short)
  have none : (grid m e - e).toNat = 0 := by
    unfold grid
    omega
  rw [shift_eq, none]
  exact Prod.ext rfl (Int.add_zero e)

theorem shift_carry {e : ℤ} (he : -1074 ≤ e) :
    shiftToTargetExponent .binary64 (2 ^ 53) e .exact = (⟨2 ^ 52, false, false⟩, e + 1) := by
  have one : (grid (2 ^ 53) e - e).toNat = 1 := by
    unfold grid
    rw [Nat.log2_two_pow]
    omega
  rw [shift_eq, one]
  rfl

/-- The exponent is not above the one to which the number is rounded, so that rounding only cuts
off. -/
def Placed (m : ℕ) (e : ℤ) : Prop :=
  e ≤ grid m e

/-- The mantissa after the first shift, rounded. -/
def rounded (m : ℕ) (e : ℤ) : ℕ :=
  ((ExtendedMantissa.mk m false false) >>> (grid m e - e).toNat).roundedMantissa

theorem quotient_lt (m : ℕ) (e : ℤ) : m / 2 ^ (grid m e - e).toNat < 2 ^ 53 := by
  rw [Nat.div_lt_iff_lt_mul (by positivity), ← Nat.pow_add]
  have bits : m.log2 + 1 ≤ 53 + (grid m e - e).toNat := by
    unfold grid
    omega
  exact Nat.lt_log2_self.trans_le (Nat.pow_le_pow_right (by decide) bits)

theorem rounded_bounds (m : ℕ) (e : ℤ) :
    m / 2 ^ (grid m e - e).toNat ≤ rounded m e ∧ rounded m e ≤ 2 ^ 53 := by
  have bounds := roundedMantissa_le ((ExtendedMantissa.mk m false false) >>> (grid m e - e).toNat)
  rw [(shiftRight_exact m _).1] at bounds
  exact ⟨bounds.1, bounds.2.trans (quotient_lt m e)⟩

/-- Rounding gives zero, the mantissa after the first shift, or that mantissa after a carry. -/
theorem roundWithAccuracy_eq (s : Sign) {m : ℕ} {e : ℤ} (placed : Placed m e) :
    roundWithAccuracy .binary64 s m e .exact =
      if h : rounded m e = 0 then .zero s
      else if rounded m e < 2 ^ 53 then .finite s (rounded m e) (grid m e) (Nat.pos_of_ne_zero h)
      else .finite s (2 ^ 52) (grid m e + 1) (by decide) := by
  have least : -1074 ≤ grid m e := le_max_right _ _
  have first : shiftToTargetExponent .binary64 m e .exact =
      ((ExtendedMantissa.mk m false false) >>> (grid m e - e).toNat, grid m e) := by
    have exponent : e + (grid m e - e).toNat = grid m e := by
      unfold Placed at placed
      omega
    rw [shift_eq, exponent]
  unfold roundWithAccuracy
  rw [first]
  dsimp only
  rw [show ((ExtendedMantissa.mk m false false) >>> (grid m e - e).toNat).roundedMantissa =
    rounded m e from rfl]
  by_cases short : rounded m e < 2 ^ 53
  · rw [shift_short short least]
    simp only [short, if_true]
  · have carry : rounded m e = 2 ^ 53 := by
      have := (rounded_bounds m e).2
      omega
    rw [carry, shift_carry least]
    rfl

/-- Above the least exponent the mantissa fills all its bits. -/
theorem rounded_normal {m : ℕ} {e : ℤ} (hm : 0 < m) (placed : Placed m e)
    (normal : -1074 < grid m e) : 2 ^ 52 ≤ rounded m e := by
  refine le_trans ?_ (rounded_bounds m e).1
  rw [Nat.le_div_iff_mul_le (by positivity), ← Nat.pow_add]
  have bits : 52 + (grid m e - e).toNat = m.log2 := by
    unfold Placed grid at *
    omega
  rw [bits]
  exact Nat.log2_self_le hm.ne'

/-! ## Overflow -/

/-- The exponent does not fit: such a number is packed as an infinity. -/
def Overflows : UnpackedFloat → Prop
  | .infinity _ => True
  | .finite _ _ e _ => 972 ≤ e
  | _ => False

theorem overflows_roundWithAccuracy (s : Sign) {m : ℕ} {e : ℤ} (hm : 0 < m) (placed : Placed m e) :
    Overflows (roundWithAccuracy .binary64 s m e .exact) ↔
      972 ≤ grid m e ∨ grid m e = 971 ∧ rounded m e = 2 ^ 53 := by
  have normal := rounded_normal hm placed
  have small := (rounded_bounds m e).2
  rw [roundWithAccuracy_eq s placed]
  split
  · next zero =>
      refine iff_of_false id ?_
      rw [zero] at normal ⊢
      omega
  · split
    · show 972 ≤ grid m e ↔ _
      omega
    · show 972 ≤ grid m e + 1 ↔ _
      omega

theorem magnitude_lt {m : ℕ} {e t : ℤ} (h : m.log2 + 1 + e ≤ t) : magnitude m e < 2 ^ t := by
  unfold magnitude
  have below : (m : ℝ) < 2 ^ (m.log2 + 1) := by exact_mod_cast Nat.lt_log2_self
  calc (m : ℝ) * 2 ^ e < 2 ^ (m.log2 + 1) * 2 ^ e := by gcongr
    _ = 2 ^ ((m.log2 : ℤ) + 1 + e) := by
        rw [zpow_add₀ two_ne_zero]
        norm_cast
    _ ≤ 2 ^ t := zpow_le_zpow_right₀ one_le_two h

theorem le_magnitude {m : ℕ} {e t : ℤ} (hm : 0 < m) (h : t ≤ m.log2 + e) :
    2 ^ t ≤ magnitude m e := by
  unfold magnitude
  have above : (2 : ℝ) ^ m.log2 ≤ m := by exact_mod_cast Nat.log2_self_le hm.ne'
  calc (2 : ℝ) ^ t ≤ 2 ^ ((m.log2 : ℤ) + e) := zpow_le_zpow_right₀ one_le_two h
    _ = 2 ^ m.log2 * 2 ^ e := by
        rw [zpow_add₀ two_ne_zero]
        norm_cast
    _ ≤ m * 2 ^ e := by gcongr

theorem overflow_lt : (overflow : ℝ) < 2 ^ (1024 : ℤ) := by
  have h : overflow < 2 ^ 1024 := by decide +kernel
  exact_mod_cast h

theorem lt_overflow : (2 : ℝ) ^ (1023 : ℤ) < overflow := by
  have h : 2 ^ 1023 < overflow := by decide +kernel
  exact_mod_cast h

/-- The overflow on the scale of a mantissa. -/
theorem overflow_le_magnitude {m k : ℕ} {e : ℤ} (scale : e + k = 970) :
    (overflow : ℝ) ≤ magnitude m e ↔ (2 ^ 54 - 1) * 2 ^ k ≤ m := by
  have split : (overflow : ℝ) = (((2 ^ 54 - 1) * 2 ^ k : ℕ) : ℝ) * 2 ^ e := by
    have power : (2 : ℝ) ^ 970 = 2 ^ k * 2 ^ e := by
      rw [← zpow_natCast 2 970, ← zpow_natCast 2 k, ← zpow_add₀ two_ne_zero, add_comm, scale,
        Nat.cast_ofNat]
    unfold overflow
    rw [Nat.cast_mul, Nat.cast_mul, Nat.cast_pow 2 970, Nat.cast_pow 2 k, Nat.cast_ofNat, power,
      mul_assoc]
  unfold magnitude
  rw [split, mul_le_mul_iff_left₀ (by positivity), Nat.cast_le]

theorem magnitude_double (m : ℕ) (e : ℤ) : magnitude m e = magnitude (2 * m) (e - 1) := by
  unfold magnitude
  rw [Nat.cast_mul, Nat.cast_ofNat, mul_comm 2, mul_assoc, ← zpow_one_add₀ two_ne_zero,
    add_sub_cancel]

/-- In the last binade below the overflow, rounding ends in a carry just from the overflow on: the
quotient is full then, and the last bit that was cut off is set. -/
theorem rounded_eq_carry {m : ℕ} {e : ℤ} (placed : Placed m e) (last : grid m e = 971) :
    rounded m e = 2 ^ 53 ↔ (overflow : ℝ) ≤ magnitude m e := by
  have below := quotient_lt m e
  obtain ⟨quotient, bit⟩ := shiftRight_exact m (grid m e - e).toNat
  have bounds := roundedMantissa_le ((ExtendedMantissa.mk m false false) >>> (grid m e - e).toNat)
  obtain ⟨k, cut⟩ : ∃ k : ℕ, e + k = 971 := ⟨(971 - e).toNat, by unfold Placed at placed; omega⟩
  have same : (grid m e - e).toNat = k := by omega
  unfold rounded
  rw [same] at below quotient bit bounds ⊢
  cases k with
  | zero =>
      -- nothing is cut off, and a full mantissa is still below the overflow
      rw [magnitude_double, overflow_le_magnitude (k := 0) (by omega)]
      show m = 2 ^ 53 ↔ _
      rw [Nat.pow_zero, Nat.div_one] at below
      omega
  | succ k =>
      rw [Nat.pow_succ, ← Nat.div_div_eq_div_mul] at below quotient
      rw [overflow_le_magnitude (k := k) (by omega), ← Nat.le_div_iff_mul_le (by positivity)]
      have set : ((ExtendedMantissa.mk m false false) >>> (k + 1)).roundBit = true ↔
          m / 2 ^ k % 2 = 1 := by
        rw [bit, Nat.add_sub_cancel]
        simp
      generalize (ExtendedMantissa.mk m false false) >>> (k + 1) = em at quotient bounds set ⊢
      constructor
      · intro carry
        have up := (@roundedMantissa_of_odd em (by omega)).1 (by omega)
        rw [set] at up
        omega
      · intro large
        have up := (@roundedMantissa_of_odd em (by omega)).2 (set.2 (by omega))
        omega

/-- Rounding overflows from one magnitude on. -/
theorem overflows_iff (s : Sign) {m : ℕ} {e : ℤ} (hm : 0 < m) (placed : Placed m e) :
    Overflows (roundWithAccuracy .binary64 s m e .exact) ↔ (overflow : ℝ) ≤ magnitude m e := by
  rw [overflows_roundWithAccuracy s hm placed]
  rcases lt_trichotomy (grid m e) 971 with less | last | more
  · refine iff_of_false (by omega) (not_le.2 ?_)
    refine (magnitude_lt (t := 1023) ?_).trans lt_overflow
    unfold grid at less
    omega
  · rw [rounded_eq_carry placed last]
    exact or_iff_right (by omega) |>.trans (and_iff_right last)
  · refine iff_of_true (.inl more) (overflow_lt.le.trans (le_magnitude hm ?_))
    unfold grid at more
    omega

/-! ## Packing -/

/-- The exponents of the special numbers are all ones. -/
theorem isInf_unpackBits (b : BitVec Format.binary64.numBits) :
    (UnpackedFloat.unpack .binary64 b).isInf = true ↔
      unpackExponent b = -1#_ ∧ unpackMantissa b = 0#_ := by
  unfold UnpackedFloat.unpack
  dsimp only
  split
  · next ones => split <;> simp_all [UnpackedFloat.isInf]
  · next finite =>
      refine iff_of_false ?_ fun h => finite h.1
      split
      · split <;> exact Bool.false_ne_true
      · exact Bool.false_ne_true

theorem isNaN_unpackBits (b : BitVec Format.binary64.numBits) :
    (UnpackedFloat.unpack .binary64 b).isNaN = true ↔
      unpackExponent b = -1#_ ∧ unpackMantissa b ≠ 0#_ := by
  unfold UnpackedFloat.unpack
  dsimp only
  split
  · next ones => split <;> simp_all [UnpackedFloat.isNaN]
  · next finite =>
      refine iff_of_false ?_ fun h => finite h.1
      split
      · split <;> exact Bool.false_ne_true
      · exact Bool.false_ne_true

/-- Of the finite numbers, those that overflow are packed as an infinity. -/
theorem pack_finite (s : Sign) (m : ℕ) (e : ℤ) (hm : 0 < m) :
    972 ≤ e ∧ pack .binary64 (.finite s m e hm) = packedInfinity .binary64 s ∨
      e < 972 ∧ unpackExponent (pack .binary64 (.finite s m e hm)) ≠ -1#_ := by
  have bias : (Format.binary64.exponentBias : ℤ) = 1023 := rfl
  unfold UnpackedFloat.pack
  dsimp only
  rw [bias]
  split
  · next large => exact .inl ⟨by omega, rfl⟩
  · next small =>
      refine .inr ⟨by omega, ?_⟩
      split
      · rw [unpackExponent_packComponents]
        intro ones
        have value := congrArg BitVec.toNat ones
        have allOnes : (-1#_ : BitVec Format.binary64.exponentBits).toNat = 2047 := rfl
        rw [BitVec.toNat_ofNat, allOnes] at value
        omega
      · rw [unpackExponent_packComponents]
        decide

theorem isInf_pack (u : UnpackedFloat) :
    (UnpackedFloat.unpack .binary64 (pack .binary64 u)).isInf = true ↔ Overflows u := by
  rw [isInf_unpackBits]
  cases u with
  | notANumber => exact iff_of_false (by decide +kernel) id
  | infinity s => exact iff_of_true (by cases s <;> decide +kernel) trivial
  | zero s => exact iff_of_false (by cases s <;> decide +kernel) id
  | finite s m e hm =>
      rcases pack_finite s m e hm with ⟨large, packed⟩ | ⟨small, fits⟩
      · rw [packed]
        exact iff_of_true (by cases s <;> decide +kernel) large
      · exact iff_of_false (fun h => fits h.1) (not_le.2 small)

theorem isNaN_pack (u : UnpackedFloat) :
    (UnpackedFloat.unpack .binary64 (pack .binary64 u)).isNaN = u.isNaN := by
  rw [Bool.eq_iff_iff, isNaN_unpackBits]
  cases u with
  | notANumber => decide +kernel
  | infinity s => cases s <;> decide +kernel
  | zero s => cases s <;> decide +kernel
  | finite s m e hm =>
      rcases pack_finite s m e hm with ⟨large, packed⟩ | ⟨small, fits⟩
      · rw [packed]
        exact iff_of_false (by cases s <;> decide +kernel) Bool.false_ne_true
      · exact iff_of_false (fun h => fits h.1) Bool.false_ne_true

/-! ## Products -/

theorem unpack_mul (x y : Float) :
    unpack (x * y) = UnpackedFloat.unpack .binary64
      (pack .binary64 (UnpackedFloat.mul .binary64 (unpack x) (unpack y))) := by rfl

/-- A finite number lies below the overflow. -/
theorem magnitude_lt_overflow {x : Float} {s : Sign} {m : ℕ} {e : ℤ} {hm : 0 < m}
    (h : unpack x = .finite s m e hm) : magnitude m e < overflow := by
  have fits := fits_unpack x
  have short : m < 2 ^ 53 := by
    have canonical := fits.canonical
    rw [h] at canonical
    exact canonical.1
  have below : magnitude m e ≤ magnitude (2 ^ 53 - 1) 971 := by
    unfold magnitude
    have mantissa : (m : ℝ) ≤ ((2 ^ 53 - 1 : ℕ) : ℝ) := Nat.cast_le.2 (by omega)
    have exponent : (2 : ℝ) ^ e ≤ 2 ^ (971 : ℤ) :=
      zpow_le_zpow_right₀ one_le_two (fits.exponent h)
    gcongr
  refine below.trans_lt (not_le.1 ?_)
  rw [magnitude_double, overflow_le_magnitude (k := 0) (by omega)]
  decide

section

variable {x c : Float} {M : ℕ} {E : ℤ} {hM : 0 < M}

/-- A product with a finite number that is not zero is none just if the other factor is. -/
theorem isNaN_mul (hc : unpack c = .finite .positive M E hM) : (x * c).isNaN = x.isNaN := by
  have product : (x * c).isNaN = (unpack (x * c)).isNaN := rfl
  have factor : x.isNaN = (unpack x).isNaN := rfl
  rw [product, factor, unpack_mul, isNaN_pack, hc]
  cases unpack x with
  | finite s m e hm =>
      show (roundWithAccuracy _ _ _ _ _).isNaN = false
      unfold roundWithAccuracy
      dsimp only
      split <;> rfl
  | notANumber | infinity | zero => rfl

/-- A product with a number that fills its mantissa is infinite just if the other factor is, or the
product of the magnitudes overflows. -/
theorem isInf_mul (hc : unpack c = .finite .positive M E hM) (full : 2 ^ 52 ≤ M) :
    (x * c).isInf = true ↔ x.isInf = true ∨ ∃ s m e hm, unpack x = .finite s m e hm ∧
      (overflow : ℝ) ≤ magnitude m e * magnitude M E := by
  have product : (x * c).isInf = (unpack (x * c)).isInf := rfl
  have factor : x.isInf = (unpack x).isInf := rfl
  rw [product, factor, unpack_mul, isInf_pack, hc]
  cases unpack x with
  | finite s m e hm =>
      have placed : Placed (m * M) (e + E) := by
        have bits : 52 ≤ (m * M).log2 :=
          (Nat.le_log2 (by positivity)).2 (full.trans (Nat.le_mul_of_pos_left M hm))
        unfold Placed grid
        omega
      have magnitudes : magnitude (m * M) (e + E) = magnitude m e * magnitude M E := by
        unfold magnitude
        rw [Nat.cast_mul, zpow_add₀ two_ne_zero]
        ring
      have rounds : Overflows (roundWithAccuracy .binary64 (s * .positive) (m * M) (e + E) .exact) ↔
          _ := overflows_iff _ (by positivity) placed
      rw [magnitudes] at rounds
      refine Iff.trans rounds ⟨fun large => .inr ⟨s, m, e, hm, rfl, large⟩, ?_⟩
      rintro (⟨⟨⟩⟩ | ⟨_, _, _, _, ⟨⟩, large⟩)
      exact large
  | notANumber => exact iff_of_false id (by simp [UnpackedFloat.isInf])
  | infinity s => exact iff_of_true trivial (.inl rfl)
  | zero s => exact iff_of_false id (by simp [UnpackedFloat.isInf])

end

/-! ## Conversions -/

/-- The exponent may be lowered first: that changes no magnitude. -/
theorem overflows_round (s : Sign) {m : ℕ} (hm : 0 < m) (e : ℤ) :
    Overflows (UnpackedFloat.round .binary64 s m e) ↔ (overflow : ℝ) ≤ magnitude m e := by
  obtain ⟨k, lowered⟩ : ∃ k, (e - grid m e).toNat = k := ⟨_, rfl⟩
  have shifted : m <<< k = m * 2 ^ k := Nat.shiftLeft_eq m k
  have bits : (m * 2 ^ k).log2 = m.log2 + k := by
    rw [Nat.log2_eq_iff (by positivity), Nat.pow_add, Nat.add_right_comm, Nat.pow_add _ _ k]
    have positive : 0 < 2 ^ k := by positivity
    exact ⟨Nat.mul_le_mul_right _ (Nat.log2_self_le hm.ne'),
      Nat.mul_lt_mul_of_pos_right Nat.lt_log2_self positive⟩
  have placed : Placed (m * 2 ^ k) (e - k) := by
    unfold Placed grid at *
    rw [bits]
    omega
  have same : magnitude (m * 2 ^ k) (e - k) = magnitude m e := by
    unfold magnitude
    rw [Nat.cast_mul, Nat.cast_pow, Nat.cast_ofNat, mul_assoc, ← zpow_natCast 2 k,
      ← zpow_add₀ two_ne_zero, add_sub_cancel]
  unfold UnpackedFloat.round decreaseExponent
  dsimp only
  rw [targetExponent_eq, lowered, shifted, overflows_iff s (by positivity) placed, same]

theorem overflow_pos : 0 < overflow := by
  decide +kernel

theorem overflows_ofInt (n : ℕ) :
    Overflows (UnpackedFloat.ofInt .binary64 n) ↔ overflow ≤ n := by
  unfold UnpackedFloat.ofInt UnpackedFloat.normalize
  rcases Nat.eq_zero_or_pos n with rfl | positive
  · exact iff_of_false id (not_le.2 overflow_pos)
  · have above : compare (n : ℤ) 0 = .gt := compare_gt_iff_gt.2 (Int.natCast_pos.2 positive)
    have whole : magnitude n 0 = n := by
      unfold magnitude
      rw [zpow_zero, mul_one]
    rw [above]
    dsimp only
    rw [Int.toNat_natCast, overflows_round .positive positive, whole, Nat.cast_le]

theorem not_isInf_toFloat (n : UInt64) : n.toFloat.isInf ≠ true := by
  have below : n.toNat < overflow := by
    have h : 2 ^ 64 < overflow := by decide +kernel
    exact n.toNat_lt.trans h
  have converted : n.toFloat.isInf = (UnpackedFloat.unpack .binary64
      (pack .binary64 (UnpackedFloat.ofInt .binary64 n.toNat))).isInf := rfl
  rw [converted, ne_eq, isInf_pack, overflows_ofInt]
  exact not_le.2 below

/-- Below 2 ^ 53 the conversion is a product with one. -/
theorem not_isInf_ofNat {n : ℕ} (small : n < 2 ^ 53) : (Float.ofNat n).isInf ≠ true := by
  have fast : Float.ofNat n = n.toUInt64.toFloat * Float.ofBits 0x3FF0000000000000 := by
    show Float.ofScientific n false 0 = _
    unfold Float.ofScientific
    rw [dif_pos ⟨small, by decide⟩, if_neg Bool.false_ne_true]
    rfl
  have one : unpack (Float.ofBits 0x3FF0000000000000) =
      .finite .positive (2 ^ 52) (-52) (by decide) := by rfl
  have unit : magnitude (2 ^ 52) (-52) = 1 := by norm_num [magnitude]
  rw [fast, ne_eq, isInf_mul one (by decide), unit]
  rintro (infinite | ⟨s, m, e, hm, unpacked, large⟩)
  · exact not_isInf_toFloat _ infinite
  · rw [mul_one] at large
    exact absurd large (not_le.2 (magnitude_lt_overflow unpacked))

/-- From 2 ^ 53 on it is one rounding. -/
theorem unpack_ofNat {n : ℕ} (large : 2 ^ 53 ≤ n) :
    unpack (Float.ofNat n) = UnpackedFloat.unpack .binary64 (pack .binary64
      (roundWithAccuracy .binary64 .positive (n <<< 53 * 1) (-53) .exact)) := by
  have last : ¬(0 : ℤ) < -((2 ^ Format.binary64.exponentBits : ℤ) + n.log2) := by
    show ¬(0 : ℤ) < -((2 ^ 11 : ℤ) + n.log2)
    omega
  show unpack (Float.ofScientific n false 0) = _
  unfold Float.ofScientific
  rw [dif_neg (by omega)]
  show UnpackedFloat.unpack .binary64
    (pack .binary64 (UnpackedFloat.ofScientific .binary64 n 0)) = _
  unfold UnpackedFloat.ofScientific
  rw [dif_neg (by omega), if_neg (by decide), if_neg last, if_pos le_rfl]
  rfl

/-- A natural number is converted to an infinity just from the overflow on. -/
theorem isInf_ofNat (n : ℕ) : (Float.ofNat n).isInf = true ↔ overflow ≤ n := by
  by_cases small : n < 2 ^ 53
  · have h : 2 ^ 53 < overflow := by decide +kernel
    exact iff_of_false (not_isInf_ofNat small) (not_le.2 (small.trans h))
  · have converted : (Float.ofNat n).isInf = (unpack (Float.ofNat n)).isInf := rfl
    have positive : 0 < n <<< 53 * 1 := by
      rw [Nat.shiftLeft_eq]
      omega
    have placed : Placed (n <<< 53 * 1) (-53) := by
      have bits : 52 ≤ (n <<< 53 * 1).log2 := by
        rw [Nat.le_log2 positive.ne', Nat.shiftLeft_eq]
        omega
      unfold Placed grid
      omega
    have whole : magnitude (n <<< 53 * 1) (-53) = n := by
      unfold magnitude
      rw [mul_one, Nat.shiftLeft_eq, Nat.cast_mul, Nat.cast_pow, Nat.cast_ofNat, mul_assoc]
      norm_num
    rw [converted, unpack_ofNat (not_lt.1 small), isInf_pack, overflows_iff _ positive placed,
      whole, Nat.cast_le]

/-- An integer has a binary64 neighbour just if its magnitude is below the overflow. -/
theorem ofInt?_eq_none_iff {n : ℤ} : ofInt? n = none ↔ overflow ≤ n.natAbs := by
  have infinite : (Float.ofInt n).isInf = true ↔ overflow ≤ n.natAbs := by
    cases n with
    | ofNat n => exact isInf_ofNat n
    | negSucc n =>
        have negative : (Float.ofInt (.negSucc n)).isInf = (-Float.ofNat (n + 1)).isInf := rfl
        have natAbs : (Int.negSucc n).natAbs = n + 1 := rfl
        rw [natAbs, ← isInf_ofNat, negative, isInf_neg]
  unfold ofInt?
  dsimp only
  rw [← infinite]
  cases (Float.ofInt n).isInf <;> simp

theorem unpack_thousand :
    unpack 1000.0 = .finite .positive (1000 * 2 ^ 43) (-43) (by decide) := by rfl

/-- The thousandfold of a number is none just if the number is. -/
theorem isNaN_mul_thousand (x : Float) : (x * 1000.0).isNaN = x.isNaN :=
  isNaN_mul unpack_thousand

/-- The thousandfold of a number that is not negative is infinite just if that is where it lies. -/
theorem isInf_mul_thousand {x : Float} {p : EReal} (stands : point x = some p) (hp : 0 ≤ p) :
    (x * 1000.0).isInf = true ↔ ((overflow / 1000 : ℝ) : EReal) ≤ p := by
  have thousand : magnitude (1000 * 2 ^ 43) (-43) = 1000 := by norm_num [magnitude]
  have status : x.isInf = (unpack x).isInf := rfl
  rw [isInf_mul unpack_thousand (by decide), thousand, status]
  unfold point at stands
  cases unpacked : unpack x with
  | notANumber =>
      rw [unpacked] at stands
      cases stands
  | infinity s =>
      rw [unpacked] at stands
      cases s with
      | positive =>
          cases stands
          exact iff_of_true (.inl rfl) le_top
      | negative =>
          cases stands
          exact absurd hp (not_le.2 EReal.bot_lt_zero)
  | zero s =>
      rw [unpacked] at stands
      cases stands
      have positive : (0 : ℝ) < overflow / 1000 := by
        have h : (0 : ℝ) < overflow := Nat.cast_pos.2 overflow_pos
        positivity
      refine iff_of_false ?_ (not_le.2 (EReal.coe_lt_coe_iff.2 positive))
      rintro (⟨⟨⟩⟩ | ⟨_, _, _, _, ⟨⟩, _⟩)
  | finite s m e hm =>
      rw [unpacked] at stands
      cases s with
      | positive =>
          cases stands
          rw [EReal.coe_le_coe_iff, div_le_iff₀ (by norm_num)]
          constructor
          · rintro (⟨⟨⟩⟩ | ⟨_, _, _, _, ⟨⟩, large⟩)
            exact large
          · exact fun large => .inr ⟨_, m, e, hm, rfl, large⟩
      | negative =>
          cases stands
          have positive := magnitude_pos hm e
          exact absurd (EReal.coe_nonneg.1 hp) (by linarith only [positive])

end LinearDispatch.Number
