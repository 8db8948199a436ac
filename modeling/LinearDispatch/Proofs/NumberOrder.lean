import LinearDispatch.Model.Part
import Mathlib

/-!
# The order of binary64 numbers

What a binary64 number stands for: a point of the extended real line, or nothing. The comparison
that bounds are clipped with is made on mantissas and exponents, and it is the order of the
extended reals because the numbers that come out of 64 bits are canonical: an exponent above the
least one leaves no room for a small mantissa. `lt_iff` is that fact, and what follows from it for
the larger and the smaller of two numbers.
-/

namespace LinearDispatch.Number

open Float.Model (UnpackedFloat Format)
open Float.Model.UnpackedFloat (Sign unpackExponent unpackMantissa)

noncomputable def magnitude (mantissa : ℕ) (exponent : ℤ) : ℝ :=
  mantissa * 2 ^ exponent

/-- The point of the extended real line that an unpacked number stands for. -/
noncomputable def pointOf : UnpackedFloat → Option EReal
  | .notANumber => none
  | .infinity .positive => some ⊤
  | .infinity .negative => some ⊥
  | .zero _ => some (0 : ℝ)
  | .finite .positive mantissa exponent _ => some (magnitude mantissa exponent : ℝ)
  | .finite .negative mantissa exponent _ => some (-magnitude mantissa exponent : ℝ)

/-- The point of the extended real line that a binary64 number stands for. -/
noncomputable def point (x : Float) : Option EReal :=
  pointOf (unpack x)

/-! ## Canonical numbers -/

/-- A mantissa has at most 53 bits, and fewer only at the least exponent. -/
def Canonical : UnpackedFloat → Prop
  | .finite _ mantissa exponent _ =>
    mantissa < 2 ^ 53 ∧ -1074 ≤ exponent ∧ (-1074 < exponent → 2 ^ 52 ≤ mantissa)
  | _ => True

theorem canonical_unpackBits (b : BitVec Format.binary64.numBits) :
    Canonical (UnpackedFloat.unpack .binary64 b) := by
  have mantissa : (unpackMantissa b).toNat < 2 ^ 52 := (unpackMantissa b).isLt
  have bias : (Format.binary64.exponentBias : Int) = 1023 := rfl
  have width : (Format.binary64.mantissaBitsWithoutImplicit : Int) = 52 := rfl
  unfold UnpackedFloat.unpack
  dsimp only
  split
  · split <;> trivial
  · split
    · next least =>
        split
        · trivial
        · have exponent : (unpackExponent b).toNat = 0 := by rw [least]; rfl
          refine ⟨?_, ?_, ?_⟩ <;> omega
    · next notLeast =>
        have exponent : (unpackExponent b).toNat ≠ 0 := fun h => notLeast (BitVec.eq_of_toNat_eq h)
        have leading : (1#1 ++ unpackMantissa b).toNat = 2 ^ 52 + (unpackMantissa b).toNat := by
          rw [BitVec.toNat_append, ← Nat.shiftLeft_add_eq_or_of_lt (unpackMantissa b).isLt]
          rfl
        refine ⟨?_, ?_, ?_⟩ <;> omega

theorem canonical_unpack (x : Float) : Canonical (unpack x) :=
  canonical_unpackBits x.toModel.toBits.toBitVec

/-! ## The order -/

theorem magnitude_pos {m : ℕ} (hm : 0 < m) (e : ℤ) : 0 < magnitude m e := by
  unfold magnitude
  positivity

/-- Between canonical numbers a larger exponent wins. -/
theorem magnitude_lt_of_exponent_lt {m₁ m₂ : ℕ} {e₁ e₂ : ℤ} (h₁ : m₁ < 2 ^ 53)
    (h₂ : 2 ^ 52 ≤ m₂) (h : e₁ < e₂) : magnitude m₁ e₁ < magnitude m₂ e₂ := by
  have small : (m₁ : ℝ) < 2 ^ 53 := by exact_mod_cast h₁
  have large : (2 : ℝ) ^ 52 ≤ m₂ := by exact_mod_cast h₂
  have step : (2 : ℝ) ^ (e₁ + 1) ≤ 2 ^ e₂ := zpow_le_zpow_right₀ one_le_two (by omega)
  calc (m₁ : ℝ) * 2 ^ e₁ < 2 ^ 53 * 2 ^ e₁ := by gcongr
    _ = 2 ^ 52 * 2 ^ (e₁ + 1) := by
        rw [zpow_add_one₀ two_ne_zero]
        ring
    _ ≤ m₂ * 2 ^ e₂ := by gcongr

/-- The order by exponents and then by mantissas is the order of the magnitudes. -/
theorem lex_lt_iff {m₁ m₂ : ℕ} {e₁ e₂ : ℤ}
    (h₁ : m₁ < 2 ^ 53 ∧ -1074 ≤ e₁ ∧ (-1074 < e₁ → 2 ^ 52 ≤ m₁))
    (h₂ : m₂ < 2 ^ 53 ∧ -1074 ≤ e₂ ∧ (-1074 < e₂ → 2 ^ 52 ≤ m₂)) :
    (compare e₁ e₂).then (compare m₁ m₂) = .lt ↔ magnitude m₁ e₁ < magnitude m₂ e₂ := by
  rcases lt_trichotomy e₁ e₂ with h | rfl | h
  · have wins := magnitude_lt_of_exponent_lt h₁.1 (h₂.2.2 (by omega)) h
    rw [compare_lt_iff_lt.2 h]
    exact iff_of_true rfl wins
  · rw [compare_eq_iff_eq.2 rfl, Ordering.eq_then, compare_lt_iff_lt]
    unfold magnitude
    rw [mul_lt_mul_iff_left₀ (by positivity), Nat.cast_lt]
  · have loses := magnitude_lt_of_exponent_lt h₂.1 (h₁.2.2 (by omega)) h
    rw [compare_gt_iff_gt.2 h]
    exact iff_of_false nofun loses.asymm

/-- The comparison of canonical numbers is the order of their points. The signs and the special
numbers decide most cases; two finite numbers of one sign are left to `lex_lt_iff`. -/
theorem pointOf_lt_iff {u v : UnpackedFloat} (hu : Canonical u) (hv : Canonical v) :
    u.lt v = true ↔ ∃ x y, pointOf u = some x ∧ pointOf v = some y ∧ x < y := by
  rcases u with (_ | _) | _ | _ | ⟨_ | _, m₁, e₁, hm₁⟩ <;>
    rcases v with (_ | _) | _ | _ | ⟨_ | _, m₂, e₂, hm₂⟩ <;>
    simp only [UnpackedFloat.lt, UnpackedFloat.compare, pointOf, beq_iff_eq, Option.some.injEq,
      reduceCtorEq, false_and, and_false, exists_false, exists_and_left, exists_eq_left',
      lt_self_iff_false, bot_lt_top, not_top_lt, not_lt_bot, EReal.bot_lt_coe, EReal.coe_lt_top,
      EReal.coe_lt_coe_iff, true_iff, false_iff, not_lt, iff_true]
  case infinity.negative.infinity.positive => rfl
  case zero.finite.negative => linarith only [magnitude_pos hm₂ e₂]
  case zero.finite.positive => exact magnitude_pos hm₂ e₂
  case finite.negative.zero => linarith only [magnitude_pos hm₁ e₁]
  case finite.negative.finite.negative =>
    rw [neg_lt_neg_iff, ← lex_lt_iff hv hu, Ordering.swap_then, ← Std.OrientedOrd.eq_swap,
      ← Std.OrientedOrd.eq_swap]
  case finite.negative.finite.positive =>
    linarith only [magnitude_pos hm₁ e₁, magnitude_pos hm₂ e₂]
  case finite.positive.zero => exact (magnitude_pos hm₁ e₁).le
  case finite.positive.finite.negative =>
    linarith only [magnitude_pos hm₁ e₁, magnitude_pos hm₂ e₂]
  case finite.positive.finite.positive => exact lex_lt_iff hu hv

/-- One number is below another exactly if both stand for points and the points are in that
order. -/
theorem lt_iff {a b : Float} :
    a < b ↔ ∃ x y, point a = some x ∧ point b = some y ∧ x < y := by
  have unpacked : a < b ↔ (unpack a).lt (unpack b) = true := decide_eq_true_iff
  rw [unpacked]
  exact pointOf_lt_iff (canonical_unpack a) (canonical_unpack b)

theorem point_zero : point 0.0 = some 0 := by
  have h : unpack 0.0 = .zero .positive := by rfl
  rw [point, h, pointOf, EReal.coe_zero]

theorem point_one : point 1.0 = some 1 := by
  have h : unpack 1.0 = .finite .positive (2 ^ 52) (-52) (by decide) := by rfl
  have one : magnitude (2 ^ 52) (-52) = 1 := by norm_num [magnitude]
  rw [point, h, pointOf, one, EReal.coe_one]

theorem point_infinity : point infinity = some ⊤ := by
  have h : unpack infinity = .infinity .positive := by rfl
  rw [point, h, pointOf]

theorem point_negInfinity : point negInfinity = some ⊥ := by
  have h : unpack negInfinity = .infinity .negative := by rfl
  rw [point, h, pointOf]

/-! ## Sides

A side of a range that stands for no point lets nothing through. -/

/-- A real number is not below a lower side. -/
def FromBelow (side : Float) (v : ℝ) : Prop :=
  ∃ l, point side = some l ∧ l ≤ v

/-- A real number is not above an upper side. -/
def FromAbove (side : Float) (v : ℝ) : Prop :=
  ∃ u, point side = some u ∧ v ≤ u

/-- Being above the larger of two sides is being above both, as long as the second stands for a
point. -/
theorem fromBelow_larger {a b : Float} {y : EReal} (hb : point b = some y) (v : ℝ) :
    FromBelow (larger a b) v ↔ FromBelow a v ∧ y ≤ v := by
  unfold larger
  split
  · next h =>
      obtain ⟨x, y', ha, hb', hxy⟩ := lt_iff.1 h
      cases hb.symm.trans hb'
      constructor
      · rintro ⟨_, hl, hv⟩
        cases hb.symm.trans hl
        exact ⟨⟨x, ha, hxy.le.trans hv⟩, hv⟩
      · rintro ⟨-, hv⟩
        exact ⟨y, hb, hv⟩
  · next h =>
      refine ⟨?_, fun hv => hv.1⟩
      rintro ⟨x, ha, hv⟩
      have hyx : y ≤ x := not_lt.1 fun hxy => h (lt_iff.2 ⟨x, y, ha, hb, hxy⟩)
      exact ⟨⟨x, ha, hv⟩, hyx.trans hv⟩

/-- Being below the smaller of two sides is being below both, as long as the second stands for a
point. -/
theorem fromAbove_smaller {a b : Float} {y : EReal} (hb : point b = some y) (v : ℝ) :
    FromAbove (smaller a b) v ↔ FromAbove a v ∧ v ≤ y := by
  unfold smaller
  split
  · next h =>
      obtain ⟨y', x, hb', ha, hyx⟩ := lt_iff.1 h
      cases hb.symm.trans hb'
      constructor
      · rintro ⟨_, hu, hv⟩
        cases hb.symm.trans hu
        exact ⟨⟨x, ha, hv.trans hyx.le⟩, hv⟩
      · rintro ⟨-, hv⟩
        exact ⟨y, hb, hv⟩
  · next h =>
      refine ⟨?_, fun hv => hv.1⟩
      rintro ⟨x, ha, hv⟩
      have hxy : x ≤ y := not_lt.1 fun hyx => h (lt_iff.2 ⟨y, x, hb, ha, hyx⟩)
      exact ⟨⟨x, ha, hv⟩, hv.trans hxy⟩

/-- A real number lies in a range. -/
def Within (range : Float × Float) (v : ℝ) : Prop :=
  FromBelow range.1 v ∧ FromAbove range.2 v

/-- Cutting a range down to the numbers from 0 to 1 is intersecting with them, also for a range
that is empty, open on a side or has a side that is no number. -/
theorem within_clipped (range : Float × Float) (v : ℝ) :
    Within (larger range.1 0.0, smaller range.2 1.0) v ↔ Within range v ∧ 0 ≤ v ∧ v ≤ 1 := by
  have zero : (0 : EReal) ≤ v ↔ 0 ≤ v := by rw [← EReal.coe_zero, EReal.coe_le_coe_iff]
  have one : (v : EReal) ≤ 1 ↔ v ≤ 1 := by rw [← EReal.coe_one, EReal.coe_le_coe_iff]
  unfold Within
  rw [fromBelow_larger point_zero, fromAbove_smaller point_one, zero, one, and_and_and_comm]

end LinearDispatch.Number
