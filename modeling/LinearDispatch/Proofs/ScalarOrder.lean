import LinearDispatch.Proofs.NumberNegation

/-!
# The order of scalars

Scalars of different kinds are compared without rounding: an integer of any size against a mantissa
and a power of two, in whole numbers. `order_eq` says that this is the order of the points that the
scalars stand for, and `lt_iff` and `same_iff` are what an adapter that compares sides gets from it.
-/

namespace LinearDispatch

namespace Number

open Float.Model (UnpackedFloat)
open Float.Model.UnpackedFloat (Sign)

/-! ## Binary64 numbers with each other -/

/-- Comparing the other way round gives the opposite order. -/
theorem compare_swap (u v : UnpackedFloat) : v.compare u = (u.compare v).map Ordering.swap := by
  rcases u with (_ | _) | _ | _ | ⟨_ | _, m₁, e₁, hm₁⟩ <;>
    rcases v with (_ | _) | _ | _ | ⟨_ | _, m₂, e₂, hm₂⟩ <;>
    first
      | rfl
      | simp only [UnpackedFloat.compare, Option.map_some, Ordering.swap_then,
          ← Std.OrientedOrd.eq_swap]

theorem compare_eq_none {u v : UnpackedFloat} :
    u.compare v = none ↔ pointOf u = none ∨ pointOf v = none := by
  rcases u with (_ | _) | _ | _ | ⟨_ | _, m₁, e₁, hm₁⟩ <;>
    rcases v with (_ | _) | _ | _ | ⟨_ | _, m₂, e₂, hm₂⟩ <;>
    simp [UnpackedFloat.compare, pointOf]

theorem lt_iff_compare {x y : Float} : x < y ↔ (unpack x).compare (unpack y) = some .lt :=
  decide_eq_true_iff.trans beq_iff_eq

theorem gt_iff_compare {x y : Float} : y < x ↔ (unpack x).compare (unpack y) = some .gt := by
  rw [lt_iff_compare, compare_swap]
  cases (unpack x).compare (unpack y) with
  | none => simp
  | some o => cases o <;> simp

/-- The order of two binary64 numbers is the order of their points. Only `lt` has to be read off
the mantissas; what is neither below nor above is equal. -/
theorem compare_eq (x y : Float) :
    (unpack x).compare (unpack y) = (point x).bind fun p => (point y).map fun q => cmp p q := by
  cases h : (unpack x).compare (unpack y) with
  | none =>
      unfold point
      cases compare_eq_none.1 h with
      | inl left => rw [left, Option.bind_none]
      | inr right => rw [right]; cases pointOf (unpack x) <;> rfl
  | some o =>
      cases hx : point x with
      | none => cases h.symm.trans (compare_eq_none.2 (.inl hx))
      | some p =>
          cases hy : point y with
          | none => cases h.symm.trans (compare_eq_none.2 (.inr hy))
          | some q =>
              have below : o = .lt ↔ p < q := by
                have less := (lt_iff_compare (x := x) (y := y)).symm.trans lt_iff
                simpa [h, hx, hy] using less
              have above : o = .gt ↔ q < p := by
                have more := (gt_iff_compare (x := x) (y := y)).symm.trans lt_iff
                simpa [h, hx, hy] using more
              refine congrArg some ?_
              show o = cmp p q
              rcases lt_trichotomy p q with less | same | more
              · rw [below.2 less, (cmp_eq_lt_iff p q).2 less]
              · rw [(cmp_eq_eq_iff p q).2 same]
                cases o with
                | lt => exact absurd (below.1 rfl) (not_lt.2 same.ge)
                | eq => rfl
                | gt => exact absurd (above.1 rfl) (not_lt.2 same.le)
              · rw [above.2 more, (cmp_eq_gt_iff p q).2 more]

/-! ## Integers with binary64 numbers -/

theorem compare_int (m n : ℤ) : compare m n = cmp ((m : ℝ) : EReal) ((n : ℝ) : EReal) := by
  rw [EReal.coe_strictMono.cmp_map_eq, Int.cast_strictMono.cmp_map_eq, cmp_eq_compare]

theorem cast_twoTo {e : ℤ} (h : 0 ≤ e) : (twoTo e.toNat : ℝ) = 2 ^ e := by
  have power : twoTo e.toNat = 2 ^ e.toNat := rfl
  rw [power, Nat.cast_pow, Nat.cast_ofNat, ← zpow_natCast, Int.toNat_of_nonneg h]

theorem compareWhole_eq (n : ℤ) (sign : Sign) (mantissa : ℕ) (exponent : ℤ) :
    compareWhole n sign mantissa exponent =
      cmp (n : ℝ) ((sign.apply mantissa : ℤ) * 2 ^ exponent) := by
  unfold compareWhole
  dsimp only
  split
  · next h =>
      have whole : ((sign.apply mantissa : ℤ) : ℝ) * 2 ^ exponent =
          ((sign.apply mantissa * twoTo exponent.toNat : ℤ) : ℝ) := by
        rw [Int.cast_mul, Int.cast_natCast, cast_twoTo h]
      rw [whole, Int.cast_strictMono.cmp_map_eq, cmp_eq_compare]
  · next h =>
      have whole : ((n * twoTo (-exponent).toNat : ℤ) : ℝ) = (n : ℝ) * 2 ^ (-exponent) := by
        rw [Int.cast_mul, Int.cast_natCast, cast_twoTo (by omega)]
      have positive : (0 : ℝ) < 2 ^ (-exponent) := by positivity
      have cancel : ((sign.apply mantissa : ℤ) : ℝ) * 2 ^ exponent * 2 ^ (-exponent) =
          (sign.apply mantissa : ℤ) := by
        rw [mul_assoc, ← zpow_add₀ two_ne_zero, add_neg_cancel, zpow_zero, mul_one]
      rw [← cmp_mul_pos_right positive, cancel, ← whole, Int.cast_strictMono.cmp_map_eq,
        cmp_eq_compare]

/-- An integer compares with a binary64 number as the points do that they stand for. -/
theorem compareInt_eq (n : ℤ) (x : Float) :
    compareInt n x = (point x).map fun p => cmp ((n : ℝ) : EReal) p := by
  unfold compareInt point
  cases unpack x with
  | notANumber => rfl
  | infinity sign =>
      cases sign with
      | positive => exact congrArg some ((cmp_eq_lt_iff _ _).2 (EReal.coe_lt_top _)).symm
      | negative => exact congrArg some ((cmp_eq_gt_iff _ _).2 (EReal.bot_lt_coe _)).symm
  | zero sign =>
      show some (compare n 0) = some (cmp ((n : ℝ) : EReal) ((0 : ℝ) : EReal))
      rw [compare_int, Int.cast_zero]
  | finite sign m e hm =>
      cases sign with
      | positive =>
          show some (compareWhole n .positive m e) =
            some (cmp ((n : ℝ) : EReal) (magnitude m e : ℝ))
          rw [EReal.coe_strictMono.cmp_map_eq, compareWhole_eq]
          rfl
      | negative =>
          show some (compareWhole n .negative m e) =
            some (cmp ((n : ℝ) : EReal) (-magnitude m e : ℝ))
          rw [EReal.coe_strictMono.cmp_map_eq, compareWhole_eq, Sign.apply, magnitude, Int.cast_neg,
            Int.cast_natCast, neg_mul]

end Number

namespace Scalar

/-! ## All scalars -/

/-- The point of the extended real line that a scalar stands for. -/
noncomputable def point : Scalar → Option EReal
  | bool b => some (((if b then 1 else 0 : ℤ) : ℝ) : EReal)
  | int n => some ((n : ℝ) : EReal)
  | real x => Number.point x

theorem point_zero : (int 0).point = some 0 :=
  congrArg some (by simp)

theorem point_one : (int 1).point = some 1 :=
  congrArg some (by simp)

theorem order_real (x y : Float) :
    (real x).order (real y) = (Number.unpack x).compare (Number.unpack y) := by
  show (if x < y then some Ordering.lt else if y < x then some .gt else
    if x == y then some .eq else none) = _
  have equal : (x == y) = true ↔ (Number.unpack x).compare (Number.unpack y) = some .eq := by
    show ((Number.unpack x).compare (Number.unpack y) == some Ordering.eq) = true ↔ _
    exact beq_iff_eq
  simp only [Number.lt_iff_compare, Number.gt_iff_compare (x := x) (y := y), equal]
  cases (Number.unpack x).compare (Number.unpack y) with
  | none => simp
  | some o => cases o <;> simp

/-- A truth value compares as the integer that it is. -/
theorem order_bool_left (m : Bool) (b : Scalar) :
    (bool m).order b = (int (if m then 1 else 0)).order b := by
  cases b <;> rfl

theorem order_bool_right (a : Scalar) (n : Bool) :
    a.order (bool n) = a.order (int (if n then 1 else 0)) := by
  cases a <;> rfl

theorem order_int (m : ℤ) (b : Scalar) :
    (int m).order b = b.point.map fun y => cmp ((m : ℝ) : EReal) y := by
  cases b with
  | bool n => exact congrArg some (Number.compare_int m _)
  | int n => exact congrArg some (Number.compare_int m n)
  | real y => exact Number.compareInt_eq m y

theorem order_real_int (x : Float) (n : ℤ) :
    (real x).order (int n) = (Number.point x).map fun p => cmp p ((n : ℝ) : EReal) := by
  show (Number.compareInt n x).map Ordering.swap = _
  rw [Number.compareInt_eq, Option.map_map]
  refine congrArg (fun f => (Number.point x).map f) (funext fun p => ?_)
  exact cmp_swap _ _

/-- The order of scalars is the order of their points, whatever their kinds. -/
theorem order_eq (a b : Scalar) :
    a.order b = a.point.bind fun x => b.point.map fun y => cmp x y := by
  cases a with
  | bool m => exact (order_bool_left m b).trans (order_int _ b)
  | int m => exact order_int m b
  | real x =>
      cases b with
      | bool n =>
          rw [order_bool_right, order_real_int]
          exact Option.map_eq_bind
      | int n =>
          rw [order_real_int]
          exact Option.map_eq_bind
      | real y => exact (order_real x y).trans (Number.compare_eq x y)

theorem order_eq_some {a b : Scalar} {o : Ordering} :
    a.order b = some o ↔ ∃ x y, a.point = some x ∧ b.point = some y ∧ cmp x y = o := by
  rw [order_eq]
  cases a.point with
  | none => simp
  | some x => cases b.point <;> simp

/-- One scalar is below another exactly if both stand for points and the points are in that order.
-/
theorem lt_iff {a b : Scalar} :
    a.lt b = true ↔ ∃ x y, a.point = some x ∧ b.point = some y ∧ x < y := by
  unfold lt
  rw [beq_iff_eq, order_eq_some]
  simp only [cmp_eq_lt_iff]

/-- Two scalars are the same number exactly if they stand for one point. -/
theorem same_iff {a b : Scalar} :
    a.same b = true ↔ ∃ x, a.point = some x ∧ b.point = some x := by
  unfold same
  rw [beq_iff_eq, order_eq_some]
  constructor
  · rintro ⟨x, y, hx, hy, h⟩
    cases (cmp_eq_eq_iff x y).1 h
    exact ⟨x, hx, hy⟩
  · rintro ⟨x, hx, hy⟩
    exact ⟨x, x, hx, hy, cmp_self_eq_eq x⟩

theorem point_neg (a : Scalar) : a.neg.point = a.point.map (- ·) := by
  cases a with
  | bool b =>
      cases b with
      | true => exact congrArg some (by norm_num)
      | false => exact congrArg some (by norm_num)
  | int n =>
      show some (((-n : ℤ) : ℝ) : EReal) = some (-((n : ℝ) : EReal))
      rw [Int.cast_neg, EReal.coe_neg]
  | real x => exact Number.point_neg x

end Scalar

end LinearDispatch
