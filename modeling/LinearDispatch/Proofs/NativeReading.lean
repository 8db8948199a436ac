import LinearDispatch.Proofs.ScalarOrder
import LinearDispatch.Proofs.Solutions

/-!
# Reading native models

A native model has numbers for sides and values for coefficients, and a point has to satisfy it
like a program. Coefficients are read as numbers. Sides need more care: a native solver has a
number of its own for infinity, an infinite side of a program goes into the native model as that
number or its negative, and whoever reads the native model has to take that number for infinite
again. `readSide_ofSide` says that this gives the side back, as long as no finite side is such a
number.
-/

namespace LinearDispatch

namespace Number

open Float.Model (UnpackedFloat)

theorem isInf_iff {x : Float} : x.isInf = true ↔ point x = some ⊤ ∨ point x = some ⊥ := by
  have unpacked : x.isInf = (unpack x).isInf := rfl
  rw [unpacked]
  unfold point
  rcases unpack x with (_ | _) | _ | _ | ⟨_ | _, m, e, hm⟩ <;>
    simp [UnpackedFloat.isInf, pointOf, EReal.coe_ne_top, EReal.coe_ne_bot]

/-- What is not the number that is none is a point on the line. -/
theorem exists_point {x : Float} (h : x.isNaN = false) : ∃ p, point x = some p := by
  have unpacked : (unpack x).isNaN = false := h
  unfold point
  cases hu : unpack x with
  | notANumber =>
      rw [hu] at unpacked
      cases unpacked
  | infinity sign => cases sign <;> exact ⟨_, rfl⟩
  | zero sign => exact ⟨_, rfl⟩
  | finite sign m e hm => cases sign <;> exact ⟨_, rfl⟩

/-- A side, with a number in the place of infinity and its negative in the place of minus infinity.
-/
def withInfinity (infinity x : Float) : Float :=
  if x.isInf then if 0.0 < x then infinity else -infinity else x

theorem withInfinity_top {x : Float} (h : point x = some ⊤) (infinity : Float) :
    withInfinity infinity x = infinity := by
  have above : 0.0 < x := lt_iff.2 ⟨0, ⊤, point_zero, h, EReal.zero_lt_top⟩
  unfold withInfinity
  rw [if_pos (isInf_iff.2 (.inl h)), if_pos above]

theorem withInfinity_bot {x : Float} (h : point x = some ⊥) (infinity : Float) :
    withInfinity infinity x = -infinity := by
  have notAbove : ¬0.0 < x := by
    rw [lt_iff]
    rintro ⟨p, q, -, hq, less⟩
    cases h.symm.trans hq
    exact not_lt_bot less
  unfold withInfinity
  rw [if_pos (isInf_iff.2 (.inr h)), if_neg notAbove]

theorem withInfinity_finite {x : Float} (h : x.isInf = false) (infinity : Float) :
    withInfinity infinity x = x :=
  if_neg (Bool.eq_false_iff.1 h)

end Number

namespace Scalar

open Number (point_infinity point_negInfinity)

theorem point_eq_of_same {a b : Scalar} (h : a.same b = true) : a.point = b.point := by
  obtain ⟨p, ha, hb⟩ := same_iff.1 h
  rw [ha, hb]

theorem same_congr {a b : Scalar} (h : a.point = b.point) (c : Scalar) : a.same c = b.same c := by
  rw [Bool.eq_iff_iff, same_iff, same_iff, h]

/-- A side as it goes into a native model, for a solver with this infinity. -/
def ofSide (infinity : Scalar) (x : Float) : Scalar :=
  if (real x).same (real Number.infinity) then infinity
  else if (real x).same (real Number.negInfinity) then infinity.neg
  else real x

/-- The side that a solver with this infinity reads off a number. -/
noncomputable def readSide (infinity s : Scalar) : Option EReal :=
  if s.same infinity then some ⊤ else if s.same infinity.neg then some ⊥ else s.point

/-- A value lies between two numbers, as a solver with this infinity reads them. -/
def SidesAllow (infinity lower upper : Scalar) (v : ℝ) : Prop :=
  (∃ l, readSide infinity lower = some l ∧ l ≤ v) ∧ ∃ u, readSide infinity upper = some u ∧ v ≤ u

theorem ofSide_top {x : Float} (h : Number.point x = some ⊤) (infinity : Scalar) :
    ofSide infinity x = infinity := by
  have same : (real x).same (real Number.infinity) = true := same_iff.2 ⟨⊤, h, point_infinity⟩
  unfold ofSide
  rw [if_pos same]

theorem ofSide_bot {x : Float} (h : Number.point x = some ⊥) (infinity : Scalar) :
    ofSide infinity x = infinity.neg := by
  have other : ¬(real x).same (real Number.infinity) = true := by
    rw [same_iff]
    rintro ⟨p, hp, hp'⟩
    cases h.symm.trans hp
    cases hp'.symm.trans point_infinity
  have same : (real x).same (real Number.negInfinity) = true :=
    same_iff.2 ⟨⊥, h, point_negInfinity⟩
  unfold ofSide
  rw [if_neg other, if_pos same]

theorem ofSide_finite {x : Float} (h : x.isInf = false) (infinity : Scalar) :
    ofSide infinity x = real x := by
  have finite := mt Number.isInf_iff.2 (Bool.eq_false_iff.1 h)
  have notTop : ¬(real x).same (real Number.infinity) = true := by
    rw [same_iff]
    rintro ⟨p, hp, hp'⟩
    cases hp'.symm.trans point_infinity
    exact finite (.inl hp)
  have notBot : ¬(real x).same (real Number.negInfinity) = true := by
    rw [same_iff]
    rintro ⟨p, hp, hp'⟩
    cases hp'.symm.trans point_negInfinity
    exact finite (.inr hp)
  unfold ofSide
  rw [if_neg notTop, if_neg notBot]

/-- Where infinity is a number, that number or its negative goes into the native model for an
infinite side. -/
theorem ofSide_real (infinity x : Float) :
    ofSide (.real infinity) x = .real (Number.withInfinity infinity x) := by
  cases infinite : x.isInf with
  | true =>
      cases Number.isInf_iff.1 infinite with
      | inl top => rw [ofSide_top top, Number.withInfinity_top top]
      | inr bot =>
          rw [ofSide_bot bot, Number.withInfinity_bot bot]
          rfl
  | false => rw [ofSide_finite infinite, Number.withInfinity_finite infinite]

/-- What is read off a number is a matter of its point. -/
theorem readSide_congr {a b : Scalar} (h : a.same b = true) (infinity : Scalar) :
    readSide infinity a = readSide infinity b := by
  have point := point_eq_of_same h
  unfold readSide
  rw [same_congr point, same_congr point, point]

/-- A finite side is no number that stands for infinity. -/
def Apart (infinity : Scalar) (x : Float) : Prop :=
  x.isInf = false → (real x).same infinity = false ∧ (real x).same infinity.neg = false

/-- The sides of a program are read off the numbers in their place, unless a finite side is a number
that stands for infinity. -/
theorem readSide_ofSide {infinity : Scalar} {x : Float} (positive : infinity.neg.lt infinity = true)
    (apart : infinity.Apart x) :
    readSide infinity (ofSide infinity x) = Number.point x := by
  obtain ⟨n, p, hn, hp, below⟩ := lt_iff.1 positive
  have same : infinity.same infinity = true := same_iff.2 ⟨p, hp, hp⟩
  have sameNeg : infinity.neg.same infinity.neg = true := same_iff.2 ⟨n, hn, hn⟩
  have other : ¬infinity.neg.same infinity = true := by
    rw [same_iff]
    rintro ⟨q, hq, hq'⟩
    cases hn.symm.trans hq
    cases hp.symm.trans hq'
    exact below.ne rfl
  cases infinite : x.isInf with
  | true =>
      cases Number.isInf_iff.1 infinite with
      | inl top =>
          unfold readSide
          rw [ofSide_top top, if_pos same, top]
      | inr bot =>
          unfold readSide
          rw [ofSide_bot bot, if_neg other, if_pos sameNeg, bot]
  | false =>
      obtain ⟨notTop, notBot⟩ := apart infinite
      unfold readSide
      rw [ofSide_finite infinite, notTop, notBot]
      rfl

/-- A value lies between the numbers that stand for infinity. -/
def Inside (infinity : Scalar) (v : ℝ) : Prop :=
  ∃ i, infinity.point = some i ∧ -i < v ∧ (v : EReal) < i

theorem neg_lt_of_one_lt {infinity : Scalar} (one : (int 1).lt infinity = true) :
    infinity.neg.lt infinity = true := by
  obtain ⟨p, i, hp, hi, above⟩ := lt_iff.1 one
  cases hp
  have positive : 0 < i := lt_trans (by norm_num) above
  have negative : -i < 0 := EReal.neg_lt_zero.2 positive
  refine lt_iff.2 ⟨-i, i, ?_, hi, negative.trans positive⟩
  rw [point_neg, hi]
  rfl

/-- What is in the unit interval is not beyond an infinity above 1. -/
theorem inside_of_unit {infinity : Scalar} (one : (int 1).lt infinity = true) {v : ℝ}
    (unit : 0 ≤ v ∧ v ≤ 1) : infinity.Inside v := by
  obtain ⟨p, i, ⟨⟩, hi, less⟩ := lt_iff.1 one
  have below : ((1 : ℝ) : EReal) < i := by exact_mod_cast less
  have above : -i < ((0 : ℝ) : EReal) := by
    rw [EReal.neg_lt_comm, ← EReal.coe_neg, neg_zero]
    exact (EReal.coe_le_coe_iff.2 zero_le_one).trans_lt below
  exact ⟨i, hi, above.trans_le (EReal.coe_le_coe_iff.2 unit.1),
    (EReal.coe_le_coe_iff.2 unit.2).trans_lt below⟩

/-- Whether a side lets a value through is read off the number in its place, unless the side is a
number that stands for infinity and the value lies beyond it. -/
theorem readSide_compare {infinity : Scalar} {x : Float} {v : ℝ}
    (positive : infinity.neg.lt infinity = true) (clear : infinity.Apart x ∨ infinity.Inside v) :
    ((∃ l, readSide infinity (ofSide infinity x) = some l ∧ l ≤ v) ↔ Number.FromBelow x v) ∧
      ((∃ u, readSide infinity (ofSide infinity x) = some u ∧ v ≤ u) ↔ Number.FromAbove x v) := by
  by_cases apart : infinity.Apart x
  · rw [readSide_ofSide positive apart]
    exact ⟨Iff.rfl, Iff.rfl⟩
  obtain ⟨i, hi, above, below⟩ := clear.resolve_left apart
  unfold Apart at apart
  obtain ⟨finite, mistaken⟩ := Classical.not_imp.1 apart
  unfold Number.FromBelow Number.FromAbove readSide
  rw [ofSide_finite finite]
  cases top : (real x).same infinity with
  | true =>
      have here : Number.point x = some i := (point_eq_of_same top).trans hi
      simp only [here, if_true, Option.some.injEq, exists_eq_left']
      exact ⟨iff_of_false (not_le_of_gt (EReal.coe_lt_top v)) (not_le_of_gt below),
        iff_of_true le_top below.le⟩
  | false =>
      have bot : (real x).same infinity.neg = true := by
        by_contra other
        exact mistaken ⟨top, Bool.eq_false_iff.2 other⟩
      have here : Number.point x = some (-i) := by
        refine (point_eq_of_same bot).trans ?_
        rw [point_neg, hi]
        rfl
      simp only [here, bot, Bool.false_eq_true, if_false, if_true, Option.some.injEq,
        exists_eq_left']
      exact ⟨iff_of_true bot_le above.le,
        iff_of_false (not_le_of_gt (EReal.bot_lt_coe v)) (not_le_of_gt above)⟩

/-- A number in the place of infinity lets through what infinity does, up to that number. -/
theorem within_withInfinity {infinity : Float} {v : ℝ} (inside : (real infinity).Inside v)
    (range : Float × Float) :
    Number.Within (Number.withInfinity infinity range.1, Number.withInfinity infinity range.2) v ↔
      Number.Within range v := by
  obtain ⟨i, hi, above, below⟩ := inside
  have neg : Number.point (-infinity) = some (-i) := by
    have negated : (real infinity).neg.point = some (-i) := by
      rw [point_neg, hi]
      rfl
    exact negated
  have here : Number.point infinity = some i := hi
  have sides : ∀ x, (Number.FromBelow (Number.withInfinity infinity x) v ↔ Number.FromBelow x v) ∧
      (Number.FromAbove (Number.withInfinity infinity x) v ↔ Number.FromAbove x v) := by
    intro x
    unfold Number.FromBelow Number.FromAbove
    cases infinite : x.isInf with
    | true =>
        cases Number.isInf_iff.1 infinite with
        | inl top =>
            simp only [Number.withInfinity_top top, here, top, Option.some.injEq, exists_eq_left']
            exact ⟨iff_of_false (not_le_of_gt below) (not_le_of_gt (EReal.coe_lt_top v)),
              iff_of_true below.le le_top⟩
        | inr bot =>
            simp only [Number.withInfinity_bot bot, neg, bot, Option.some.injEq, exists_eq_left']
            exact ⟨iff_of_true above.le bot_le,
              iff_of_false (not_le_of_gt above) (not_le_of_gt (EReal.bot_lt_coe v))⟩
    | false =>
        rw [Number.withInfinity_finite infinite]
        exact ⟨Iff.rfl, Iff.rfl⟩
  exact and_congr (sides range.1).1 (sides range.2).2

/-- Between numbers in the place of two sides lies what lies between the sides. -/
theorem sidesAllow_iff {infinity lower upper : Scalar} {range : Float × Float} {v : ℝ}
    (positive : infinity.neg.lt infinity = true)
    (hlower : readSide infinity lower = readSide infinity (ofSide infinity range.1))
    (hupper : readSide infinity upper = readSide infinity (ofSide infinity range.2))
    (clearLower : infinity.Apart range.1 ∨ infinity.Inside v)
    (clearUpper : infinity.Apart range.2 ∨ infinity.Inside v) :
    SidesAllow infinity lower upper v ↔ Number.Within range v := by
  unfold SidesAllow
  rw [hlower, hupper]
  exact and_congr (readSide_compare positive clearLower).1 (readSide_compare positive clearUpper).2

end Scalar

/-! ## Coefficients -/

/-- The terms of an expression as they go into a native model. -/
def Expression.native (e : Expression) : List (ℕ × Value) :=
  e.coefficients.entries.map fun t => (t.1, .ofFloat t.2)

/-- The value of native terms at a point; terms with a coefficient that is no number have none. -/
noncomputable def termsAt (x : ℕ → ℝ) (terms : List (ℕ × Value)) : Option ℝ := do
  let read ← terms.mapM fun t => do
    let a ← t.2.toFloat.toOption
    return (t.1, a)
  sumAt x read

theorem termsAt_native (e : Expression) (x : ℕ → ℝ) :
    termsAt x e.native = sumAt x e.coefficients.entries := by
  have read : e.native.mapM (fun t => do
      let a ← t.2.toFloat.toOption
      return (t.1, a)) = some e.coefficients.entries := by
    unfold Expression.native
    induction e.coefficients.entries with
    | nil => rfl
    | cons t rest ih =>
        rw [List.map_cons, List.mapM_cons, ih]
        rfl
  unfold termsAt
  rw [read]
  rfl

end LinearDispatch
