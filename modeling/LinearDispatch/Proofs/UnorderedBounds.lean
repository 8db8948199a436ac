import LinearDispatch.Proofs.GurobiModel
import LinearDispatch.Proofs.UnreadableValues

/-!
# Bounds without an order

Giving a bound its shape drops two sides of which the upper one is below the lower one. That is not
the same as keeping those of which the lower one is at most the upper one: a side that is no number
is neither below nor above anything, so it passes. The shapes that have one side or one value are
not checked at all.

`Bound.le_iff_numeric` is the difference between the two comparisons, and
`Reachable.in_order_iff_numeric` says what it comes to in a store that was built by the operations
on models: a bound has its sides in order exactly if both are numbers, and an accepted call leaves
it so exactly if it was given numbers for the sides that its shape takes. The ranges that go to the
backends are those of these bounds.
-/

namespace LinearDispatch

namespace Number

open Float.Model (UnpackedFloat)

theorem isNaN_of_point {x : Float} {p : EReal} (h : point x = some p) : x.isNaN = false := by
  have unpacked : x.isNaN = (unpack x).isNaN := rfl
  rw [unpacked]
  unfold point at h
  cases hu : unpack x with
  | notANumber =>
      rw [hu] at h
      cases h
  | infinity | zero | finite => rfl

theorem isLE_cmp_iff {p q : EReal} : (cmp p q).isLE = true ↔ p ≤ q := by
  rcases lt_trichotomy p q with less | rfl | more
  · rw [(cmp_eq_lt_iff p q).2 less]
    exact iff_of_true rfl less.le
  · rw [cmp_self_eq_eq]
    exact iff_of_true rfl le_rfl
  · rw [(cmp_eq_gt_iff p q).2 more]
    exact iff_of_false nofun more.not_ge

/-- One number is at most another exactly if both stand for points and the points are in that order.
-/
theorem le_iff {a b : Float} :
    a ≤ b ↔ ∃ p q, point a = some p ∧ point b = some q ∧ p ≤ q := by
  have unpacked : a ≤ b ↔ ((unpack a).compare (unpack b)).any (·.isLE) = true :=
    decide_eq_true_iff
  rw [unpacked, compare_eq]
  cases point a with
  | none => exact iff_of_false nofun nofun
  | some p =>
      cases point b with
      | none => exact iff_of_false nofun nofun
      | some q =>
          simp only [Option.some.injEq, exists_eq_left', exists_and_left]
          exact isLE_cmp_iff

end Number

/-- The sides that a shape stores. -/
def BoundKind.taken (shape : BoundKind) (lower upper : Float) : List Float :=
  match shape with
  | .unset => []
  | .fixed | .lower => [lower]
  | .upper => [upper]
  | .double => [lower, upper]

namespace Bound

/-- What is not the wrong way round is in order if it consists of numbers. -/
theorem le_iff_numeric {b : Bound} (ordered : b.Ordered) :
    b.range.1 ≤ b.range.2 ↔ b.isNumeric = true := by
  rw [Number.le_iff]
  constructor
  · rintro ⟨p, q, hp, hq, -⟩
    rw [isNumeric, Number.isNaN_of_point hp, Number.isNaN_of_point hq]
    rfl
  · exact points_of_ordered ordered

/-- Where the sides fit the kind, they are the range. -/
theorem lower_le_upper_iff {b : Bound} (fits : b.SidesFit) :
    b.lower ≤ b.upper ↔ b.isNumeric = true := by
  rw [← le_iff_numeric fits.ordered, fits.range_eq]
  rfl

theorem isNumeric_ofSides (shape : BoundKind) (l u : Float) :
    (ofSides shape l u).isNumeric = true ↔ ∀ x ∈ shape.taken l u, x.isNaN = false := by
  have infinity : Number.infinity.isNaN = false := Number.isNaN_of_point Number.point_infinity
  have negInfinity : Number.negInfinity.isNaN = false :=
    Number.isNaN_of_point Number.point_negInfinity
  unfold isNumeric
  rw [Bool.not_eq_true', Bool.or_eq_false_iff]
  cases shape <;>
    simp only [ofSides, unset, range, BoundKind.taken, infinity, negInfinity, true_and, and_true,
      and_self, List.not_mem_nil, List.forall_mem_cons, false_imp_iff, imp_true_iff]

end Bound

namespace Model

/-- A call with two numbers is accepted unless its kind is none of the four shapes or they are the
two sides of a double bound the wrong way round. -/
theorem shapeBound_accepted_iff (r : Ref Bound) (kind : Choice BoundKind) (l u : Float)
    (w : Workspace) :
    Receipt.isAcceptance ((shapeBound r kind (.ofFloat l) (.ofFloat u)).run w).1 = true ↔
      ∃ shape, kind = .member shape ∧ shape ≠ .unset ∧ ¬(shape = .double ∧ u < l) := by
  rw [shapeBound_answer, Receipt.isAcceptance_map_snd, Bound.exists_accepted_iff]
  constructor
  · rintro ⟨shape, l', u', acceptable⟩
    cases acceptable.lower
    cases acceptable.upper
    exact ⟨shape, acceptable.kind, acceptable.settable, acceptable.inOrder⟩
  · rintro ⟨shape, kind, settable, inOrder⟩
    exact ⟨shape, l, u, kind, settable, rfl, rfl, inOrder⟩

/-- An accepted call leaves the sides in order exactly if it was given numbers for those that its
shape takes. -/
theorem le_iff_of_accepted {r : Ref Bound} {shape : BoundKind} {l u : Float} {w : Workspace}
    (inside : r.index < w.models.bounds.items.size)
    (accepted : Receipt.isAcceptance
      ((shapeBound r (.member shape) (.ofFloat l) (.ofFloat u)).run w).1 = true) :
    let b := ((shapeBound r (.member shape) (.ofFloat l) (.ofFloat u)).run w).2.models.bounds.get r
    b.lower ≤ b.upper ↔ ∀ x ∈ shape.taken l u, x.isNaN = false := by
  intro b
  obtain ⟨answer, w', ran, -, became, -⟩ :=
    shapeBound_spec inside ⟨.member shape, .ofFloat l, .ofFloat u⟩
  obtain ⟨shape', same, settable, inOrder⟩ := (shapeBound_accepted_iff r _ l u w).1 accepted
  cases same
  have acceptable : Bound.Acceptable (.member shape) (.ofFloat l) (.ofFloat u) shape l u :=
    ⟨rfl, settable, rfl, rfl, inOrder⟩
  have stored : b = Bound.ofSides shape l u := by
    show ((shapeBound r _ _ _).run w).2.models.bounds.get r = _
    rw [ran] at accepted ⊢
    exact became.trans (if_pos accepted)
  rw [stored, Bound.lower_le_upper_iff acceptable.sidesFit, Bound.isNumeric_ofSides]

/-- In a store that comes about by building, a bound has its sides in order exactly if they are
numbers. A call with two numbers is dropped only if it has no shape to give or is the wrong way
round; and if it is accepted, the sides are in order exactly if those are numbers that the shape
takes. So it is with the ranges of all columns and rows. -/
theorem Reachable.in_order_iff_numeric {w : Workspace} (built : Reachable w.models) :
    (∀ r, (w.models.bounds.get r).lower ≤ (w.models.bounds.get r).upper ↔
      (w.models.bounds.get r).isNumeric = true) ∧
    (∀ (r : Ref Bound) (kind : Choice BoundKind) (l u : Float),
      Receipt.isAcceptance ((shapeBound r kind (.ofFloat l) (.ofFloat u)).run w).1 = true ↔
        ∃ shape, kind = .member shape ∧ shape ≠ .unset ∧ ¬(shape = .double ∧ u < l)) ∧
    (∀ (r : Ref Bound) (shape : BoundKind) (l u : Float), r.index < w.models.bounds.items.size →
      let after := (shapeBound r (.member shape) (.ofFloat l) (.ofFloat u)).run w
      Receipt.isAcceptance after.1 = true →
      ((after.2.models.bounds.get r).lower ≤ (after.2.models.bounds.get r).upper ↔
        ∀ x ∈ shape.taken l u, x.isNaN = false)) ∧
    ∀ p,
      (∀ c ∈ (w.models.problem p).columns,
        c.bound.range.1 ≤ c.bound.range.2 ↔ c.bound.isNumeric = true) ∧
      ∀ r ∈ (w.models.problem p).rows,
        r.bound.range.1 ≤ r.bound.range.2 ↔ r.bound.isNumeric = true := by
  refine ⟨fun r => Bound.lower_le_upper_iff (built.sidesFit r),
    fun r kind l u => shapeBound_accepted_iff r kind l u w,
    fun r shape l u inside => le_iff_of_accepted inside,
    fun p => ⟨fun c mem => ?_, fun r mem => ?_⟩⟩
  · obtain ⟨v, -, rfl⟩ := List.mem_map.1 mem
    exact Bound.le_iff_numeric (built.ordered _)
  · obtain ⟨c, -, rfl⟩ := List.mem_map.1 mem
    exact Bound.le_iff_numeric (built.ordered _)

/-- The range of a column in a program may have a side that is no number; and a call that gives a
shape with such a side is accepted. -/
theorem unordered_column :
    let w := performAll
      [.newVariable (.member .continuous) (.text "x"),
        .shapeBound ⟨0⟩ (.member .double) (.ofFloat Number.notANumber) (.ofFloat 1.0),
        .newProgram .none, .appendVariables ⟨0⟩ [.proper ⟨0⟩]]
      { Sample.workspace .binary with models := .empty }
    let after := (shapeBound ⟨0⟩ (.member .upper) (.ofFloat 0.0) (.ofFloat Number.notANumber)).run w
    ∃ c ∈ (w.models.problem ⟨0⟩).columns, ¬c.bound.range.1 ≤ c.bound.range.2 ∧
      Receipt.isAcceptance after.1 = true ∧
      ¬(after.2.models.bounds.get ⟨0⟩).lower ≤ (after.2.models.bounds.get ⟨0⟩).upper := by
  intro w after
  have built : Reachable w.models := Reachable.performAll _ .empty
  obtain ⟨-, accepted, stored, ranges⟩ := built.in_order_iff_numeric
  have mem : w.models.column ⟨0⟩ ∈ (w.models.problem ⟨0⟩).columns := List.mem_singleton.2 rfl
  have notNumeric : (w.models.column ⟨0⟩).bound.isNumeric = false := by decide +kernel
  have inside : (⟨0⟩ : Ref Bound).index < w.models.bounds.items.size := by decide +kernel
  have taken : Receipt.isAcceptance after.1 = true :=
    (accepted ⟨0⟩ _ _ _).2 ⟨.upper, rfl, nofun, nofun⟩
  refine ⟨_, mem, fun le => ?_, taken, fun le => ?_⟩
  · cases notNumeric.symm.trans (((ranges ⟨0⟩).1 _ mem).1 le)
  · cases (stored ⟨0⟩ .upper _ _ inside taken).1 le _ List.mem_cons_self

/-- A double bound is accepted of which the lower side is not at most the upper one. -/
theorem unordered_pair_accepted :
    let w := performAll [.newBound] { Sample.workspace .binary with models := .empty }
    let after :=
      (shapeBound ⟨0⟩ (.member .double) (.ofFloat Number.notANumber) (.ofFloat 1.0)).run w
    Reachable w.models ∧ after.1 = .ok .stored ∧
      (after.2.models.bounds.get ⟨0⟩).kind = .double ∧
      ¬(after.2.models.bounds.get ⟨0⟩).lower ≤ (after.2.models.bounds.get ⟨0⟩).upper := by
  intro w after
  exact ⟨Reachable.performAll _ .empty, by decide +kernel⟩

end Model

end LinearDispatch
