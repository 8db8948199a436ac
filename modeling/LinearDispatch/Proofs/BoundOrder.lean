import LinearDispatch.Proofs.Edits
import LinearDispatch.Proofs.NumberOrder

/-!
# No bound is the wrong way round

A bound has its two sides from somebody who may have mixed them up, and keeps a side that its kind
has no use for. Giving it a shape drops sides that are mixed up and writes both fields, so in a
store that was built by the operations on models the sides of every bound fit its kind. Of the edits
that building consists of only two are made to bounds: a new one comes in, or an old one is given
its shape. From that it follows that no range has an upper side below its lower one. Sides that are
no numbers are in no order, and nothing is said about them.
-/

namespace LinearDispatch

/-! ## One bound -/

/-- The upper side of a bound is not below its lower one. -/
def Bound.Ordered (b : Bound) : Prop :=
  ¬b.range.2 < b.range.1

namespace Bound

theorem ordered_of_same {b : Bound} (same : b.range.1 = b.range.2) : b.Ordered := by
  intro below
  obtain ⟨p, q, hp, hq, less⟩ := Number.lt_iff.1 below
  rw [same] at hq
  cases hp.symm.trans hq
  exact less.ne rfl

theorem ordered_of_upper_open {b : Bound} (isOpen : b.range.2 = Number.infinity) : b.Ordered := by
  intro below
  obtain ⟨p, q, hp, -, less⟩ := Number.lt_iff.1 below
  rw [isOpen] at hp
  cases hp.symm.trans Number.point_infinity
  exact not_top_lt less

theorem ordered_of_lower_open {b : Bound} (isOpen : b.range.1 = Number.negInfinity) :
    b.Ordered := by
  intro below
  obtain ⟨p, q, -, hq, less⟩ := Number.lt_iff.1 below
  rw [isOpen] at hq
  cases hq.symm.trans Number.point_negInfinity
  exact not_lt_bot less

/-- A bound whose sides fit its kind is the right way round: it is open on one side, has the same
side twice, or was given both in order. -/
theorem SidesFit.ordered {b : Bound} (fits : b.SidesFit) : b.Ordered := by
  have range : b.range = (b.lower, b.upper) := fits.range_eq
  unfold SidesFit at fits
  cases kind : b.kind with
  | unset =>
      rw [kind] at fits
      exact ordered_of_upper_open ((congrArg Prod.snd range).trans (congrArg Prod.snd fits))
  | fixed =>
      rw [kind] at fits
      refine ordered_of_same ?_
      rw [range]
      exact fits
  | lower =>
      rw [kind] at fits
      exact ordered_of_upper_open ((congrArg Prod.snd range).trans fits)
  | upper =>
      rw [kind] at fits
      exact ordered_of_lower_open ((congrArg Prod.fst range).trans fits)
  | double =>
      rw [kind] at fits
      unfold Ordered
      rw [range]
      exact fits

end Bound

/-! ## All bounds of a store -/

/-- Every bound in the store has sides that fit its kind. -/
def Store.SidesFit (models : Store) : Prop :=
  ∀ r, (models.bounds.get r).SidesFit

theorem Store.sidesFit_empty : Store.empty.SidesFit :=
  fun _ => rfl

/-! ## Building -/

namespace Model

/-- Only two kinds of edits are made to bounds, and both leave sides that fit. -/
theorem Edit.sidesFit {operation : Operation} {s t : Store} (edit : Edit operation s t)
    (h : s.SidesFit) : t.SidesFit := by
  cases edit with
  | newBound kind =>
      intro r
      show ((s.bounds.push (initialBound kind)).get r).SidesFit
      obtain old | new := s.bounds.get_push_cases (initialBound kind) r
      · rw [old]
        exact h r
      · rw [new]
        exact fits_initialBound kind
  | @bound r' _ _ _ b _ set =>
      intro r
      show ((s.bounds.set r' b).get r).SidesFit
      obtain old | ⟨-, new⟩ := s.bounds.get_set_cases r' r b
      · rw [old]
        exact h r
      · rw [new]
        exact (h r').set set
  | newExpression | term | newVariable | newConstraint | newProgram | appendVariable | objective
    | appendRow => exact h

theorem Edits.sidesFit {operation : Operation} {s t : Store} (edits : Edits operation s t)
    (h : s.SidesFit) : t.SidesFit := by
  induction edits with
  | refl => exact h
  | tail _ edit fits => exact edit.sidesFit fits

/-- In a store that comes about by building, the sides of every bound fit its kind. -/
theorem Reachable.sidesFit {models : Store} (h : Reachable models) : models.SidesFit := by
  induction h with
  | empty => exact Store.sidesFit_empty
  | @perform operation w _ fits => exact (operation.edits_perform w).sidesFit fits

theorem Reachable.ordered {models : Store} (h : Reachable models) (r : Ref Bound) :
    (models.bounds.get r).Ordered :=
  (h.sidesFit r).ordered

end Model

end LinearDispatch
