import LinearDispatch.Proofs.GurobiAssembly
import LinearDispatch.Proofs.OrToolsAssembly

/-!
# Infinite sides on their way out

A side of a column or of a row may be infinite, and a native solver has a number of its own for
that. This file reads off the calls what the adapters make of such sides, in whatever state the
adapter is and whatever fails on the way.

OR-Tools gets every side cut down to the range of its solver. `point_clampScalar` is the closed
form of the cut, and all that is said about these sides comes from it: nothing beyond the range is
sent, what lies within is sent as it is, and two sides keep their order.

Gurobi gets the sides of a column mapped one by one. The sides of a row are not mapped: they decide
which of four calls is made, and in each of them an infinite side is the one that the call leaves
open. That is right for all ranges in order but those whose sides are one infinity. Their row is an
equation, which leaves nothing open, and so Gurobi is told that the row equals an infinity that it
does not know. `infinities_mapped` has both, and `row_passes_infinity` is such a row.
-/

namespace LinearDispatch

open LinearDispatch.Action Workspace
open Number (point)

/-! ## Sides in calls -/

/-- One of the two infinities of binary64. -/
def Value.isInfinity : Value → Bool
  | .scalar (.real x) => x.isInf
  | _ => false

/-- The sides that Gurobi is told. -/
def GurobiCall.sides : GurobiCall → List Value
  | .addVariable lower upper _ _ => [.scalar lower, .scalar upper]
  | .addRow _ _ side _ => [side]
  | .addRange _ lower upper _ => [lower, upper]
  | .createEnvironment _ | .setEnvironmentParameter .. | .startEnvironment | .disposeEnvironment _
  | .createModel _ | .setParameter .. | .setObjective .. | .update | .optimize | .disposeModel => []

/-- The sides that OR-Tools is told, if there are any; the call for a binary column on [0, 1] says
them by its name. -/
def OrToolsCall.sides? : OrToolsCall → Option (Scalar × Scalar)
  | .numVariable lower upper _ | .intVariable lower upper _ | .constraint lower upper _ =>
    some (lower, upper)
  | .boolVariable _ => some (.int 0, .int 1)
  | .createSolver _ | .enableOutput | .suppressOutput | .setTimeLimit _ | .setThreads _
  | .setParameterText _ | .rowCoefficient .. | .clearObjective | .objectiveCoefficient ..
  | .minimize | .solve => none

/-- Gurobi is told an infinity of binary64 as a side. -/
def NativeCall.passesInfinity : NativeCall → Bool
  | .gurobi c => c.sides.any Value.isInfinity
  | .orTools _ | .highs _ => false

/-- Both sides of a bound are the same infinity. -/
def Bound.isOneInfinity (b : Bound) : Bool :=
  b.range.1.isInf && (Scalar.real b.range.1).same (.real b.range.2)

/-- The sides of a column are numbers if those of its bound are. -/
theorem Column.points_of_numeric {c : Column} (ordered : c.bound.Ordered)
    (numeric : c.bound.isNumeric = true) :
    ∃ p q, point c.range.1 = some p ∧ point c.range.2 = some q := by
  obtain ⟨p, q, hp, hq, -⟩ := Bound.points_of_ordered ordered numeric
  have lower : ∃ p, point (larger c.bound.range.1 0.0) = some p := by
    unfold larger
    split
    · exact ⟨0, Number.point_zero⟩
    · exact ⟨p, hp⟩
  have upper : ∃ q, point (smaller c.bound.range.2 1.0) = some q := by
    unfold smaller
    split
    · exact ⟨1, Number.point_one⟩
    · exact ⟨q, hq⟩
  unfold Column.range
  by_cases binary : c.kind = .binary
  · obtain ⟨l, hl⟩ := lower
    obtain ⟨u, hu⟩ := upper
    simp only [binary, if_true]
    exact ⟨l, u, hl, hu⟩
  · simp only [binary, if_false]
    exact ⟨p, q, hp, hq⟩

/-! ## OR-Tools -/

namespace Scalar

variable {a b : Scalar} {p q : EReal}

theorem point_lesser (ha : a.point = some p) (hb : b.point = some q) :
    (if a.lt b then a else b).point = some (min p q) := by
  split
  · next below =>
      obtain ⟨p', q', hp, hq, less⟩ := lt_iff.1 below
      cases ha.symm.trans hp
      cases hb.symm.trans hq
      rw [ha, min_eq_left less.le]
  · next notBelow =>
      have above : q ≤ p := not_lt.1 fun less => notBelow (lt_iff.2 ⟨p, q, ha, hb, less⟩)
      rw [hb, min_eq_right above]

theorem point_greater (ha : a.point = some p) (hb : b.point = some q) :
    (if a.lt b then b else a).point = some (max p q) := by
  split
  · next below =>
      obtain ⟨p', q', hp, hq, less⟩ := lt_iff.1 below
      cases ha.symm.trans hp
      cases hb.symm.trans hq
      rw [hb, max_eq_right less.le]
  · next notBelow =>
      have above : q ≤ p := not_lt.1 fun less => notBelow (lt_iff.2 ⟨p, q, ha, hb, less⟩)
      rw [ha, max_eq_left above]

/-- A point lies in the range of a solver with this infinity, its ends included. -/
def Spans (infinity : Scalar) (p : EReal) : Prop :=
  ∃ i, infinity.point = some i ∧ -i ≤ p ∧ p ≤ i

end Scalar

namespace OrToolsAdapter

variable {infinity : Scalar}

/-- Two sides as the solver may get them: both lie in its range, a side that lies there is sent as
the number that it is, and the two stand to each other as they did. -/
structure Fits (infinity : Scalar) (range : Float × Float) (lower upper : Scalar) : Prop where
  inside : ∀ s ∈ [lower, upper], ∃ p, s.point = some p ∧ infinity.Spans p
  lower_kept : ∀ p, point range.1 = some p → infinity.Spans p → lower.point = some p
  upper_kept : ∀ p, point range.2 = some p → infinity.Spans p → upper.point = some p
  order_kept : ∀ p q l u, point range.1 = some p → point range.2 = some q →
    lower.point = some l → upper.point = some u → (p ≤ q → l ≤ u) ∧ (q ≤ p → u ≤ l)

theorem Fits.congr {range : Float × Float} {lower upper lower' upper' : Scalar}
    (h : Fits infinity range lower upper) (same : lower'.point = lower.point)
    (same' : upper'.point = upper.point) : Fits infinity range lower' upper' := by
  obtain ⟨inside, lower_kept, upper_kept, order_kept⟩ := h
  rw [List.forall_mem_cons, List.forall_mem_singleton] at inside
  refine ⟨?_, ?_, ?_, ?_⟩
  · rw [List.forall_mem_cons, List.forall_mem_singleton, same, same']
    exact inside
  · rw [same]
    exact lower_kept
  · rw [same']
    exact upper_kept
  · rw [same, same']
    exact order_kept

/-- What a call tells about a range, if it tells anything, fits the solver. -/
def Keeps (infinity : Scalar) (range : Float × Float) (call : NativeCall) : Prop :=
  ∀ c lower upper, call = .orTools c → c.sides? = some (lower, upper) →
    Fits infinity range lower upper

/-- Cutting down a side moves its point to the nearest one in the range of the solver. -/
theorem point_clampScalar {i p : EReal} {x : Float} (hi : infinity.point = some i)
    (hp : point x = some p) :
    (clampScalar infinity (.real x)).point = some (max (-i) (min p i)) := by
  have negative : infinity.neg.point = some (-i) := by
    rw [Scalar.point_neg, hi]
    rfl
  exact Scalar.point_greater negative (Scalar.point_lesser hp hi)

theorem fits_clampScalar (positive : (Scalar.int 0).lt infinity = true) {range : Float × Float}
    {p q : EReal} (hp : point range.1 = some p) (hq : point range.2 = some q) :
    Fits infinity range (clampScalar infinity (.real range.1))
      (clampScalar infinity (.real range.2)) := by
  obtain ⟨z, i, hz, hi, above⟩ := Scalar.lt_iff.1 positive
  cases Scalar.point_zero.symm.trans hz
  have wide : -i ≤ i := (EReal.neg_lt_zero.2 above).le.trans above.le
  have lower := point_clampScalar hi hp
  have upper := point_clampScalar hi hq
  have spans : ∀ r : EReal, infinity.Spans (max (-i) (min r i)) :=
    fun r => ⟨i, hi, le_max_left _ _, max_le wide (min_le_right _ _)⟩
  have kept : ∀ {r : EReal}, infinity.Spans r → max (-i) (min r i) = r := by
    rintro r ⟨i', hi', low, high⟩
    cases hi.symm.trans hi'
    rw [min_eq_left high, max_eq_right low]
  have monotone : ∀ {r t : EReal}, r ≤ t → max (-i) (min r i) ≤ max (-i) (min t i) :=
    fun le => max_le_max le_rfl (min_le_min le le_rfl)
  refine ⟨?_, fun r hr inside => ?_, fun r hr inside => ?_, fun r t l u hr ht hl hu => ?_⟩
  · rw [List.forall_mem_cons, List.forall_mem_singleton]
    exact ⟨⟨_, lower, spans p⟩, _, upper, spans q⟩
  · cases hp.symm.trans hr
    rw [lower, kept inside]
  · cases hq.symm.trans hr
    rw [upper, kept inside]
  · cases hp.symm.trans hr
    cases hq.symm.trans ht
    cases lower.symm.trans hl
    cases upper.symm.trans hu
    exact ⟨monotone, monotone⟩

theorem setCoefficients_makes {P : NativeCall → Prop} {target : ℕ → Value → OrToolsCall}
    (told : ∀ column coefficient, P (.orTools (target column coefficient)))
    (entries : List (Key × Value)) : Makes Prod.snd P (setCoefficients target entries) := by
  induction entries with
  | nil => exact makes_pure ()
  | cons e rest ih =>
      refine makes_bind (makes_look _) fun columns => makes_bind (makes_ofExcept _) fun column => ?_
      exact makes_bind (makes_onSecond (makes_call (told column e.2))) fun _ => ih

/-- An action that needs a solver and two sides gets the sides cut down to its range. -/
theorem extends_of_sides {P : NativeCall → Prop} {s : OrToolsAdapter × Workspace}
    (reads : s.2.orTools.infinity = .scalar infinity) (part : String) (range : Float × Float)
    {rest : OrToolsSolver → Scalar → Scalar → Action (OrToolsAdapter × Workspace) Unit}
    (tells : ∀ solver, Makes Prod.snd P
      (rest solver (clampScalar infinity (.real range.1)) (clampScalar infinity (.real range.2)))) :
    s.2.Extends P ((do
      let solver ← requireSolver part
      let lower ← mapSide (.ofFloat range.1)
      let upper ← mapSide (.ofFloat range.2)
      rest solver lower upper : Action (OrToolsAdapter × Workspace) Unit).run s).2.2 := by
  have required := requireSolver_makes (P := P) part s
  refine related_bind (R := Extends Prod.snd P) required fun solver t ran => ?_
  rw [ran] at required
  have same : t.2.orTools.infinity = .scalar infinity := required.infinity.trans reads
  obtain ⟨a, w⟩ := t
  rw [run_bind, mapSide_run same]
  dsimp only
  rw [run_bind, mapSide_run same]
  exact tells solver (a, w)

/-- The call for a column tells its sides, by its name if they are 0 and 1. -/
theorem sides?_columnCall (kind : VariableKind) (lower upper : Scalar) (name : Value) :
    ∃ lower' upper', (columnCall kind lower upper name).sides? = some (lower', upper') ∧
      lower'.point = lower.point ∧ upper'.point = upper.point := by
  unfold columnCall
  cases kind with
  | continuous | integer => exact ⟨_, _, rfl, rfl, rfl⟩
  | binary =>
      dsimp only
      split
      · next unit =>
          obtain ⟨zero, one⟩ := points_of_unit unit
          exact ⟨.int 0, .int 1, rfl, Scalar.point_zero.trans zero.symm,
            Scalar.point_one.trans one.symm⟩
      · exact ⟨_, _, rfl, rfl, rfl⟩

/-- In whatever state the adapter is, what it tells about a column fits its solver. -/
theorem give_column_keeps (positive : (Scalar.int 0).lt infinity = true) {c : Column}
    {p q : EReal} (hp : point c.range.1 = some p) (hq : point c.range.2 = some q) (place : ℕ)
    {s : OrToolsAdapter × Workspace} (reads : s.2.orTools.infinity = .scalar infinity) :
    s.2.Extends (Keeps infinity c.range) ((Adapter.give (c.part place)).run s).2.2 := by
  refine extends_of_sides reads "infinity" c.range fun solver => ?_
  refine makes_bind (makes_onSecond (makes_call ?_)) fun _ => makes_remember _
  rintro call lower upper told sides
  cases told
  obtain ⟨lower', upper', sent, same, same'⟩ := sides?_columnCall c.kind
    (clampScalar infinity (.real c.range.1)) (clampScalar infinity (.real c.range.2)) _
  cases sides.symm.trans sent
  exact (fits_clampScalar positive hp hq).congr same same'

/-- In whatever state the adapter is, what it tells about a row fits its solver. -/
theorem give_row_keeps (positive : (Scalar.int 0).lt infinity = true) {r : Row} {p q : EReal}
    (hp : point r.bound.range.1 = some p) (hq : point r.bound.range.2 = some q) (place : ℕ)
    {s : OrToolsAdapter × Workspace} (reads : s.2.orTools.infinity = .scalar infinity) :
    s.2.Extends (Keeps infinity r.bound.range) ((Adapter.give (r.part place)).run s).2.2 := by
  refine extends_of_sides reads "Constraint" r.bound.range fun solver => ?_
  refine makes_bind (makes_onSecond (makes_call ?_)) fun _ => ?_
  · rintro call lower upper told sides
    cases told
    cases sides
    exact fits_clampScalar positive hp hq
  · refine makes_bind (makes_ofExcept _) fun entries => setCoefficients_makes ?_ entries
    rintro column coefficient call lower upper told sides
    cases told
    cases sides

end OrToolsAdapter

/-! ## Gurobi -/

namespace GurobiAdapter

/-- A side of a column as Gurobi may get it: as it is, or Gurobi's infinity with the sign of an
infinite one. -/
structure Maps (infinity x : Float) (s : Scalar) : Prop where
  kept : x.isInf = false → s = .real x
  top : point x = some ⊤ → s = .real infinity
  bottom : point x = some ⊥ → s = .real (-infinity)

/-- The call for a column. -/
inductive TellsColumn (infinity : Float) (c : Column) : NativeCall → Prop
  | variable {lower upper : Scalar} {name : Value} (maps_lower : Maps infinity c.range.1 lower)
      (maps_upper : Maps infinity c.range.2 upper) :
      TellsColumn infinity c (.gurobi (.addVariable lower upper c.kind name))

/-- The calls for a row with such a range. An infinite side of an inequality is the one that its
sense leaves open, and a range has none. -/
inductive TellsRow (range : Float × Float) : NativeCall → Prop
  | equation {terms : List (ℕ × Value)} {name : Value} (same : point range.1 = point range.2) :
      TellsRow range (.gurobi (.addRow terms .equal (.ofFloat range.1) name))
  | atMost {terms : List (ℕ × Value)} {name : Value} (opened : point range.1 = some ⊥)
      (closed : range.2.isInf = false) :
      TellsRow range (.gurobi (.addRow terms .lessEqual (.ofFloat range.2) name))
  | atLeast {terms : List (ℕ × Value)} {name : Value} (closed : range.1.isInf = false)
      (opened : point range.2 = some ⊤) :
      TellsRow range (.gurobi (.addRow terms .greaterEqual (.ofFloat range.1) name))
  | between {terms : List (ℕ × Value)} {name : Value} (lower : range.1.isInf = false)
      (upper : range.2.isInf = false) :
      TellsRow range (.gurobi (.addRange terms (.ofFloat range.1) (.ofFloat range.2) name))

theorem maps_side (infinity x : Float) : Maps infinity x (side infinity x) :=
  ⟨fun finite => Scalar.ofSide_finite finite _, fun top => Scalar.ofSide_top top _,
    fun bottom => Scalar.ofSide_bot bottom _⟩

theorem Maps.not_isInfinity {infinity x : Float} {s : Scalar} (h : Maps infinity x s)
    (finite : infinity.isInf = false) : Value.isInfinity (.scalar s) = false := by
  cases infinite : x.isInf with
  | false =>
      rw [h.kept infinite]
      exact infinite
  | true =>
      cases Number.isInf_iff.1 infinite with
      | inl top =>
          rw [h.top top]
          exact finite
      | inr bottom =>
          rw [h.bottom bottom]
          exact (Number.isInf_neg infinity).trans finite

theorem TellsColumn.not_passesInfinity {infinity : Float} {c : Column} {call : NativeCall}
    (h : TellsColumn infinity c call) (finite : infinity.isInf = false) :
    call.passesInfinity = false := by
  obtain ⟨lower, upper⟩ := h
  show ([_, _] : List Value).any Value.isInfinity = false
  rw [List.any_cons, List.any_cons, List.any_nil, lower.not_isInfinity finite,
    upper.not_isInfinity finite]
  rfl

/-- Only the equation of a row at an infinity passes one. -/
theorem TellsRow.passesInfinity_iff {b : Bound} {call : NativeCall} (h : TellsRow b.range call) :
    call.passesInfinity = true ↔ b.isOneInfinity = true := by
  have none : b.range.1.isInf = false ∨ b.range.2.isInf = false → ¬b.isOneInfinity = true := by
    intro finite one
    obtain ⟨infinite, same⟩ := (Bool.and_eq_true _ _).mp one
    have equal : point b.range.1 = point b.range.2 := Scalar.point_eq_of_same same
    have infinite' : b.range.2.isInf = true := by
      rw [Number.isInf_iff, ← equal, ← Number.isInf_iff]
      exact infinite
    cases finite with
    | inl lower => exact Bool.false_ne_true (lower.symm.trans infinite)
    | inr upper => exact Bool.false_ne_true (upper.symm.trans infinite')
  cases h with
  | equation same =>
      show (b.range.1.isInf || false) = true ↔ _
      unfold Bound.isOneInfinity
      rw [Bool.or_false, Bool.and_eq_true, iff_self_and]
      intro infinite
      obtain ⟨p, hp⟩ : ∃ p, point b.range.1 = some p := by
        cases Number.isInf_iff.1 infinite with
        | inl top => exact ⟨⊤, top⟩
        | inr bottom => exact ⟨⊥, bottom⟩
      exact Scalar.same_iff.2 ⟨p, hp, same.symm.trans hp⟩
  | atMost opened closed =>
      refine iff_of_false ?_ (none (.inr closed))
      show ¬(b.range.2.isInf || false) = true
      rw [closed]
      exact Bool.false_ne_true
  | atLeast closed opened =>
      refine iff_of_false ?_ (none (.inl closed))
      show ¬(b.range.1.isInf || false) = true
      rw [closed]
      exact Bool.false_ne_true
  | between lower upper =>
      refine iff_of_false ?_ (none (.inl lower))
      show ¬(b.range.1.isInf || (b.range.2.isInf || false)) = true
      rw [lower, upper]
      exact Bool.false_ne_true

/-! ### The adapter -/

theorem terms_makes {P : NativeCall → Prop} (coefficients : Coefficients) :
    Makes Prod.snd P (terms coefficients) :=
  makes_bind (makes_ofExcept _) fun _ => makes_bind requireLibrary_makes fun _ =>
    makes_bind (makes_ofExcept _) fun _ => makes_bind (makes_look _) fun _ =>
      makes_bind (makes_ofExcept _) fun _ => makes_pure _

/-- The module that the adapter was started with, if it was, has this number for infinity. -/
def HasInfinity (infinity : Float) (a : GurobiAdapter) : Prop :=
  ∀ library, a.library = some library → library.infinity = infinity

/-! What is looked up changes nothing. -/

theorem requireModel_stays (part : String) : Within Eq (requireModel part) := by
  refine within_bind (within_gets _) fun model => ?_
  cases model with
  | none => exact within_fail _
  | some m => exact within_pure m

theorem requireLibrary_stays : Within Eq requireLibrary := by
  refine within_bind (within_gets _) fun library => ?_
  cases library with
  | none => exact within_fail _
  | some library => exact within_pure library

theorem constant_stays (name : String) : Within Eq (constant name) :=
  within_bind requireLibrary_stays fun _ => within_check _

theorem readInfinity_stays : Within Eq readInfinity :=
  within_bind (constant_stays _) fun _ => within_bind requireLibrary_stays fun _ => within_pure _

theorem mapSide_stays (side : Value) : Within Eq (mapSide side) := by
  refine within_bind (within_ofExcept _) fun s => within_bind (within_ofExcept _) fun infinite => ?_
  exact within_ite (within_bind readInfinity_stays fun _ => within_pure _) (within_pure _)

theorem requireLibrary_eq_ok {library : GurobiModule} {s t : GurobiAdapter × Workspace}
    (ran : requireLibrary.run s = (.ok library, t)) : s.1.library = some library := by
  obtain ⟨found, s', looked, rest⟩ := run_bind_eq_ok.1 ran
  have read : s.1.library = found := by
    cases looked
    rfl
  cases found with
  | none => cases rest
  | some library' =>
      cases rest
      exact read

theorem readInfinity_eq_ok {infinity i : Float} {s t : GurobiAdapter × Workspace}
    (has : HasInfinity infinity s.1) (ran : readInfinity.run s = (.ok i, t)) : i = infinity := by
  obtain ⟨_, s', found, rest⟩ := run_bind_eq_ok.1 ran
  have stays := constant_stays "INFINITY" s
  rw [found] at stays
  cases stays
  obtain ⟨library, s'', looked, rest⟩ := run_bind_eq_ok.1 rest
  cases rest
  exact has library (requireLibrary_eq_ok looked)

/-- What comes out of the mapping is the side as Gurobi may get it. -/
theorem maps_of_mapSide {infinity x : Float} {s t : GurobiAdapter × Workspace} {mapped : Scalar}
    (has : HasInfinity infinity s.1) (ran : (mapSide (.ofFloat x)).run s = (.ok mapped, t)) :
    Maps infinity x mapped := by
  have mapping : mapSide (.ofFloat x) =
      if x.isInf then (do
        let infinity ← readInfinity
        pure (.real (if Scalar.lt (.int 0) (.real x) then infinity else -infinity)))
      else pure (.real x) := rfl
  rw [mapping] at ran
  cases infinite : x.isInf with
  | false =>
      rw [infinite, if_neg Bool.false_ne_true] at ran
      cases ran
      rw [← Scalar.ofSide_finite infinite (.real infinity)]
      exact maps_side infinity x
  | true =>
      rw [infinite, if_pos rfl] at ran
      obtain ⟨i, s', read, rest⟩ := run_bind_eq_ok.1 ran
      cases rest
      rw [readInfinity_eq_ok has read, ← side_of_isInf infinity infinite]
      exact maps_side infinity x

theorem giveSide_makes {P : NativeCall → Prop} {terms : List (ℕ × Value)} {sense : GurobiSense}
    {side name : Value} (told : P (.gurobi (.addRow terms sense side name))) (senseName : String) :
    Makes Prod.snd P (giveSide terms sense senseName side name) :=
  makes_bind (requireModel_makes _) fun _ => makes_bind (constant_makes _) fun _ =>
    makes_onSecond (makes_call told)

/-- In whatever state the adapter is, a column comes in the call for it or not at all. -/
theorem give_column_tells {infinity : Float} (c : Column) (place : ℕ)
    {s : GurobiAdapter × Workspace} (has : HasInfinity infinity s.1) :
    s.2.Extends (TellsColumn infinity c) ((Adapter.give (c.part place)).run s).2.2 := by
  show s.2.Extends _
    ((giveColumn c.kind (.ofFloat c.range.1) (.ofFloat c.range.2) _).run s).2.2
  refine related_bind_of_stays (R := Extends Prod.snd _) (constant_stays _) fun _ _ => ?_
  refine related_bind_of_stays (R := Extends Prod.snd _) (constant_stays _) fun _ _ => ?_
  refine related_bind_of_stays (R := Extends Prod.snd _) (constant_stays _) fun _ _ => ?_
  refine related_bind_of_stays (R := Extends Prod.snd _) (requireModel_stays _) fun model _ => ?_
  -- the sides that are told are those that came out of the mapping
  refine related_bind_of_stays (R := Extends Prod.snd _) (mapSide_stays _) fun lower ranLower => ?_
  refine related_bind_of_stays (R := Extends Prod.snd _) (mapSide_stays _) fun upper ranUpper => ?_
  refine makes_bind (makes_onSecond (makes_call ?_))
    (fun _ => makes_bind (makes_gets _) fun _ => makes_remember _) s
  exact .variable (maps_of_mapSide has ranLower) (maps_of_mapSide has ranUpper)

/-- In whatever state the adapter is, a row with sides in order comes in one of the calls for it or
not at all. -/
theorem give_row_tells {r : Row} (ordered : r.bound.Ordered) (numeric : r.bound.isNumeric = true)
    (place : ℕ) :
    Makes Prod.snd (TellsRow r.bound.range) (Adapter.give (A := GurobiAdapter) (r.part place)) := by
  obtain ⟨p, q, hp, hq, order⟩ := Bound.points_of_ordered ordered numeric
  show Makes Prod.snd _ (giveRow _ (.ofFloat r.bound.range.1) (.ofFloat r.bound.range.2) _)
  refine makes_bind (terms_makes _) fun expression => ?_
  have same : (Value.ofFloat r.bound.range.1).same (.ofFloat r.bound.range.2) = true ↔ p = q := by
    show (Scalar.real r.bound.range.1).same (.real r.bound.range.2) = true ↔ _
    rw [Scalar.same_iff]
    show (∃ s, point _ = some s ∧ point _ = some s) ↔ _
    simp only [hp, hq, Option.some.injEq, exists_eq_left', eq_comm]
  by_cases equal : p = q
  · rw [if_pos (same.2 equal)]
    exact giveSide_makes (.equation (hp.trans (equal ▸ hq.symm))) _
  rw [if_neg (mt same.1 equal)]
  obtain ⟨lowerOpen, upperOpen⟩ := Number.isInf_iff_of_lt hp hq (lt_of_le_of_ne order equal)
  intro s
  refine related_ofExcept_bind (R := Extends Prod.snd _) fun isOpen asked => ?_
  cases asked
  refine related_ofExcept_bind (R := Extends Prod.snd _) fun isOpen' asked => ?_
  cases asked
  cases lower : r.bound.range.1.isInf with
  | true =>
      have opened : point r.bound.range.1 = some ⊥ := hp.trans (congrArg some (lowerOpen.1 lower))
      cases upper : r.bound.range.2.isInf with
      | true => exact makes_onSecond (makes_logShowing _ _ _ _) s
      | false => exact giveSide_makes (.atMost opened upper) _ s
  | false =>
      cases upper : r.bound.range.2.isInf with
      | true =>
          have opened : point r.bound.range.2 = some ⊤ :=
            hq.trans (congrArg some (upperOpen.1 upper))
          exact giveSide_makes (.atLeast lower opened) _ s
      | false =>
          refine makes_bind (requireModel_makes _) (fun _ => ?_) s
          exact makes_onSecond (makes_call (.between lower upper))

/-- A row that constrains nothing is not at an infinity. -/
theorem not_isOneInfinity_of_isFree {r : Row} (h : r.isFree = true) :
    r.bound.isOneInfinity = false := by
  obtain ⟨lower, upper⟩ := Row.isFree_iff.1 h
  refine Bool.eq_false_iff.2 fun one => ?_
  have same : point r.bound.range.1 = point r.bound.range.2 :=
    Scalar.point_eq_of_same ((Bool.and_eq_true _ _).mp one).2
  rw [lower, upper] at same
  cases same

/-- A started adapter tells a row in one call, or in none if it constrains nothing, and the call
passes an infinity if both sides of the row are there. -/
theorem Serving.give_row_told {g : GurobiService} {columns : ℕ} {a : GurobiAdapter} {w : Workspace}
    (h : Serving g columns (a, w)) {r : Row} (ordered : r.bound.Ordered)
    (numeric : r.bound.isNumeric = true)
    (known : ∀ t ∈ r.expression.coefficients.entries, t.1 < columns) (place : ℕ) :
    ∃ (told : Option NativeCall) (w' : Workspace),
      (Adapter.give (r.part place)).run (a, w) = (.ok (), a, w') ∧ Serving g columns (a, w') ∧
        w'.calls = w.calls ++ told.toList ∧ (told = none ↔ r.isFree = true) ∧
        told.any (·.passesInfinity) = r.bound.isOneInfinity := by
  obtain ⟨w', ran, sent⟩ := h.give_row_run known place
  have spec := Row.call?_spec ordered numeric (r.name.orElse (.text ("c" ++ toString place)))
  cases call : r.call? (r.name.orElse (.text ("c" ++ toString place))) with
  | none =>
      rw [call] at sent spec
      refine ⟨none, w', ran, h.of_noted sent, ?_, iff_of_true rfl spec, ?_⟩
      · rw [sent.calls_eq]
        exact (List.append_nil _).symm
      · exact (not_isOneInfinity_of_isFree spec).symm
  | some c =>
      rw [call] at sent spec
      cases sent
      have told : TellsRow r.bound.range (.gurobi c) := by
        obtain ⟨more, calls, all⟩ := (give_row_tells ordered numeric place (a, w)).calls
        rw [ran, show (w.afterCall (.gurobi c)).calls = _ from w.calls_afterCall _] at calls
        rw [← List.append_cancel_left calls] at all
        exact all _ (List.mem_singleton.2 rfl)
      refine ⟨some (.gurobi c), _, ran, h.afterCall _, w.calls_afterCall _, iff_of_false nofun ?_,
        Bool.eq_iff_iff.2 told.passesInfinity_iff⟩
      exact Bool.eq_false_iff.1 spec.1

/-- What Gurobi is told about the columns and rows with a bound, where this is its number for
infinity. No column passes an infinity, and a row does exactly if both its sides are that infinity.
A started adapter tells each column, and each row but those that constrain nothing, in one call. -/
structure MapsInfinities (infinity : Float) (b : Bound) : Prop where
  column : ∀ (c : Column) (place : ℕ), c.bound = b → ∀ {s : GurobiAdapter × Workspace},
    HasInfinity infinity s.1 →
    s.2.Extends (fun call => TellsColumn infinity c call ∧ call.passesInfinity = false)
      ((Adapter.give (c.part place)).run s).2.2
  column_told : ∀ (c : Column) (place : ℕ), c.bound = b → ∀ {g n s}, Serving g n s →
    ∃ call t, (Adapter.give (c.part place)).run s = (.ok (), t) ∧ t.2.calls = s.2.calls ++ [call]
  row : ∀ (r : Row) (place : ℕ), r.bound = b →
    Makes Prod.snd (fun call => TellsRow r.bound.range call ∧
        (call.passesInfinity = true ↔ r.bound.isOneInfinity = true))
      (Adapter.give (A := GurobiAdapter) (r.part place))
  row_told : ∀ (r : Row) (place : ℕ), r.bound = b → ∀ {g n s}, Serving g n s →
    (∀ t ∈ r.expression.coefficients.entries, t.1 < n) →
    ∃ (told : Option NativeCall) (t : GurobiAdapter × Workspace),
      (Adapter.give (r.part place)).run s = (.ok (), t) ∧
        t.2.calls = s.2.calls ++ told.toList ∧ (told = none ↔ r.isFree = true)

theorem mapsInfinities {infinity : Float} (finite : infinity.isInf = false) {b : Bound}
    (ordered : b.Ordered) (numeric : b.isNumeric = true) : MapsInfinities infinity b where
  column := by
    rintro c place - s has
    exact (give_column_tells c place has).mono fun call told =>
      ⟨told, told.not_passesInfinity finite⟩
  column_told := by
    rintro c place - g n ⟨a, w⟩ serving
    exact ⟨_, _, serving.give_column_run c place, w.calls_afterCall _⟩
  row := by
    rintro r place rfl
    exact (give_row_tells ordered numeric place).mono fun call told =>
      ⟨told, told.passesInfinity_iff⟩
  row_told := by
    rintro r place rfl g n ⟨a, w⟩ serving known
    obtain ⟨told, w', ran, -, calls, free, -⟩ :=
      serving.give_row_told ordered numeric known place
    exact ⟨told, _, ran, calls, free⟩

/-! ### A whole model -/

/-- What stands after columns and rows are handed over: the calls since `before` pass an infinity if
a row is at one. -/
structure Passing (g : GurobiService) (before : List NativeCall) (columns : List Column)
    (rows : List Row) (s : GurobiAdapter × Workspace) : Prop
    extends Serving g columns.length s where
  passes : ∃ more, s.2.calls = before ++ more ∧
    more.any (·.passesInfinity) = rows.any (·.bound.isOneInfinity)

theorem passesInfinity_of_prepares {c : NativeCall} (h : c.prepares = true) :
    c.passesInfinity = false := by
  cases c with
  | highs m => rfl
  | orTools c => rfl
  | gurobi c => cases c <;> first | rfl | cases h

theorem passesInfinity_of_finishes {c : NativeCall} (h : Finishes c) :
    c.passesInfinity = false := by
  cases c with
  | highs m => rfl
  | orTools c => rfl
  | gurobi c => cases c <;> first | rfl | exact h.elim

/-- Nothing is passed when the adapter is started. -/
theorem Passing.of_fresh {w w' : Workspace} {s : GurobiAdapter × Workspace}
    (describes : describesModels w.gurobi.library.missing = true) (h : Fresh w s)
    (later : s.2.Noted w') : Passing w.gurobi w.calls [] [] (s.1, w') := by
  obtain ⟨opening, env, settings, calls, prepare, prepare'⟩ := h.calls
  refine ⟨.of_fresh describes h later, opening ++ .gurobi (.createModel env) :: settings,
    later.calls_eq.trans calls, List.any_eq_false.2 fun c hc => ?_⟩
  rw [Bool.not_eq_true]
  rcases List.mem_append.1 hc with first | hc
  · exact passesInfinity_of_prepares (prepare c first)
  · rcases List.mem_cons.1 hc with rfl | last
    · rfl
    · exact passesInfinity_of_prepares (prepare' c last)

/-- Every part of a problem whose rows have numbers for sides keeps what `Passing` says. -/
theorem assembles_passing {models : Store} {p : Ref Program} {problem : Problem}
    (sound : Sound models (.proper p) problem) (ordered : ∀ r ∈ problem.rows, r.bound.Ordered)
    (numeric : ∀ r ∈ problem.rows, r.bound.isNumeric = true) (g : GurobiService)
    (finite : g.library.infinity.isInf = false) (before : List NativeCall) :
    Assembles GurobiAdapter problem (fun columns rows s => Passing g before columns rows s)
      (Passing g before problem.columns problem.rows) where
  column := by
    rintro done c ⟨a, w⟩ - passing
    obtain ⟨more, calls, same⟩ := passing.passes
    have none : (NativeCall.gurobi (callOf g.library.infinity done.length c)).passesInfinity =
        false := (TellsColumn.variable (maps_side _ _) (maps_side _ _)).not_passesInfinity finite
    refine ⟨_, passing.toServing.give_column_run c done.length, ?_,
      more ++ [.gurobi (callOf g.library.infinity done.length c)], ?_, ?_⟩
    · rw [List.length_append]
      exact passing.toServing.with_column _
    · rw [Workspace.calls_afterCall, calls, List.append_assoc]
    · rw [List.any_append, same, List.any_cons, none]
      rfl
  row := by
    rintro done r ⟨a, w⟩ hr passing
    obtain ⟨more, calls, same⟩ := passing.passes
    obtain ⟨told, w', ran, serving, calls', -, passed⟩ := passing.toServing.give_row_told
      (ordered r hr) (numeric r hr) (sound.lt_of_mem_row hr) done.length
    refine ⟨_, ran, serving, more ++ told.toList, ?_, ?_⟩
    · rw [calls', calls, List.append_assoc]
    · rw [List.any_append, List.any_append, same, List.any_cons, List.any_nil, Bool.or_false,
        ← passed]
      cases told <;> simp
  objective := by
    rintro ⟨a, w⟩ passing
    obtain ⟨more, calls, same⟩ := passing.passes
    refine ⟨_, passing.toServing.give_objective_run sound.lt_of_mem_objective,
      passing.toServing.afterCall _,
      more ++ [.gurobi (.setObjective problem.objective.native .minimize)], ?_, ?_⟩
    · rw [Workspace.calls_afterCall, calls, List.append_assoc]
    · rw [List.any_append, same]
      exact Bool.or_false _

end GurobiAdapter

/-- What OR-Tools is told about the columns and rows with a bound fits its solver, and a started
adapter tells each of them. -/
structure OrToolsAdapter.CutsSides (infinity : Scalar) (b : Bound) : Prop where
  column : ∀ (c : Column) (place : ℕ), c.bound = b → ∀ {s : OrToolsAdapter × Workspace},
    s.2.orTools.infinity = .scalar infinity →
    s.2.Extends (Keeps infinity c.range) ((Adapter.give (c.part place)).run s).2.2
  column_told : ∀ (c : Column) (place : ℕ), c.bound = b → ∀ {n s}, Serving infinity n s →
    ∃ call sides t, (Adapter.give (c.part place)).run s = (.ok (), t) ∧
      t.2.calls = s.2.calls ++ [.orTools call] ∧ call.sides? = some sides
  row : ∀ (r : Row) (place : ℕ), r.bound = b → ∀ {s : OrToolsAdapter × Workspace},
    s.2.orTools.infinity = .scalar infinity →
    s.2.Extends (Keeps infinity r.bound.range) ((Adapter.give (r.part place)).run s).2.2
  row_told : ∀ (r : Row) (place : ℕ), r.bound = b → ∀ {n s}, Serving infinity n s →
    (∀ t ∈ r.expression.coefficients.entries, t.1 < n) →
    ∃ lower upper name more t, (Adapter.give (r.part place)).run s = (.ok (), t) ∧
      t.2.calls = s.2.calls ++ .orTools (.constraint lower upper name) :: more

theorem OrToolsAdapter.cutsSides {infinity : Scalar}
    (positive : (Scalar.int 0).lt infinity = true) {b : Bound} (ordered : b.Ordered)
    (numeric : b.isNumeric = true) : CutsSides infinity b where
  column := by
    rintro c place rfl s reads
    obtain ⟨p, q, hp, hq⟩ := Column.points_of_numeric ordered numeric
    exact give_column_keeps positive hp hq place reads
  column_told := by
    rintro c place - n ⟨a, w⟩ serving
    obtain ⟨_, _, sides, -⟩ := sides?_columnCall c.kind _ _ _
    exact ⟨_, _, _, serving.give_column_run c place, w.calls_afterCall _, sides⟩
  row := by
    rintro r place rfl s reads
    obtain ⟨p, q, hp, hq, -⟩ := Bound.points_of_ordered ordered numeric
    exact give_row_keeps positive hp hq place reads
  row_told := by
    rintro r place - n ⟨a, w⟩ serving known
    exact ⟨_, _, _, _, _, serving.give_row_run known place, (w.afterCalls_spec _).1⟩

/-- Whatever bound of numbers was built, and in whatever state the adapters are: Gurobi gets its own
number for infinity, a finite one, for an infinite side of a column, and no infinity for a row but
where both sides are the same one, which it gets as it is; OR-Tools gets sides in the range of its
solver, unchanged where they lie in it and in the order in which they were. -/
theorem infinities_mapped {models : Store} (reachable : Model.Reachable models) {r : Ref Bound}
    (numeric : (models.bounds.get r).isNumeric = true) :
    (∀ infinity : Float, infinity.isInf = false →
        GurobiAdapter.MapsInfinities infinity (models.bounds.get r)) ∧
      ∀ infinity : Scalar, (Scalar.int 0).lt infinity = true →
        OrToolsAdapter.CutsSides infinity (models.bounds.get r) :=
  ⟨fun _ finite => GurobiAdapter.mapsInfinities finite (reachable.ordered r) numeric,
    fun _ positive => OrToolsAdapter.cutsSides positive (reachable.ordered r) numeric⟩

namespace Sample

/-- The workspace with Gurobi and a program that has one row, fixed at infinity. -/
def atInfinity : Workspace :=
  Model.performAll
    [.newVariable (.member .continuous) (.text "x"),
      .newConstraint (some (.terms (.pairs [(.ofInt 0, .ofFloat 1.0)]))) (some (.member .fixed))
        (.ofFloat Number.infinity) (.ofFloat Number.infinity) (.text "r"),
      .newProgram .none, .appendVariables ⟨0⟩ [.proper ⟨0⟩], .appendConstraints ⟨0⟩ [.proper ⟨0⟩]]
    blank

theorem reachable_atInfinity : Model.Reachable atInfinity.models :=
  Model.Reachable.performAll _ .empty

end Sample

/-- The bound of the row at infinity. -/
theorem infinities_mapped_atInfinity :
    let b := Sample.atInfinity.models.bounds.get ⟨1⟩
    b.isNumeric = true ∧ b.isOneInfinity = true ∧ GurobiAdapter.MapsInfinities 1e100 b ∧
      OrToolsAdapter.CutsSides (.real Number.infinity) b := by
  intro b
  have numeric : b.isNumeric = true := by decide +kernel
  obtain ⟨gurobi, orTools⟩ := infinities_mapped Sample.reachable_atInfinity numeric
  exact ⟨numeric, by decide +kernel, gurobi _ (by decide +kernel), orTools _ (by decide +kernel)⟩

/-- A solve with Gurobi, whose adapter can be started and tells its version, tells an infinity
exactly if both sides of a row of the program are there. -/
theorem Solver.gurobi_told_infinity_iff {p : Ref Program} {backend : Value}
    {parameters : Option (Given Parameters)} {s : Solver × Workspace}
    {environment : Given (Ref SharedEnvironment)}
    (check : Model.defectMessages s.2.models (.proper p) = .ok [])
    (reachable : Model.Reachable s.2.models)
    (numeric : ∀ r ∈ (s.2.models.problem p).rows, r.bound.isNumeric = true)
    (registered : Registry.lookup backend s.2 = .ok (some (.gurobi environment)))
    (quiet : Quiet .gurobi s.2) (versioned : s.2.gurobi.version.isOk = true)
    (describes : GurobiAdapter.describesModels s.2.gurobi.library.missing = true)
    (finite : s.2.gurobi.library.infinity.isInf = false)
    (can : GurobiAdapter.CanStart (environment.orElse (.proper gurobiEnvironment)) s.2
      (s.1.parameters.replacedBy parameters)) :
    ∃ more, ((solve (.proper p) backend parameters).run s).2.2.calls = s.2.calls ++ more ∧
      (more.any (·.passesInfinity) = true ↔
        ∃ r ∈ (s.2.models.problem p).rows, r.bound.isOneInfinity = true) := by
  obtain ⟨starts, fresh⟩ :=
    GurobiAdapter.start_run environment (s.1.parameters.replacedBy parameters) quiet
  have sound : Sound s.2.models (.proper p) (s.2.models.problem p) := ⟨⟨p, rfl, rfl⟩, check⟩
  have ordered : ∀ r ∈ (s.2.models.problem p).rows, r.bound.Ordered := by
    intro r hr
    obtain ⟨c, -, rfl⟩ := List.mem_map.1 hr
    exact reachable.ordered _
  obtain ⟨⟨⟩, s₁, ran⟩ := exists_run_of_isOk (starts.2 can)
  have tells : Adapter.Tells s₁ :=
    GurobiAdapter.tells_version ((fresh s₁ ran).version ▸ versioned)
  obtain ⟨⟨a, w⟩, passing, later⟩ :=
    solve_extends Backend.carries_gurobi GurobiAdapter.settles check registered rfl (fun _ => rfl)
      ran tells (GurobiAdapter.assembles_passing sound ordered numeric s.2.gurobi finite s.2.calls)
      fun w hw => GurobiAdapter.Passing.of_fresh describes (fresh s₁ ran) hw
  obtain ⟨building, calls, passed⟩ := passing.passes
  obtain ⟨rest, solved, finishes⟩ := GurobiAdapter.solve_calls passing.model passing.quiet
  obtain ⟨more, called, finishes'⟩ := later.calls
  have quietly : ∀ {cs : List NativeCall}, (∀ c ∈ cs, GurobiAdapter.Finishes c) →
      cs.any (·.passesInfinity) = false := fun all => List.any_eq_false.2 fun c hc =>
    Bool.eq_false_iff.1 (GurobiAdapter.passesInfinity_of_finishes (all c hc))
  refine ⟨building ++ .gurobi .update :: .gurobi .optimize :: (rest ++ more), ?_, ?_⟩
  · rw [called, solved, calls]
    simp only [List.append_assoc, List.cons_append]
  · have solving : (.gurobi .update :: .gurobi .optimize :: (rest ++ more)).any
        NativeCall.passesInfinity = false := by
      rw [List.any_cons, List.any_cons, List.any_append, quietly finishes, quietly finishes']
      rfl
    rw [List.any_append, solving, Bool.or_false, passed, List.any_eq_true]

/-- Gurobi is told an infinity as the right-hand side of an equation. -/
theorem Solver.row_passes_infinity :
    let s : Solver × Workspace := (new none, Sample.atInfinity)
    let run := (solve Sample.program Sample.backend none).run s
    Model.Reachable s.2.models ∧ (s.2.models.bounds.get ⟨1⟩).isNumeric = true ∧
      (run.2.2.calls.filter (·.passesInfinity)).map (·.title) = ["gurobi.addLConstr"] := by
  intro s run
  exact ⟨Sample.reachable_atInfinity, by decide +kernel, by decide +kernel⟩

end LinearDispatch
