import LinearDispatch.Proofs.Assembly
import LinearDispatch.Proofs.FirstFailure
import LinearDispatch.Proofs.OrToolsModel
import LinearDispatch.Proofs.OrToolsStart

/-!
# An OR-Tools adapter builds the problem

Every part of a problem becomes a few native calls, and the calls build the model of
`OrToolsModel.of`. What the adapter remembers is how many columns there are and which native column
belongs to which index; `Serving` says that both agree with the columns handed over so far, and
`Built` also that the calls since the start are a portrait of what was handed over. One part keeps
it so, and the induction over the parts is that of `Assembles`.

The adapter cuts every side down to the range of the solver. For sides that the solver can hold
that is what `Scalar.ofSide` does.
-/

namespace LinearDispatch

open LinearDispatch.Action Workspace

namespace OrToolsAdapter

variable {infinity : Scalar}

/-! ## Sides and columns -/

/-- Cutting down a side that the solver can hold puts the solver's infinity for an infinite one. -/
theorem clampScalar_eq (one : (Scalar.int 1).lt infinity = true) {x : Float}
    (h : infinity.holds x = true) : clampScalar infinity (.real x) = .ofSide infinity x := by
  obtain ⟨p, i, -, hi, above⟩ := Scalar.lt_iff.1 one
  unfold clampScalar
  cases infinite : x.isInf with
  | true =>
      cases Number.isInf_iff.1 infinite with
      | inl top =>
          have notBelow : (Scalar.real x).lt infinity = false := by
            refine Bool.eq_false_iff.2 fun below => ?_
            obtain ⟨q, r, hq, -, less⟩ := Scalar.lt_iff.1 below
            cases top.symm.trans hq
            exact not_top_lt less
          simp only [notBelow, Bool.false_eq_true, if_false, Scalar.neg_lt_of_one_lt one, if_true,
            Scalar.ofSide_top top]
      | inr bot =>
          have below : (Scalar.real x).lt infinity = true :=
            Scalar.lt_iff.2 ⟨⊥, i, bot, hi, bot_le.trans_lt above⟩
          have notAbove : infinity.neg.lt (.real x) = false := by
            refine Bool.eq_false_iff.2 fun more => ?_
            obtain ⟨q, r, -, hr, less⟩ := Scalar.lt_iff.1 more
            cases bot.symm.trans hr
            exact not_lt_bot less
          simp only [below, if_true, notAbove, Bool.false_eq_true, if_false, Scalar.ofSide_bot bot]
  | false =>
      obtain ⟨low, high⟩ := (Scalar.holds_iff infinite).1 h
      simp only [low, high, if_true, Scalar.ofSide_finite infinite]

/-- What the solver can hold is a number. -/
theorem ofSide_same_self (one : (Scalar.int 1).lt infinity = true) {x : Float}
    (h : infinity.holds x = true) :
    (Scalar.ofSide infinity x).same (.ofSide infinity x) = true := by
  obtain ⟨n, i, hn, hi, -⟩ := Scalar.lt_iff.1 (Scalar.neg_lt_of_one_lt one)
  cases infinite : x.isInf with
  | true =>
      cases Number.isInf_iff.1 infinite with
      | inl top =>
          rw [Scalar.ofSide_top top]
          exact Scalar.same_iff.2 ⟨i, hi, hi⟩
      | inr bot =>
          rw [Scalar.ofSide_bot bot]
          exact Scalar.same_iff.2 ⟨n, hn, hn⟩
  | false =>
      obtain ⟨p, q, hp, -, -⟩ := Scalar.lt_iff.1 ((Scalar.holds_iff infinite).1 h).2
      rw [Scalar.ofSide_finite infinite]
      exact Scalar.same_iff.2 ⟨p, hp, hp⟩

/-- A binary column that has a call of its own has 0 and 1 for sides, whatever their kinds. -/
theorem points_of_unit {lower upper : Scalar}
    (unit : (lower.same (.real 0.0) && upper.same (.real 1.0)) = true) :
    lower.point = some 0 ∧ upper.point = some 1 := by
  obtain ⟨isZero, isOne⟩ := (Bool.and_eq_true _ _).mp unit
  exact ⟨(Scalar.point_eq_of_same isZero).trans Number.point_zero,
    (Scalar.point_eq_of_same isOne).trans Number.point_one⟩

/-- The call for the column at a place. -/
def callOf (infinity : Scalar) (place : ℕ) (c : Column) : OrToolsCall :=
  columnCall c.kind (clampScalar infinity (.real c.range.1))
    (clampScalar infinity (.real c.range.2)) (c.name.orElse (.text ("x" ++ toString place)))

/-- The call for a column adds that column, also where a binary one has a call of its own. -/
theorem take_callOf (one : (Scalar.int 1).lt infinity = true) {c : Column}
    (holds : infinity.holdsBound c.bound = true) (place : ℕ) (m : OrToolsModel) :
    ∃ n : NativeColumn, n.Portrays infinity c ∧
      m.take (callOf infinity place c) = { m with columns := m.columns ++ [n] } := by
  obtain ⟨lower, upper⟩ := Column.holds_range one holds
  have lowerSelf := ofSide_same_self one lower
  have upperSelf := ofSide_same_self one upper
  unfold callOf
  rw [clampScalar_eq one lower, clampScalar_eq one upper]
  cases kind : c.kind with
  | continuous => exact ⟨⟨false, _, _⟩, ⟨by simp [kind], lowerSelf, upperSelf⟩, rfl⟩
  | integer => exact ⟨⟨true, _, _⟩, ⟨by simp [kind], lowerSelf, upperSelf⟩, rfl⟩
  | binary =>
      unfold columnCall
      dsimp only
      split
      · next unit =>
          -- the call has no sides of its own, and it makes a column between 0 and 1
          obtain ⟨hp, hq⟩ := points_of_unit unit
          exact ⟨⟨true, .int 0, .int 1⟩,
            ⟨by simp [kind], Scalar.same_iff.2 ⟨0, Scalar.point_zero, hp⟩,
              Scalar.same_iff.2 ⟨1, Scalar.point_one, hq⟩⟩, rfl⟩
      · exact ⟨⟨true, _, _⟩, ⟨by simp [kind], lowerSelf, upperSelf⟩, rfl⟩

/-! ## Parts -/

/-- What the adapter goes by: a solver with so many columns, one for each index and in their order,
which was not told to solve yet, and calls that do not fail. -/
structure Serving (infinity : Scalar) (columns : ℕ) (s : OrToolsAdapter × Workspace) : Prop where
  solver : s.1.solver = some ⟨columns, none⟩
  places : s.1.columns = List.range columns
  quiet : Quiet .orTools s.2
  reads : s.2.orTools.infinity = .scalar infinity

theorem Serving.afterCalls {columns : ℕ} {a : OrToolsAdapter} {w : Workspace}
    (h : Serving infinity columns (a, w)) (cs : List NativeCall) :
    Serving infinity columns (a, w.afterCalls cs) := by
  obtain ⟨-, faults, orTools, -⟩ := w.afterCalls_spec cs
  refine ⟨h.solver, h.places, h.quiet.of_faults faults, ?_⟩
  rw [orTools]
  exact h.reads

/-- A started adapter has a solver without columns. -/
theorem Serving.of_start {a : OrToolsAdapter} {p : Given Parameters} {w w' : Workspace}
    (quiet : Quiet .orTools w) (reads : w.orTools.infinity = .scalar infinity)
    {s : OrToolsAdapter × Workspace} (started : (Adapter.start p).run (a, w) = (.ok (), s))
    (later : s.2.Noted w') : Serving infinity 0 (s.1, w') := by
  have since := (start_spec a p quiet).2 s started
  refine ⟨since.solver, since.columns, ?_, ?_⟩
  · exact quiet.of_faults (later.faults_eq.trans since.calls.faults)
  · rw [later.orTools_eq, since.calls.infinity]
    exact reads

/-- What stands after columns are handed over: since a workspace `before` the first of them, the
calls have made these columns and nothing else. -/
structure Taking (infinity : Scalar) (solverId : String) (before : Workspace)
    (columns : List Column) (s : OrToolsAdapter × Workspace) : Prop
    extends Serving infinity columns.length s where
  solverId : s.1.solverId = solverId
  service : s.2.orTools = before.orTools
  tells : before.Tells (columns.mapIdx fun i c => .orTools (callOf infinity i c)) 0 s.2

/-- What stands after columns and rows are handed over, and the calls `before` the start. -/
structure Built (infinity : Scalar) (before : List NativeCall) (columns : List Column)
    (rows : List Row) (s : OrToolsAdapter × Workspace) : Prop
    extends Serving infinity columns.length s where
  building : ∃ building, s.2.calls = before ++ building ∧
    List.Forall₂ (NativeColumn.Portrays infinity) (OrToolsModel.of building).columns columns ∧
    List.Forall₂ (NativeRow.Portrays infinity) (OrToolsModel.of building).rows rows

theorem requireSolver_run {a : OrToolsAdapter} {solver : OrToolsSolver}
    (h : a.solver = some solver) (part : String) (w : Workspace) :
    (requireSolver part).run (a, w) = (.ok solver, a, w) := by
  unfold requireSolver
  rw [run_bind, show (Adapter.look (·.solver)).run (a, w) = (.ok a.solver, a, w) from rfl, h]
  rfl

theorem mapSide_run {w : Workspace} (reads : w.orTools.infinity = .scalar infinity) (x : Float)
    (a : OrToolsAdapter) :
    (mapSide (.ofFloat x)).run (a, w) = (.ok (clampScalar infinity (.real x)), a, w) := by
  show ((clamp w.orTools.infinity (.ofFloat x)), a, w) = _
  rw [reads]
  rfl

/-- Coefficients are set one after the other, each at the native column of its index. -/
theorem setCoefficients_run {a : OrToolsAdapter} {columns : ℕ}
    (places : a.columns = List.range columns) (target : ℕ → Value → OrToolsCall)
    (terms : List (ℕ × Float)) :
    ∀ {w : Workspace}, Quiet .orTools w → (∀ t ∈ terms, t.1 < columns) →
      (setCoefficients target (terms.map fun t => (.scalar (.int t.1), .ofFloat t.2))).run (a, w) =
        (.ok (), a, w.afterCalls (terms.map fun t => .orTools (target t.1 (.ofFloat t.2)))) := by
  induction terms with
  | nil => exact fun _ _ => rfl
  | cons t rest ih =>
      intro w quiet known
      have here := known t List.mem_cons_self
      have item : itemAt a.columns (Key.scalar (.int t.1)).value = .ok t.1 := by
        have found := @itemAt_natCast _ a.columns t.1 (by simpa [places] using here)
        rw [show (Key.scalar (.int t.1)).value = .scalar (.int t.1) from rfl, found]
        simp [places]
      rw [List.map_cons, setCoefficients, run_bind,
        show (Adapter.look (·.columns)).run (a, w) = (.ok a.columns, a, w) from rfl]
      dsimp only
      rw [run_bind, run_ofExcept, item]
      dsimp only
      rw [run_bind, quiet.run_call]
      exact ih (w := w.afterCall (.orTools (target t.1 (.ofFloat t.2)))) quiet
        fun u hu => known u (List.mem_cons_of_mem _ hu)

/-- The calls for a row or for the objective put its terms where there were none. -/
theorem native_calls (target : ℕ → Value → OrToolsCall) (e : Expression) :
    (e.coefficients.entries.map fun t => NativeCall.orTools (target t.1 (.ofFloat t.2))) =
      e.native.map fun t => .orTools (target t.1 t.2) := by
  unfold Expression.native
  rw [List.map_map]
  rfl

/-- The calls for a row. -/
def rowCalls (infinity : Scalar) (r : Row) (place : ℕ) : List NativeCall :=
  .orTools (.constraint (clampScalar infinity (.real r.bound.range.1))
      (clampScalar infinity (.real r.bound.range.2))
      (r.name.orElse (.text ("c" ++ toString place)))) ::
    r.expression.native.map fun t => .orTools (.rowCoefficient t.1 t.2)

/-- The calls for an objective. -/
def objectiveCalls (e : Expression) : List NativeCall :=
  .orTools .clearObjective ::
    ((e.native.map fun t => .orTools (.objectiveCoefficient t.1 t.2)) ++ [.orTools .minimize])

namespace Serving

variable {columns : ℕ} {a : OrToolsAdapter} {w : Workspace}

theorem give_column_run (h : Serving infinity columns (a, w)) (c : Column) (place : ℕ) :
    (Adapter.give (c.part place)).run (a, w) =
      (.ok (), { a with columns := a.columns ++ [columns], solver := some ⟨columns + 1, none⟩ },
        w.afterCall (.orTools (callOf infinity place c))) := by
  show (give (c.part place)).run (a, w) = _
  unfold Column.part give
  rw [run_bind, requireSolver_run h.solver]
  dsimp only
  rw [run_bind, mapSide_run h.reads]
  dsimp only
  rw [run_bind, mapSide_run h.reads]
  dsimp only
  rw [run_bind, h.quiet.run_call]
  rfl

/-- A column gets the next number. -/
theorem with_column (h : Serving infinity columns (a, w)) (c : NativeCall) :
    Serving infinity (columns + 1)
      ({ a with columns := a.columns ++ [columns], solver := some ⟨columns + 1, none⟩ },
        w.afterCall c) := by
  refine ⟨rfl, ?_, h.quiet, h.reads⟩
  rw [List.range_succ, h.places]

theorem give_row_run (h : Serving infinity columns (a, w)) {r : Row}
    (known : ∀ t ∈ r.expression.coefficients.entries, t.1 < columns) (place : ℕ) :
    (Adapter.give (r.part place)).run (a, w) =
      (.ok (), a, w.afterCalls (rowCalls infinity r place)) := by
  show (give (r.part place)).run (a, w) = _
  unfold Row.part give
  rw [run_bind, requireSolver_run h.solver]
  dsimp only
  rw [run_bind, mapSide_run h.reads]
  dsimp only
  rw [run_bind, mapSide_run h.reads]
  dsimp only
  rw [run_bind, h.quiet.run_call]
  unfold rowCalls
  rw [← native_calls]
  exact setCoefficients_run h.places .rowCoefficient r.expression.coefficients.entries
    (w := w.afterCall _) h.quiet known

theorem give_objective_run (h : Serving infinity columns (a, w)) {e : Expression}
    (known : ∀ t ∈ e.coefficients.entries, t.1 < columns) :
    (Adapter.give (.objective e.handedOver)).run (a, w) =
      (.ok (), a, w.afterCalls (objectiveCalls e)) := by
  have set := setCoefficients_run h.places .objectiveCoefficient e.coefficients.entries
    (w := w.afterCall (.orTools .clearObjective)) h.quiet known
  rw [native_calls] at set
  have quiet' : Quiet .orTools ((w.afterCall (.orTools .clearObjective)).afterCalls
      (e.native.map fun t => .orTools (.objectiveCoefficient t.1 t.2))) := by
    exact Quiet.of_faults (w := w.afterCall (.orTools .clearObjective)) h.quiet
      (Workspace.afterCalls_spec _ _).2.1
  show (give (.objective e.handedOver)).run (a, w) = _
  unfold give Expression.handedOver
  rw [run_bind, requireSolver_run h.solver]
  dsimp only
  rw [run_bind, h.quiet.run_call]
  dsimp only [Coefficients.entries]
  rw [run_bind, run_ofExcept]
  dsimp only
  rw [run_bind, set]
  dsimp only
  rw [quiet'.run_call]
  unfold objectiveCalls Workspace.afterCalls
  rw [List.foldl_cons, List.foldl_append]
  rfl

end Serving

namespace Taking

variable {solverId : String} {before : Workspace} {columns : List Column}
  {s : OrToolsAdapter × Workspace}

/-- A column is handed over, and its call is one that makes a column. -/
theorem give_column (h : Taking infinity solverId before columns s) (c : Column) :
    ∃ s', (Adapter.give (c.part columns.length)).run s = (.ok (), s') ∧
      Taking infinity solverId before (columns ++ [c]) s' := by
  have call : [NativeCall.orTools (callOf infinity columns.length c)].filter (·.makes) =
      [.orTools (callOf infinity columns.length c)] ∧
      [NativeCall.orTools (callOf infinity columns.length c)].countP (·.solves) = 0 := by
    unfold callOf columnCall
    cases c.kind with
    | continuous | integer => exact ⟨rfl, rfl⟩
    | binary =>
        dsimp only
        split
        · exact ⟨rfl, rfl⟩
        · exact ⟨rfl, rfl⟩
  have tells := h.tells.trans (.afterCall s.2 (.orTools (callOf infinity columns.length c)))
  rw [call.1, call.2] at tells
  refine ⟨_, h.toServing.give_column_run c columns.length, ?_, h.solverId, h.service, ?_⟩
  · rw [List.length_append]
    exact h.toServing.with_column _
  · rw [List.mapIdx_concat]
    exact tells

/-- What follows the columns makes nothing. -/
theorem afterCalls (h : Taking infinity solverId before columns s) {cs : List NativeCall}
    (none : ∀ c ∈ cs, c.makes = false ∧ c.solves = false) :
    Taking infinity solverId before columns (s.1, s.2.afterCalls cs) := by
  obtain ⟨calls, -, orTools, -⟩ := s.2.afterCalls_spec cs
  exact ⟨h.toServing.afterCalls cs, h.solverId, orTools.trans h.service,
    h.tells.and_nothing (.of_none calls none)⟩

end Taking

/-- The adapter takes every part of a problem that passes the check, whatever its sides are. -/
theorem takes {models : Store} {p : Ref Program} {problem : Problem}
    (sound : Sound models (.proper p) problem) (infinity : Scalar) (solverId : String)
    (before : Workspace) :
    Assembles OrToolsAdapter problem
      (fun columns _ s => Taking infinity solverId before columns s)
      (Taking infinity solverId before problem.columns) where
  column := fun _ taking => taking.give_column _
  row := by
    intro done r s hr taking
    refine ⟨_, taking.toServing.give_row_run (sound.lt_of_mem_row hr) _,
      taking.afterCalls fun c hc => ?_⟩
    obtain rfl | hc := List.mem_cons.1 hc
    · exact ⟨rfl, rfl⟩
    · obtain ⟨t, -, rfl⟩ := List.mem_map.1 hc
      exact ⟨rfl, rfl⟩
  objective := by
    intro s taking
    refine ⟨_, taking.toServing.give_objective_run sound.lt_of_mem_objective,
      taking.afterCalls fun c hc => ?_⟩
    obtain rfl | hc := List.mem_cons.1 hc
    · exact ⟨rfl, rfl⟩
    obtain hc | hc := List.mem_append.1 hc
    · obtain ⟨t, -, rfl⟩ := List.mem_map.1 hc
      exact ⟨rfl, rfl⟩
    · cases List.mem_singleton.1 hc
      exact ⟨rfl, rfl⟩

namespace Built

variable {before : List NativeCall} {columns : List Column} {rows : List Row}
  {s : OrToolsAdapter × Workspace}

/-- A column is handed over. -/
theorem give_column (h : Built infinity before columns rows s)
    (one : (Scalar.int 1).lt infinity = true) {c : Column}
    (holds : infinity.holdsBound c.bound = true) (place : ℕ) :
    ∃ s', (Adapter.give (c.part place)).run s = (.ok (), s') ∧
      Built infinity before (columns ++ [c]) rows s' := by
  obtain ⟨building, calls, portrayed, same⟩ := h.building
  obtain ⟨n, portrays, taken⟩ := take_callOf one holds place (OrToolsModel.of building)
  have built : OrToolsModel.of (building ++ [.orTools (callOf infinity place c)]) = _ :=
    (OrToolsModel.of_append _ _).trans taken
  refine ⟨_, h.toServing.give_column_run c place, ?_,
    building ++ [.orTools (callOf infinity place c)], ?_, ?_, ?_⟩
  · rw [List.length_append]
    exact h.toServing.with_column _
  · rw [Workspace.calls_afterCall, calls, List.append_assoc]
  · rw [built]
    exact List.rel_append portrayed (.cons portrays .nil)
  · rw [built]
    exact same

/-- A row is handed over. -/
theorem give_row (h : Built infinity before columns rows s)
    (one : (Scalar.int 1).lt infinity = true) {r : Row}
    (holds : infinity.holdsBound r.bound = true)
    (known : ∀ t ∈ r.expression.coefficients.entries, t.1 < columns.length) (place : ℕ) :
    ∃ s', (Adapter.give (r.part place)).run s = (.ok (), s') ∧
      Built infinity before columns (rows ++ [r]) s' := by
  obtain ⟨building, calls, same, portrayed⟩ := h.building
  obtain ⟨lower, upper⟩ := (Bool.and_eq_true _ _).mp holds
  have built : OrToolsModel.of (building ++ rowCalls infinity r place) = _ :=
    (OrToolsModel.of_append _ _).trans
      (OrToolsModel.foldl_rowCoefficient r.expression.native rfl)
  refine ⟨_, h.toServing.give_row_run known place, h.toServing.afterCalls _,
    building ++ rowCalls infinity r place, ?_, ?_, ?_⟩
  · rw [(Workspace.afterCalls_spec _ _).1, calls, List.append_assoc]
  · rw [built]
    exact same
  · rw [built]
    refine List.rel_append portrayed (.cons ⟨?_, ?_, ?_⟩ .nil)
    · rw [clampScalar_eq one lower]
      exact ofSide_same_self one lower
    · rw [clampScalar_eq one upper]
      exact ofSide_same_self one upper
    · exact OrToolsModel.entries_putAll_native r.expression

/-- The objective is handed over, and the model is there. -/
theorem give_objective {problem : Problem}
    (h : Built infinity before problem.columns problem.rows s)
    (known : ∀ t ∈ problem.objective.coefficients.entries, t.1 < problem.columns.length) :
    ∃ s', (Adapter.give (.objective problem.objective.handedOver)).run s = (.ok (), s') ∧
      s'.1.solver = some ⟨problem.columns.length, none⟩ ∧ Quiet .orTools s'.2 ∧
      ∃ building, s'.2.calls = before ++ building ∧
        (OrToolsModel.of building).Portrays infinity problem := by
  obtain ⟨building, calls, columns, rows⟩ := h.building
  have serving := h.toServing.afterCalls (objectiveCalls problem.objective)
  have built : OrToolsModel.of (building ++ objectiveCalls problem.objective) =
      { OrToolsModel.of building with
        objective := OrderedMap.empty.putAll problem.objective.native, minimized := true } := by
    rw [OrToolsModel.of_append]
    unfold objectiveCalls
    rw [List.foldl_cons, List.foldl_append, OrToolsModel.foldl_objectiveCoefficient]
    rfl
  refine ⟨_, h.toServing.give_objective_run known, serving.solver, serving.quiet,
    building ++ objectiveCalls problem.objective, ?_, ?_⟩
  · rw [(Workspace.afterCalls_spec _ _).1, calls, List.append_assoc]
  · rw [built]
    exact ⟨columns, rows, OrToolsModel.entries_putAll_native problem.objective, rfl⟩

end Built

/-- Nothing is built yet when the adapter is started. -/
theorem Built.of_start {solverId : String} {p : Given Parameters} {w w' : Workspace}
    (quiet : Quiet .orTools w) (reads : w.orTools.infinity = .scalar infinity)
    {s : OrToolsAdapter × Workspace}
    (started : (Adapter.start p).run (make solverId, w) = (.ok (), s))
    (later : s.2.Noted w') : Built infinity w.calls [] [] (s.1, w') := by
  obtain ⟨settings, calls, prepare⟩ := ((start_run solverId p quiet).2 s started).calls.calls
  have built : OrToolsModel.of (.orTools (.createSolver (Text.upper solverId)) :: settings) =
      .empty := foldl_of_leaves (fun c hc => OrToolsModel.leaves_of_prepares (prepare c hc)) .empty
  refine ⟨.of_start quiet reads started later,
    .orTools (.createSolver (Text.upper solverId)) :: settings, ?_, ?_, ?_⟩
  · rw [later.calls_eq, calls, w.calls_afterCall, List.append_assoc]
    rfl
  · rw [built]
    exact .nil
  · rw [built]
    exact .nil

/-- The adapter takes every part of a problem that passes the check. -/
theorem assembles {models : Store} {p : Ref Program} {problem : Problem}
    (sound : Sound models (.proper p) problem) (one : (Scalar.int 1).lt infinity = true)
    (columns : ∀ c ∈ problem.columns, infinity.holdsBound c.bound = true)
    (rows : ∀ r ∈ problem.rows, infinity.holdsBound r.bound = true) (before : List NativeCall) :
    Assembles OrToolsAdapter problem (fun columns rows s => Built infinity before columns rows s)
      (fun s => s.1.solver = some ⟨problem.columns.length, none⟩ ∧ Quiet .orTools s.2 ∧
        ∃ building, s.2.calls = before ++ building ∧
          (OrToolsModel.of building).Portrays infinity problem) where
  column := fun hc built => built.give_column one (columns _ hc) _
  row := fun hr built => built.give_row one (rows _ hr) (sound.lt_of_mem_row hr) _
  objective := fun built => built.give_objective sound.lt_of_mem_objective

/-! ## Solving -/

/-- A call that solves the model, or the text that precedes a second attempt. -/
def IsSolving (c : NativeCall) : Prop :=
  c = .orTools .solve ∨ ∃ text, c = .orTools (.setParameterText text)

theorem requireSolver_makes {P : NativeCall → Prop} (part : String) :
    Makes Prod.snd P (requireSolver part) := by
  refine makes_bind (makes_look _) fun solver => ?_
  cases solver with
  | some solver => exact makes_pure solver
  | none => exact makes_fail _

theorem setParameterText_makes (text : String) :
    Makes id IsSolving (OrToolsService.setParameterText text) :=
  makes_bind (makes_call (.inr ⟨text, rfl⟩)) fun _ => makes_bind (makes_gets _) fun _ =>
    makes_bind (makes_modify fun _ => .of_eq rfl rfl rfl) fun _ => makes_pure _

theorem service_solve_makes : Makes id IsSolving OrToolsService.solve :=
  makes_bind (makes_call (.inl rfl)) fun _ => makes_bind (makes_gets _) fun _ =>
    makes_bind (makes_modify fun _ => .of_eq rfl rfl rfl) fun _ => makes_pure _

theorem solveOnce_makes : Makes Prod.snd IsSolving solveOnce :=
  makes_bind (makes_onSecond service_solve_makes) fun _ =>
    makes_bind (makes_remember _) fun _ => makes_pure _

theorem solveAgain_makes (code : String → Int) :
    Makes Prod.snd IsSolving (solveAgain code) := by
  unfold solveAgain
  refine makes_bind (makes_onSecond (makes_log _ _ _)) fun _ => ?_
  refine makes_bind (makes_look _) fun text => ?_
  refine makes_bind (makes_onSecond (setParameterText_makes text)) fun accepted => ?_
  refine makes_ite ?_ (makes_bind (makes_onSecond (makes_log _ _ _)) fun _ => makes_pure _)
  refine makes_bind solveOnce_makes fun status => ?_
  exact makes_ite (makes_bind (makes_onSecond (makes_log _ _ _)) fun _ => makes_pure _)
    (makes_pure _)

/-- Telling the adapter to solve calls the solver for the model as it is then, and again at most. -/
theorem solve_calls {a : OrToolsAdapter} {solver : OrToolsSolver} (opened : a.solver = some solver)
    (w : Workspace) :
    ∃ rest, (Adapter.solve.run (a, w)).2.2.calls = w.calls ++ .orTools .solve :: rest ∧
      ∀ c ∈ rest, IsSolving c := by
  have called : ((OrToolsService.solve).run w).2.calls = w.calls ++ [.orTools .solve] := by
    unfold OrToolsService.solve
    rw [run_bind, run_call]
    cases w.faults w.nativeCalls (.orTools .solve) with
    | none => exact w.calls_afterCall (.orTools .solve)
    | some e => exact w.calls_afterCall (.orTools .solve)
  have judged : ∀ last : Value, Makes Prod.snd IsSolving (do
      requireKey last
      pure (classify w.orTools.code last) : Action (OrToolsAdapter × Workspace) Status) :=
    fun last => makes_bind (makes_check _) fun _ => makes_pure _
  have later : ((OrToolsService.solve).run w).2.Extends IsSolving
      (Adapter.solve.run (a, w)).2.2 := by
    show ((liftM OrToolsService.solve :
        Action (OrToolsAdapter × Workspace) (Value × Option Reading)).run (a, w)).2.2.Extends
          IsSolving
      ((solve >>= fun status => pure (.proper status) :
        Action (OrToolsAdapter × Workspace) (Given Status)).run (a, w)).2.2
    unfold solve
    rw [bind_assoc, run_bind, requireSolver_run opened]
    dsimp only
    rw [bind_assoc, run_bind,
      show (Adapter.look (·.solverId)).run (a, w) = (.ok a.solverId, a, w) from rfl]
    dsimp only
    rw [bind_assoc, run_bind, run_gets]
    dsimp only
    unfold solveOnce
    rw [bind_assoc, bind_assoc]
    refine makes_after (fun first => ?_) (a, w)
    refine makes_bind (makes_bind (makes_remember _) fun _ => makes_pure _) fun first => ?_
    refine makes_bind ?_ fun status => makes_pure _
    exact makes_ite (makes_bind (solveAgain_makes _) judged) (judged first)
  obtain ⟨rest, calls, solving⟩ := later.calls
  refine ⟨rest, ?_, solving⟩
  rw [calls, called, List.append_assoc]
  rfl

theorem replies : Adapter.Replies OrToolsAdapter := by
  rintro ⟨⟨solverId, solver, columns, optionText⟩, w⟩
  cases solver with
  | none => exact ⟨_, rfl⟩
  | some n => exact ⟨_, rfl⟩

/-- The adapter tells its version if the library does. -/
theorem tells_version {s : OrToolsAdapter × Workspace}
    (versioned : s.2.orTools.version.isOk = true) : Adapter.Tells s := by
  refine replies.tells ?_
  obtain ⟨⟨solverId, solver, columns, optionText⟩, w⟩ := s
  cases solver with
  | none => rfl
  | some n => exact versioned

/-- After its solve the adapter calls nothing. -/
theorem settles : Adapter.Settles OrToolsAdapter fun _ => False where
  values := by
    refine makes_bind (makes_look id) fun a => ?_
    cases a.solver with
    | none => exact makes_pure _
    | some solver =>
        refine makes_bind (makes_bind (makes_gets _) fun _ => makes_pure _) fun last => ?_
        exact makes_bind (makes_ofExcept _) fun _ => makes_pure _
  objectiveValue := by
    refine makes_bind (requireSolver_makes _) fun solver => ?_
    exact makes_bind (makes_bind (makes_gets _) fun _ => makes_pure _) fun _ => makes_ofExcept _
  close := makes_remember _

end OrToolsAdapter

namespace Solver

/-- A solve with OR-Tools builds the problem, call by call, and has it solved: a solver is created
whose columns, rows and objective are those of the problem, so it allows the same points and gives
them the same objective. It gets that far whenever the adapter can be started and OR-Tools tells its
version, which is written into the log. -/
theorem ortools_model {p : Ref Program} {backend : Value} {parameters : Option (Given Parameters)}
    {s : Solver × Workspace} {solverId : String} {infinity : Scalar}
    (check : Model.defectMessages s.2.models (.proper p) = .ok [])
    (registered : Registry.lookup backend s.2 = .ok (some (.orTools solverId)))
    (takes : (s.2.models.problem p).hasInteger = true →
      Adapter.supportsInteger (OrToolsAdapter.make solverId) = .ok true)
    (quiet : Quiet .orTools s.2) (versioned : s.2.orTools.version.isOk = true)
    (reads : s.2.orTools.infinity = .scalar infinity)
    (one : (Scalar.int 1).lt infinity = true)
    (columns : ∀ c ∈ (s.2.models.problem p).columns, infinity.holdsBound c.bound = true)
    (rows : ∀ r ∈ (s.2.models.problem p).rows, infinity.holdsBound r.bound = true) :
    (((Adapter.start (s.1.parameters.replacedBy parameters)).run
        (OrToolsAdapter.make solverId, s.2)).1.isOk = true ↔
      OrToolsAdapter.CanStart solverId s.2.orTools (s.1.parameters.replacedBy parameters)) ∧
    (OrToolsAdapter.CanStart solverId s.2.orTools (s.1.parameters.replacedBy parameters) →
      ∃ building rest,
        ((solve (.proper p) backend parameters).run s).2.2.calls =
          s.2.calls ++ building ++ .orTools .solve :: rest ∧
        (∀ c ∈ rest, OrToolsAdapter.IsSolving c) ∧
        (OrToolsModel.of building).Portrays infinity (s.2.models.problem p) ∧
        (∀ x, (OrToolsModel.of building).Feasible infinity x ↔
          s.2.models.Feasible (s.2.models.programs.get p) x) ∧
        ∀ x, termsAt x (OrToolsModel.of building).objective.entries =
          sumAt x (s.2.models.problem p).objective.coefficients.entries) := by
  obtain ⟨starts, kept⟩ :=
    OrToolsAdapter.start_run solverId (s.1.parameters.replacedBy parameters) quiet
  refine ⟨starts, fun can => ?_⟩
  have sound : Sound s.2.models (.proper p) (s.2.models.problem p) := ⟨⟨p, rfl, rfl⟩, check⟩
  obtain ⟨⟨⟩, s₁, ran⟩ := exists_run_of_isOk (starts.2 can)
  have tells : Adapter.Tells s₁ := OrToolsAdapter.tells_version ((kept s₁ ran).version ▸ versioned)
  obtain ⟨⟨a, w⟩, ⟨solver, -, building, calls, portrays⟩, later⟩ :=
    solve_extends Backend.carries_orTools OrToolsAdapter.settles check registered rfl takes ran
      tells (OrToolsAdapter.assembles sound one columns rows s.2.calls)
      fun w hw => OrToolsAdapter.Built.of_start quiet reads ran hw
  obtain ⟨rest, solved, solving⟩ := OrToolsAdapter.solve_calls solver w
  refine ⟨building, rest, ?_, solving, portrays, fun x => ?_, fun x => ?_⟩
  · rw [later.calls_eq, solved, calls]
  · rw [portrays.feasible_iff one columns rows, Store.feasible_iff]
  · rw [portrays.objective, termsAt_native]

/-- The small program, solved with SCIP. -/
theorem ortools_model_sample :
    let w := Sample.registered (.orTools "scip")
    let s : Solver × Workspace := (new none, { w with orTools := { w.orTools with
      known := ["SCIP"]
      infinity := .ofFloat Number.infinity } })
    OrToolsAdapter.CanStart "scip" s.2.orTools s.1.parameters ∧
    ∃ building rest,
      ((solve Sample.program Sample.backend none).run s).2.2.calls =
        s.2.calls ++ building ++ .orTools .solve :: rest ∧
      (∀ c ∈ rest, OrToolsAdapter.IsSolving c) ∧
      (OrToolsModel.of building).Portrays (.real Number.infinity) (s.2.models.problem ⟨0⟩) ∧
      (∀ x, (OrToolsModel.of building).Feasible (.real Number.infinity) x ↔
        s.2.models.Feasible (s.2.models.programs.get ⟨0⟩) x) ∧
      ∀ x, termsAt x (OrToolsModel.of building).objective.entries =
        sumAt x (s.2.models.problem ⟨0⟩).objective.coefficients.entries := by
  intro w s
  have can : OrToolsAdapter.CanStart "scip" s.2.orTools s.1.parameters := by
    refine ⟨by decide +kernel, .default, rfl, ?_, rfl⟩
    exact fun _ none => nomatch none
  have check : Model.defectMessages s.2.models (.proper ⟨0⟩) = .ok [] := by decide +kernel
  have whole : OrToolsAdapter.continuousOnly.contains (Text.upper "scip") = false := by
    decide +kernel
  have takes : Adapter.supportsInteger (OrToolsAdapter.make "scip") = .ok true := by
    show Except.ok (!OrToolsAdapter.continuousOnly.contains (Text.upper "scip")) = _
    rw [whole]
    rfl
  have one : (Scalar.int 1).lt (.real Number.infinity) = true := by decide +kernel
  have columns : ∀ c ∈ (s.2.models.problem ⟨0⟩).columns,
      (Scalar.real Number.infinity).holdsBound c.bound = true := by decide +kernel
  have rows : ∀ r ∈ (s.2.models.problem ⟨0⟩).rows,
      (Scalar.real Number.infinity).holdsBound r.bound = true := by decide +kernel
  exact ⟨can, (ortools_model check (Sample.lookup_registered (.orTools "scip")) (fun _ => takes)
    (fun _ _ => rfl) rfl rfl one columns rows).2 can⟩

end Solver

end LinearDispatch
