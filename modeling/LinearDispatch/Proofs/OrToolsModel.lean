import LinearDispatch.Proofs.NativeCalls
import LinearDispatch.Proofs.NativeReading

/-!
# The model that OR-Tools calls build

OR-Tools is told about a model call by call. Here the calls are read as what they build: a solver
starts without anything, a column call adds a column, a coefficient goes to the row that was made
last, and so on. `OrToolsModel.of` is the model after some calls, and `Portrays` compares it with a
problem, column by column and row by row.

A model that portrays a problem allows the same points, `feasible_iff`. The solver's infinity has
to be above 1, or the range of a binary column could not be told from an unbounded one.
-/

namespace LinearDispatch

/-- A column on its way: whether its values are whole, and its sides. -/
structure NativeColumn where
  whole : Bool
  lower : Scalar
  upper : Scalar

structure NativeRow where
  lower : Scalar
  upper : Scalar
  coefficients : OrderedMap ℕ Value

/-- What OR-Tools has been told about a model. Columns are numbered as they come. -/
structure OrToolsModel where
  columns : List NativeColumn
  rows : List NativeRow
  objective : OrderedMap ℕ Value
  minimized : Bool

namespace OrToolsModel

/-- The model of a new solver. -/
def empty : OrToolsModel :=
  ⟨[], [], .empty, false⟩

/-- Rows with a coefficient set in the last one. -/
def setLast (column : ℕ) (coefficient : Value) (rows : List NativeRow) : List NativeRow :=
  rows.modifyLast fun r => { r with coefficients := r.coefficients.put column coefficient }

/-- The model after one more call. Parameters and solving leave it as it is. -/
def take (m : OrToolsModel) : OrToolsCall → OrToolsModel
  | .createSolver _ => empty
  | .numVariable lower upper _ => { m with columns := m.columns ++ [⟨false, lower, upper⟩] }
  | .intVariable lower upper _ => { m with columns := m.columns ++ [⟨true, lower, upper⟩] }
  | .boolVariable _ => { m with columns := m.columns ++ [⟨true, .int 0, .int 1⟩] }
  | .constraint lower upper _ => { m with rows := m.rows ++ [⟨lower, upper, .empty⟩] }
  | .rowCoefficient column coefficient => { m with rows := setLast column coefficient m.rows }
  | .clearObjective => { m with objective := .empty }
  | .objectiveCoefficient column coefficient =>
    { m with objective := m.objective.put column coefficient }
  | .minimize => { m with minimized := true }
  | .enableOutput | .suppressOutput | .setTimeLimit _ | .setThreads _ | .setParameterText _
  | .solve => m

/-- The model after one more call of any library. -/
def takeNative (m : OrToolsModel) : NativeCall → OrToolsModel
  | .orTools call => m.take call
  | .highs _ | .gurobi _ => m

/-- The model that calls build. -/
def of (calls : List NativeCall) : OrToolsModel :=
  calls.foldl takeNative empty

theorem of_append (calls more : List NativeCall) :
    of (calls ++ more) = more.foldl takeNative (of calls) :=
  List.foldl_append

/-- What prepares a model is not in it. -/
theorem leaves_of_prepares {c : NativeCall} (h : c.prepares = true) : Leaves takeNative c := by
  cases c with
  | highs m => exact fun _ => rfl
  | orTools c => cases c <;> first | exact fun _ => rfl | cases h
  | gurobi c => exact fun _ => rfl

/-! ## Coefficients one by one -/

/-- Coefficients of a row go to the row that was made last. -/
theorem foldl_rowCoefficient (entries : List (ℕ × Value)) :
    ∀ {m : OrToolsModel} {rows : List NativeRow} {r : NativeRow}, m.rows = rows ++ [r] →
      (entries.map fun t => .orTools (.rowCoefficient t.1 t.2)).foldl takeNative m =
        { m with rows := rows ++ [{ r with coefficients := r.coefficients.putAll entries }] } := by
  induction entries with
  | nil =>
      intro m rows r h
      rw [List.map_nil, List.foldl_nil]
      show m = { m with rows := rows ++ [r] }
      rw [← h]
  | cons t rest ih =>
      intro m rows r h
      have set : setLast t.1 t.2 m.rows =
          rows ++ [{ r with coefficients := r.coefficients.put t.1 t.2 }] := by
        unfold setLast
        rw [h, List.modifyLast_concat]
      rw [List.map_cons, List.foldl_cons, ih set]
      rfl

theorem foldl_objectiveCoefficient (entries : List (ℕ × Value)) :
    ∀ {m : OrToolsModel},
      (entries.map fun t => .orTools (.objectiveCoefficient t.1 t.2)).foldl takeNative m =
        { m with objective := m.objective.putAll entries } := by
  induction entries with
  | nil => exact rfl
  | cons t rest ih =>
      intro m
      rw [List.map_cons, List.foldl_cons, ih]
      rfl

/-- The terms of an expression, set one by one where there were none, are all there is. -/
theorem entries_putAll_native (e : Expression) :
    ((OrderedMap.empty : OrderedMap ℕ Value).putAll e.native).entries = e.native := by
  have keys : e.native.map Prod.fst = e.coefficients.entries.map Prod.fst := by
    unfold Expression.native
    rw [List.map_map]
    rfl
  refine OrderedMap.entries_putAll ?_
  show (e.native.map Prod.fst).Nodup
  rw [keys]
  exact e.coefficients.distinct

end OrToolsModel

/-! ## The model of a problem -/

/-- A native column is a column of a problem: continuous or whole, and its range with the solver's
infinity for infinite sides. -/
structure NativeColumn.Portrays (infinity : Scalar) (n : NativeColumn) (c : Column) : Prop where
  whole : n.whole = true ↔ c.kind ≠ .continuous
  lower : n.lower.same (.ofSide infinity c.range.1) = true
  upper : n.upper.same (.ofSide infinity c.range.2) = true

structure NativeRow.Portrays (infinity : Scalar) (n : NativeRow) (r : Row) : Prop where
  lower : n.lower.same (.ofSide infinity r.bound.range.1) = true
  upper : n.upper.same (.ofSide infinity r.bound.range.2) = true
  coefficients : n.coefficients.entries = r.expression.native

/-- A native model is a problem: its columns and rows in their order, its objective, to be
minimized. -/
structure OrToolsModel.Portrays (infinity : Scalar) (m : OrToolsModel) (problem : Problem) :
    Prop where
  columns : List.Forall₂ (NativeColumn.Portrays infinity) m.columns problem.columns
  rows : List.Forall₂ (NativeRow.Portrays infinity) m.rows problem.rows
  objective : m.objective.entries = problem.objective.native
  minimized : m.minimized = true

/-! ## Points -/

/-- A native column allows a value. -/
def NativeColumn.Allows (infinity : Scalar) (n : NativeColumn) (v : ℝ) : Prop :=
  Scalar.SidesAllow infinity n.lower n.upper v ∧ (n.whole = true → ∃ k : ℤ, v = k)

def NativeRow.Allows (infinity : Scalar) (n : NativeRow) (x : ℕ → ℝ) : Prop :=
  ∃ v, termsAt x n.coefficients.entries = some v ∧ Scalar.SidesAllow infinity n.lower n.upper v

/-- A point satisfies a native model. -/
def OrToolsModel.Feasible (infinity : Scalar) (m : OrToolsModel) (x : ℕ → ℝ) : Prop :=
  (∀ (i : ℕ) (n : NativeColumn), m.columns[i]? = some n → n.Allows infinity (x i)) ∧
    ∀ n ∈ m.rows, n.Allows infinity x

/-- A side that a solver with this infinity can hold: an infinite one, or a number between the
infinities. -/
def Scalar.holds (infinity : Scalar) (x : Float) : Bool :=
  x.isInf || (infinity.neg.lt (.real x) && (Scalar.real x).lt infinity)

/-- The solver can hold both sides of a bound. -/
def Scalar.holdsBound (infinity : Scalar) (b : Bound) : Bool :=
  infinity.holds b.range.1 && infinity.holds b.range.2

namespace Scalar

variable {infinity : Scalar}

theorem not_same_of_lt {a b : Scalar} (h : a.lt b = true) :
    a.same b = false ∧ b.same a = false := by
  obtain ⟨p, q, hp, hq, below⟩ := lt_iff.1 h
  refine ⟨Bool.eq_false_iff.2 fun same => ?_, Bool.eq_false_iff.2 fun same => ?_⟩
  · have equal := point_eq_of_same same
    rw [hp, hq] at equal
    exact below.ne (Option.some.inj equal)
  · have equal := point_eq_of_same same
    rw [hp, hq] at equal
    exact below.ne' (Option.some.inj equal)

theorem holds_iff {x : Float} (finite : x.isInf = false) :
    infinity.holds x = true ↔ infinity.neg.lt (real x) = true ∧ (real x).lt infinity = true := by
  unfold holds
  rw [finite, Bool.false_or, Bool.and_eq_true]

/-- What the solver can hold is not one of its infinities. -/
theorem apart_of_holds {x : Float} (h : infinity.holds x = true) : infinity.Apart x := by
  intro finite
  obtain ⟨below, above⟩ := (holds_iff finite).1 h
  exact ⟨(not_same_of_lt above).1, (not_same_of_lt below).2⟩

/-- What lies between 0 and 1 is between the infinities. -/
theorem holds_of_unit (one : (int 1).lt infinity = true) {x : Float} {p : EReal}
    (hx : Number.point x = some p) (low : 0 ≤ p) (high : p ≤ 1) : infinity.holds x = true := by
  obtain ⟨q, i, hq, hi, above⟩ := lt_iff.1 one
  cases hq
  have large : 1 < i := by simpa using above
  have negative : -i < 0 := EReal.neg_lt_zero.2 (zero_lt_one.trans large)
  unfold holds
  rw [Bool.or_eq_true, Bool.and_eq_true]
  refine .inr ⟨lt_iff.2 ⟨-i, p, ?_, hx, negative.trans_le low⟩, ?_⟩
  · rw [point_neg, hi]
    rfl
  · exact lt_iff.2 ⟨p, i, hx, hi, high.trans_lt large⟩

end Scalar

/-- The solver can hold the range of a column if it can hold its bound. -/
theorem Column.holds_range {infinity : Scalar} (one : (Scalar.int 1).lt infinity = true)
    {c : Column} (h : infinity.holdsBound c.bound = true) :
    infinity.holds c.range.1 = true ∧ infinity.holds c.range.2 = true := by
  obtain ⟨lower, upper⟩ := (Bool.and_eq_true _ _).mp h
  have larger_ : infinity.holds (larger c.bound.range.1 0.0) = true := by
    unfold larger
    split
    · exact Scalar.holds_of_unit one Number.point_zero le_rfl zero_le_one
    · exact lower
  have smaller_ : infinity.holds (smaller c.bound.range.2 1.0) = true := by
    unfold smaller
    split
    · exact Scalar.holds_of_unit one Number.point_one zero_le_one le_rfl
    · exact upper
  unfold Column.range
  by_cases binary : c.kind = .binary
  · simp only [binary, if_true]
    exact ⟨larger_, smaller_⟩
  · simp only [binary, if_false]
    exact ⟨lower, upper⟩

/-! ## Portraits allow the same points -/

theorem NativeColumn.Portrays.allows_iff {infinity : Scalar} {n : NativeColumn} {c : Column}
    (h : n.Portrays infinity c) (one : (Scalar.int 1).lt infinity = true)
    (holds : infinity.holdsBound c.bound = true) (v : ℝ) : n.Allows infinity v ↔ c.Allows v := by
  obtain ⟨lower, upper⟩ := Column.holds_range one holds
  rw [← c.within_range_iff]
  unfold NativeColumn.Allows
  rw [Scalar.sidesAllow_iff (Scalar.neg_lt_of_one_lt one)
    (Scalar.readSide_congr h.lower infinity) (Scalar.readSide_congr h.upper infinity)
    (.inl (Scalar.apart_of_holds lower)) (.inl (Scalar.apart_of_holds upper)), h.whole]

theorem NativeRow.Portrays.allows_iff {infinity : Scalar} {n : NativeRow} {r : Row}
    (h : n.Portrays infinity r) (one : (Scalar.int 1).lt infinity = true)
    (holds : infinity.holdsBound r.bound = true) (x : ℕ → ℝ) :
    n.Allows infinity x ↔ r.Allows x := by
  obtain ⟨lower, upper⟩ := (Bool.and_eq_true _ _).mp holds
  unfold NativeRow.Allows Row.Allows
  rw [h.coefficients, termsAt_native]
  refine exists_congr fun v => and_congr_right fun _ => ?_
  exact Scalar.sidesAllow_iff (Scalar.neg_lt_of_one_lt one)
    (Scalar.readSide_congr h.lower infinity) (Scalar.readSide_congr h.upper infinity)
    (.inl (Scalar.apart_of_holds lower)) (.inl (Scalar.apart_of_holds upper))

/-- A native model that is a problem allows the points that the problem allows. -/
theorem OrToolsModel.Portrays.feasible_iff {infinity : Scalar} {m : OrToolsModel}
    {problem : Problem} (h : m.Portrays infinity problem)
    (one : (Scalar.int 1).lt infinity = true)
    (columns : ∀ c ∈ problem.columns, infinity.holdsBound c.bound = true)
    (rows : ∀ r ∈ problem.rows, infinity.holdsBound r.bound = true) (x : ℕ → ℝ) :
    m.Feasible infinity x ↔
      (∀ (i : ℕ) (c : Column), problem.columns[i]? = some c → c.Allows (x i)) ∧
        ∀ r ∈ problem.rows, r.Allows x := by
  obtain ⟨count, pairs⟩ := List.forall₂_iff_get.1 h.columns
  obtain ⟨countRows, pairRows⟩ := List.forall₂_iff_get.1 h.rows
  unfold OrToolsModel.Feasible
  refine and_congr ⟨fun all i c hc => ?_, fun all i n hn => ?_⟩
    ⟨fun all r hr => ?_, fun all n hn => ?_⟩
  · obtain ⟨hi, rfl⟩ := List.getElem?_eq_some_iff.1 hc
    have here := pairs i (by omega) hi
    exact (here.allows_iff one (columns _ (List.getElem_mem hi)) _).1
      (all i _ (List.getElem?_eq_getElem (by omega)))
  · obtain ⟨hi, rfl⟩ := List.getElem?_eq_some_iff.1 hn
    have here := pairs i hi (by omega)
    exact (here.allows_iff one (columns _ (List.getElem_mem (by omega))) _).2
      (all i _ (List.getElem?_eq_getElem (by omega)))
  · obtain ⟨i, hi, rfl⟩ := List.mem_iff_getElem.1 hr
    have here := pairRows i (by omega) hi
    exact (here.allows_iff one (rows _ hr) x).1 (all _ (List.getElem_mem (by omega)))
  · obtain ⟨i, hi, rfl⟩ := List.mem_iff_getElem.1 hn
    have here := pairRows i hi (by omega)
    exact (here.allows_iff one (rows _ (List.getElem_mem (by omega))) x).2
      (all _ (List.getElem_mem (by omega)))

end LinearDispatch
