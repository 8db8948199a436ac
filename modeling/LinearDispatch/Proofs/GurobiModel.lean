import LinearDispatch.Proofs.BoundOrder
import LinearDispatch.Proofs.NativeCalls
import LinearDispatch.Proofs.NativeReading

/-!
# The model that Gurobi calls build

Gurobi is told about a model in calls for whole columns and rows, and in one for the objective. A
row comes as an equation, as an inequality or as a range, according to its two sides, or it does
not come at all. `GurobiDraft.of` reads the calls, and `Portrays` compares what they build with a
problem: columns are the same one by one, and a row is compared by the values that it admits.

Rows are the delicate part. That each of the four ways to send a row, and the way not to, admits
what the range of the row lets through, is `Row.call?_spec`. It needs that the sides are numbers in
their order: a row with both sides infinite is not sent, which would be wrong for one that lies
between infinity and minus infinity.

Gurobi's infinity is a number, which goes into the model for an infinite side of a column. Read as
nothing but a number it makes the model the program with that number for infinity, whatever else is
in the program. `Represents` says so, and compares the model with the program as it is: they have
the same points up to that number, and the same points beyond it if Gurobi takes the number for no
side at all and no side of the program is mistaken for it.
-/

namespace LinearDispatch

open Number (FromAbove FromBelow Within point)

/-- A column as Gurobi knows it. -/
structure GurobiColumn where
  kind : VariableKind
  lower : Scalar
  upper : Scalar

/-- A row as Gurobi knows it: terms with one side or with two. -/
inductive GurobiRow where
  | sided (terms : List (ℕ × Value)) (sense : GurobiSense) (side : Value)
  | ranged (terms : List (ℕ × Value)) (lower upper : Value)

/-- What Gurobi has been told about a model. Columns are numbered as they come. -/
structure GurobiDraft where
  columns : List GurobiColumn
  rows : List GurobiRow
  objective : List (ℕ × Value)
  goal : Option GurobiGoal

namespace GurobiDraft

/-- A new model. -/
def empty : GurobiDraft :=
  ⟨[], [], [], none⟩

/-- The model after one more call. An objective comes with its goal. -/
def take (m : GurobiDraft) : GurobiCall → GurobiDraft
  | .createModel _ | .disposeModel => empty
  | .addVariable lower upper kind _ => { m with columns := m.columns ++ [⟨kind, lower, upper⟩] }
  | .addRow terms sense side _ => { m with rows := m.rows ++ [.sided terms sense side] }
  | .addRange terms lower upper _ => { m with rows := m.rows ++ [.ranged terms lower upper] }
  | .setObjective terms goal => { m with objective := terms, goal := some goal }
  | .createEnvironment _ | .setEnvironmentParameter .. | .startEnvironment | .disposeEnvironment _
  | .setParameter .. | .update | .optimize => m

/-- The model after one more call of any library. -/
def takeNative (m : GurobiDraft) : NativeCall → GurobiDraft
  | .gurobi call => m.take call
  | .highs _ | .orTools _ => m

/-- The model that calls build. -/
def of (calls : List NativeCall) : GurobiDraft :=
  calls.foldl takeNative empty

theorem of_append (calls more : List NativeCall) :
    of (calls ++ more) = more.foldl takeNative (of calls) :=
  List.foldl_append

/-- What prepares a model is not in it. -/
theorem leaves_of_prepares {c : NativeCall} (h : c.prepares = true) : Leaves takeNative c := by
  cases c with
  | highs m => exact fun _ => rfl
  | orTools c => exact fun _ => rfl
  | gurobi c => cases c <;> first | exact fun _ => rfl | cases h

end GurobiDraft

/-! ## Rows -/

/-- The point on the line of numbers that a side is. -/
noncomputable def Value.point : Value → Option EReal
  | .scalar s => s.point
  | _ => Option.none

/-- A value stands to a side as the sense says. -/
def GurobiSense.Holds (sense : GurobiSense) (v : ℝ) (side : EReal) : Prop :=
  match sense with
  | .equal => (v : EReal) = side
  | .lessEqual => (v : EReal) ≤ side
  | .greaterEqual => side ≤ v

namespace GurobiRow

def terms : GurobiRow → List (ℕ × Value)
  | sided terms _ _ | ranged terms _ _ => terms

/-- The values that the expression of a row may have. -/
def Admits : GurobiRow → ℝ → Prop
  | sided _ sense side, v => ∃ p, side.point = some p ∧ sense.Holds v p
  | ranged _ lower upper, v =>
    ∃ l u, lower.point = some l ∧ upper.point = some u ∧ l ≤ v ∧ v ≤ u

/-- A row of Gurobi is a row of a problem: it has its terms, and it admits what its range lets
through. -/
structure Portrays (n : GurobiRow) (r : Row) : Prop where
  terms : n.terms = r.expression.native
  admits : ∀ v, n.Admits v ↔ Within r.bound.range v

end GurobiRow

namespace Row

/-- A row that constrains nothing: it reaches from minus infinity to infinity. -/
def isFree (r : Row) : Bool :=
  (Scalar.real r.bound.range.1).same (.real Number.negInfinity) &&
    (Scalar.real r.bound.range.2).same (.real Number.infinity)

theorem isFree_iff {r : Row} :
    r.isFree = true ↔ point r.bound.range.1 = some ⊥ ∧ point r.bound.range.2 = some ⊤ := by
  unfold isFree
  rw [Bool.and_eq_true, Scalar.same_iff, Scalar.same_iff]
  constructor
  · rintro ⟨⟨p, hp, bot⟩, q, hq, top⟩
    cases bot.symm.trans Number.point_negInfinity
    cases top.symm.trans Number.point_infinity
    exact ⟨hp, hq⟩
  · rintro ⟨hp, hq⟩
    exact ⟨⟨⊥, hp, Number.point_negInfinity⟩, ⊤, hq, Number.point_infinity⟩

/-- A row that constrains nothing lets everything through. -/
theorem within_of_isFree {r : Row} (h : r.isFree = true) (v : ℝ) : Within r.bound.range v := by
  obtain ⟨lower, upper⟩ := isFree_iff.1 h
  exact ⟨⟨⊥, lower, bot_le⟩, ⊤, upper, le_top⟩

/-- The call that sends a row, if it is sent. -/
def call? (r : Row) (name : Value) : Option GurobiCall :=
  let terms := r.expression.native
  let lower := r.bound.range.1
  let upper := r.bound.range.2
  if (Scalar.real lower).same (.real upper) then
    some (.addRow terms .equal (.ofFloat lower) name)
  else if lower.isInf && upper.isInf then
    none
  else if lower.isInf then
    some (.addRow terms .lessEqual (.ofFloat upper) name)
  else if upper.isInf then
    some (.addRow terms .greaterEqual (.ofFloat lower) name)
  else
    some (.addRange terms (.ofFloat lower) (.ofFloat upper) name)

end Row

/-- An infinite side is open if the lower side is below the upper one. -/
theorem Number.isInf_iff_of_lt {x y : Float} {p q : EReal} (hp : point x = some p)
    (hq : point y = some q) (below : p < q) :
    (x.isInf = true ↔ p = ⊥) ∧ (y.isInf = true ↔ q = ⊤) := by
  rw [Number.isInf_iff, Number.isInf_iff, hp, hq]
  simp only [Option.some.injEq]
  exact ⟨or_iff_right below.ne_top, or_iff_left below.ne_bot⟩

/-- Both sides of a bound are numbers; infinite ones are. -/
def Bound.isNumeric (b : Bound) : Bool :=
  !(b.range.1.isNaN || b.range.2.isNaN)

/-- Sides that are numbers are points, in their order if the bound is. -/
theorem Bound.points_of_ordered {b : Bound} (ordered : b.Ordered) (numeric : b.isNumeric = true) :
    ∃ p q, point b.range.1 = some p ∧ point b.range.2 = some q ∧ p ≤ q := by
  unfold isNumeric at numeric
  rw [Bool.not_eq_true', Bool.or_eq_false_iff] at numeric
  obtain ⟨p, hp⟩ := Number.exists_point numeric.1
  obtain ⟨q, hq⟩ := Number.exists_point numeric.2
  exact ⟨p, q, hp, hq, not_lt.1 fun below => ordered (Number.lt_iff.2 ⟨q, p, hq, hp, below⟩)⟩

namespace Row

/-- However a row is sent, what Gurobi has then is that row; and only a row that constrains nothing
is not sent. -/
theorem call?_spec {r : Row} (ordered : r.bound.Ordered) (numeric : r.bound.isNumeric = true)
    (name : Value) :
    match r.call? name with
    | none => r.isFree = true
    | some c => r.isFree = false ∧ ∃ n : GurobiRow, n.Portrays r ∧
        ∀ m : GurobiDraft, m.take c = { m with rows := m.rows ++ [n] } := by
  obtain ⟨p, q, hp, hq, order⟩ := Bound.points_of_ordered ordered numeric
  have within_ : ∀ v : ℝ, Within r.bound.range v ↔ p ≤ v ∧ v ≤ q := by
    intro v
    unfold Number.Within FromBelow FromAbove
    simp only [hp, hq, Option.some.injEq, exists_eq_left']
  have sided : ∀ {sense side} {x : Float}, point x = some side →
      ∀ v, (GurobiRow.sided r.expression.native sense (.ofFloat x)).Admits v ↔
        sense.Holds v side := by
    intro sense side x hx v
    show (∃ s, point x = some s ∧ sense.Holds v s) ↔ _
    simp only [hx, Option.some.injEq, exists_eq_left']
  have free : r.isFree = true ↔ p = ⊥ ∧ q = ⊤ := by
    rw [isFree_iff, hp, hq, Option.some.injEq, Option.some.injEq]
  have notFree : ¬(p = ⊥ ∧ q = ⊤) → r.isFree = false := fun h => Bool.eq_false_iff.2 (mt free.1 h)
  have same : (Scalar.real r.bound.range.1).same (.real r.bound.range.2) = true ↔ p = q := by
    rw [Scalar.same_iff]
    show (∃ s, point _ = some s ∧ point _ = some s) ↔ _
    simp only [hp, hq, Option.some.injEq, exists_eq_left', eq_comm]
  unfold call?
  dsimp only
  by_cases equal : p = q
  · rw [if_pos (same.2 equal)]
    refine ⟨notFree ?_, _, ⟨rfl, fun v => ?_⟩, fun m => rfl⟩
    · rintro ⟨rfl, top⟩
      cases equal.trans top
    · rw [sided hp, within_, ← equal]
      exact ⟨fun here => ⟨here.ge, here.le⟩, fun both => both.2.antisymm both.1⟩
  rw [if_neg (mt same.1 equal)]
  obtain ⟨lowerOpen, upperOpen⟩ := Number.isInf_iff_of_lt hp hq (lt_of_le_of_ne order equal)
  cases lowerEnd : r.bound.range.1.isInf with
  | true =>
      have bot : p = ⊥ := lowerOpen.1 lowerEnd
      cases upperEnd : r.bound.range.2.isInf with
      | true => exact free.2 ⟨bot, upperOpen.1 upperEnd⟩
      | false =>
          have open_ : q ≠ ⊤ := mt upperOpen.2 (Bool.eq_false_iff.1 upperEnd)
          refine ⟨notFree fun h => open_ h.2, _, ⟨rfl, fun v => ?_⟩, fun m => rfl⟩
          rw [sided hq, within_, bot]
          exact (and_iff_right bot_le).symm
  | false =>
      have closed : p ≠ ⊥ := mt lowerOpen.2 (Bool.eq_false_iff.1 lowerEnd)
      have sent : r.isFree = false := notFree fun h => closed h.1
      cases upperEnd : r.bound.range.2.isInf with
      | true =>
          refine ⟨sent, _, ⟨rfl, fun v => ?_⟩, fun m => rfl⟩
          rw [sided hp, within_, upperOpen.1 upperEnd]
          exact (and_iff_left le_top).symm
      | false =>
          refine ⟨sent, _, ⟨rfl, fun v => ?_⟩, fun m => rfl⟩
          rw [within_]
          show (∃ l u, point _ = some l ∧ point _ = some u ∧ l ≤ v ∧ v ≤ u) ↔ _
          simp only [hp, hq, Option.some.injEq, exists_and_left, exists_eq_left']

end Row

/-! ## The model of a problem -/

/-- A side of a column as Gurobi gets it. -/
def GurobiAdapter.side (infinity x : Float) : Scalar :=
  .ofSide (.real infinity) x

/-- The column of Gurobi for a column: its kind, and its range with Gurobi's infinity for infinite
sides. -/
def Column.gurobi (infinity : Float) (c : Column) : GurobiColumn :=
  ⟨c.kind, GurobiAdapter.side infinity c.range.1, GurobiAdapter.side infinity c.range.2⟩

/-- A model is a problem: its columns, the rows that constrain something, its objective, to be
minimized. -/
structure GurobiDraft.Portrays (infinity : Float) (m : GurobiDraft) (problem : Problem) :
    Prop where
  columns : m.columns = problem.columns.map (Column.gurobi infinity)
  rows : List.Forall₂ GurobiRow.Portrays m.rows (problem.rows.filter fun r => !r.isFree)
  objective : m.objective = problem.objective.native
  goal : m.goal = some .minimize

/-! ## Points

A model can be read in two ways: its sides are numbers and nothing else, or Gurobi's infinity among
them is no side at all. `Represents` compares both readings with the program. -/

/-- A column allows a value, its sides read in one way. Binary ones take 0 and 1 only, whatever
their sides. -/
def GurobiColumn.Allows (read : Scalar → Option EReal) (n : GurobiColumn) (v : ℝ) : Prop :=
  ((∃ l, read n.lower = some l ∧ l ≤ v) ∧ ∃ u, read n.upper = some u ∧ v ≤ u) ∧
    (n.kind = .binary → 0 ≤ v ∧ v ≤ 1) ∧ (n.kind ≠ .continuous → ∃ k : ℤ, v = k)

/-- A row lets a point through: it admits what its terms sum up to. -/
def GurobiRow.Passes (n : GurobiRow) (x : ℕ → ℝ) : Prop :=
  ∀ v, termsAt x n.terms = some v → n.Admits v

/-- A point satisfies a model, the sides of its columns read in one way. -/
def GurobiDraft.Feasible (read : Scalar → Option EReal) (m : GurobiDraft) (x : ℕ → ℝ) : Prop :=
  (∀ (i : ℕ) (n : GurobiColumn), m.columns[i]? = some n → n.Allows read (x i)) ∧
    ∀ n ∈ m.rows, n.Passes x

/-- Gurobi's infinity is no side at all. -/
noncomputable def GurobiAdapter.readSide (infinity : Float) : Scalar → Option EReal :=
  Scalar.readSide (.real infinity)

/-- A column allows a value, if infinite sides are at this number and at its negative. -/
def Column.AllowsAt (infinity : Float) (c : Column) (v : ℝ) : Prop :=
  Within
    (Number.withInfinity infinity c.bound.range.1, Number.withInfinity infinity c.bound.range.2)
      v ∧
    (c.kind = .binary → 0 ≤ v ∧ v ≤ 1) ∧ (c.kind ≠ .continuous → ∃ k : ℤ, v = k)

/-- A row lets a point through. With a coefficient that is no real number its expression has no
value there, and then nothing is asked. -/
def Row.Passes (r : Row) (x : ℕ → ℝ) : Prop :=
  ∀ v, sumAt x r.expression.coefficients.entries = some v → Within r.bound.range v

/-- A point satisfies a program whose infinite sides of variables are at this number and at its
negative. -/
def Store.FeasibleAt (infinity : Float) (models : Store) (p : Program) (x : ℕ → ℝ) : Prop :=
  (∀ i r, p.vars[i]? = some r → (models.column r).AllowsAt infinity (x i)) ∧
    ∀ r, .proper r ∈ p.constraints → (models.row r).Passes x

/-- The coefficients of a row are real numbers. -/
def Row.IsReal (r : Row) : Prop :=
  ∀ t ∈ r.expression.coefficients.entries, ∃ a, realOf t.2 = some a

/-- Gurobi does not mistake a side of the column for infinite, or the value is not beyond that
side. -/
def Column.Clear (infinity : Float) (c : Column) (v : ℝ) : Prop :=
  (Scalar.real infinity).Inside v ∨
    ((Scalar.real infinity).Apart c.range.1 ∧ (Scalar.real infinity).Apart c.range.2)

/-- A model stands for a program. It has the points of the program with Gurobi's infinity for
infinite sides. So it has those of the program itself between that number and its negative, and
beyond them too if that number is no side at all; both for real coefficients, which give the rows a
value at every point. -/
structure GurobiDraft.Represents (infinity : Float) (m : GurobiDraft) (models : Store)
    (p : Ref Program) : Prop where
  exact : ∀ x, m.Feasible Scalar.point x ↔
    models.FeasibleAt infinity (models.programs.get p) x
  inside : (∀ r ∈ (models.problem p).rows, r.IsReal) → ∀ x,
    (∀ i < (models.problem p).columns.length, (Scalar.real infinity).Inside (x i)) →
      (m.Feasible Scalar.point x ↔ models.Feasible (models.programs.get p) x)
  unbounded : (∀ r ∈ (models.problem p).rows, r.IsReal) → ∀ x,
    (∀ (i : ℕ) (c : Column), (models.problem p).columns[i]? = some c → c.Clear infinity (x i)) →
      (m.Feasible (GurobiAdapter.readSide infinity) x ↔
        models.Feasible (models.programs.get p) x)
  objective : ∀ x, termsAt x m.objective =
    sumAt x (models.problem p).objective.coefficients.entries

/-! ### Columns -/

namespace Column

variable {infinity : Float}

/-- Up to the number in their place, infinite sides may be at that number. -/
theorem allowsAt_iff {v : ℝ} (inside : (Scalar.real infinity).Inside v)
    (c : Column) : c.AllowsAt infinity v ↔ c.Allows v :=
  and_congr_left fun _ => Scalar.within_withInfinity inside c.bound.range

/-- A column of Gurobi allows what the column of the program does with Gurobi's infinity in it. The
sides of a binary one are clipped before that, to a range where the infinity does not matter. -/
theorem gurobi_allows_iff_allowsAt (one : (Scalar.int 1).lt (.real infinity) = true) (c : Column)
    (v : ℝ) : (c.gurobi infinity).Allows Scalar.point v ↔ c.AllowsAt infinity v := by
  have translated : (c.gurobi infinity).Allows Scalar.point v ↔
      Within (Number.withInfinity infinity c.range.1, Number.withInfinity infinity c.range.2) v ∧
        (c.kind = .binary → 0 ≤ v ∧ v ≤ 1) ∧ (c.kind ≠ .continuous → ∃ k : ℤ, v = k) := by
    unfold GurobiColumn.Allows gurobi GurobiAdapter.side
    rw [Scalar.ofSide_real, Scalar.ofSide_real]
    exact Iff.rfl
  rw [translated]
  unfold AllowsAt
  by_cases binary : c.kind = .binary
  · refine and_congr_left fun both => ?_
    have unit := both.1 binary
    have inside := Scalar.inside_of_unit one unit
    have clipped : Within c.range v ↔ Within c.bound.range v := by
      unfold range
      simp only [binary, if_true]
      rw [Number.within_clipped, and_iff_left unit]
    rw [Scalar.within_withInfinity inside, Scalar.within_withInfinity inside, clipped]
  · have whole : c.range = c.bound.range := by
      unfold range
      simp only [binary, if_false]
    rw [whole]

/-- A column of Gurobi allows what the column of the program does, where its infinity is no side at
all and is not mistaken for one. -/
theorem gurobi_allows_iff (one : (Scalar.int 1).lt (.real infinity) = true) {c : Column} {v : ℝ}
    (clear : c.Clear infinity v) :
    (c.gurobi infinity).Allows (GurobiAdapter.readSide infinity) v ↔ c.Allows v := by
  have sides : Scalar.SidesAllow (.real infinity) (c.gurobi infinity).lower
      (c.gurobi infinity).upper v ↔ Within c.range v :=
    Scalar.sidesAllow_iff (Scalar.neg_lt_of_one_lt one) rfl rfl (clear.symm.imp_left And.left)
      (clear.symm.imp_left And.right)
  have read : (c.gurobi infinity).Allows (GurobiAdapter.readSide infinity) v ↔
      Within c.range v ∧ (c.kind = .binary → 0 ≤ v ∧ v ≤ 1) ∧
        (c.kind ≠ .continuous → ∃ k : ℤ, v = k) :=
    and_congr_left fun _ => sides
  have unit : c.Allows v → c.kind = .binary → 0 ≤ v ∧ v ≤ 1 := fun allows => allows.2.1
  rw [read, and_left_comm, c.within_range_iff]
  exact ⟨And.right, fun allows => ⟨unit allows, allows⟩⟩

end Column

/-! ### Rows -/

theorem exists_sumAt {terms : List (ℕ × Float)} (x : ℕ → ℝ) :
    (∀ t ∈ terms, ∃ a, realOf t.2 = some a) → ∃ v, sumAt x terms = some v := by
  induction terms with
  | nil => exact fun _ => ⟨0, rfl⟩
  | cons t rest ih =>
      intro real
      obtain ⟨a, ha⟩ := real t List.mem_cons_self
      obtain ⟨v, hv⟩ := ih fun u hu => real u (List.mem_cons_of_mem _ hu)
      refine ⟨a * x t.1 + v, ?_⟩
      rw [sumAt, ha, hv]
      rfl

/-- With real coefficients a row has a value, which is asked to be in its range. -/
theorem Row.IsReal.passes_iff {r : Row} (real : r.IsReal) (x : ℕ → ℝ) :
    r.Passes x ↔ r.Allows x := by
  obtain ⟨v, hv⟩ := exists_sumAt x real
  constructor
  · exact fun passes => ⟨v, hv, passes v hv⟩
  · rintro ⟨u, hu, within_⟩ w hw
    cases hu.symm.trans hw
    exact within_

theorem GurobiRow.Portrays.passes_iff {n : GurobiRow} {r : Row} (h : n.Portrays r) (x : ℕ → ℝ) :
    n.Passes x ↔ r.Passes x := by
  unfold GurobiRow.Passes Row.Passes
  rw [h.terms, termsAt_native]
  exact forall_congr' fun v => imp_congr_right fun _ => h.admits v

/-! ### Models -/

namespace GurobiDraft

variable {infinity : Float} {m : GurobiDraft} {problem : Problem}

/-- What the columns of a model allow is what those of the problem do, if that is so for each. -/
theorem Portrays.columns_iff (h : m.Portrays infinity problem) {read : Scalar → Option EReal}
    {x : ℕ → ℝ} {P : Column → ℝ → Prop}
    (each : ∀ (i : ℕ) (c : Column), problem.columns[i]? = some c →
      ((c.gurobi infinity).Allows read (x i) ↔ P c (x i))) :
    (∀ (i : ℕ) (n : GurobiColumn), m.columns[i]? = some n → n.Allows read (x i)) ↔
      ∀ (i : ℕ) (c : Column), problem.columns[i]? = some c → P c (x i) := by
  constructor
  · intro all i c hc
    refine (each i c hc).1 (all i _ ?_)
    rw [h.columns, List.getElem?_map, hc]
    rfl
  · intro all i n hn
    rw [h.columns, List.getElem?_map] at hn
    obtain ⟨c, hc, rfl⟩ := Option.map_eq_some_iff.1 hn
    exact (each i c hc).2 (all i c hc)

/-- The rows of a model let through what those of the problem do: one that is not sent would let
everything through. -/
theorem Portrays.rows_iff (h : m.Portrays infinity problem) (x : ℕ → ℝ) :
    (∀ n ∈ m.rows, n.Passes x) ↔ ∀ r ∈ problem.rows, r.Passes x := by
  obtain ⟨count, pairs⟩ := List.forall₂_iff_get.1 h.rows
  constructor
  · intro all r hr
    cases free : r.isFree with
    | true => exact fun v _ => Row.within_of_isFree free v
    | false =>
        have sent : r ∈ problem.rows.filter fun r => !r.isFree := by
          rw [List.mem_filter, free]
          exact ⟨hr, rfl⟩
        obtain ⟨i, hi, rfl⟩ := List.mem_iff_getElem.1 sent
        exact ((pairs i (by omega) hi).passes_iff x).1 (all _ (List.getElem_mem (by omega)))
  · intro all n hn
    obtain ⟨i, hi, rfl⟩ := List.mem_iff_getElem.1 hn
    refine ((pairs i hi (by omega)).passes_iff x).2 (all _ ?_)
    exact List.mem_of_mem_filter (List.getElem_mem (by omega))

theorem Portrays.rows_iff_of_real (h : m.Portrays infinity problem)
    (real : ∀ r ∈ problem.rows, r.IsReal) (x : ℕ → ℝ) :
    (∀ n ∈ m.rows, n.Passes x) ↔ ∀ r ∈ problem.rows, r.Allows x :=
  (h.rows_iff x).trans (forall₂_congr fun r hr => (real r hr).passes_iff x)

/-- A model that is the problem of a program stands for the program. -/
theorem Portrays.represents (one : (Scalar.int 1).lt (.real infinity) = true) {models : Store}
    {p : Ref Program} (h : m.Portrays infinity (models.problem p)) :
    m.Represents infinity models p where
  exact x := by
    unfold Feasible Store.FeasibleAt
    rw [models.forall_problem_iff p (fun i c => c.AllowsAt infinity (x i)) fun r => r.Passes x]
    exact and_congr (h.columns_iff fun _ c _ => c.gurobi_allows_iff_allowsAt one _) (h.rows_iff x)
  inside real x inside := by
    have columns := h.columns_iff fun i c hc =>
      (c.gurobi_allows_iff_allowsAt one (x i)).trans
        (c.allowsAt_iff (inside i (List.getElem?_eq_some_iff.1 hc).1))
    rw [models.feasible_iff]
    exact and_congr columns (h.rows_iff_of_real real x)
  unbounded real x clear := by
    have columns := h.columns_iff fun i c hc => Column.gurobi_allows_iff one (clear i c hc)
    rw [models.feasible_iff]
    exact and_congr columns (h.rows_iff_of_real real x)
  objective x := by rw [h.objective, termsAt_native]

end GurobiDraft

end LinearDispatch
