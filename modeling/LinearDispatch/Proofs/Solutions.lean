import LinearDispatch.Model.Store
import LinearDispatch.Proofs.NumberOrder

/-!
# The solutions of programs and of parts

An adapter receives a flat list of parts, with ranges and mappings made of values. This file reads
such a list as a model (what a point has to satisfy) and compares it with the program that it was
made from, as it stands in the store. Variables, expressions and bounds are shared there, so a
program is read through its references: what was in a cell when something was added is of no
account.

The two readings are independent of each other. A column of the program has a range, lies between
0 and 1 if it is binary, and is whole unless it is continuous; a column in the list has two sides
and a kind, and nothing is said about binary ones. That they come to the same is the clipping of
ranges, `within_clipped`.
-/

namespace LinearDispatch

open Number (FromAbove FromBelow Within point)

/-! ## Points and programs -/

/-- The real number that a binary64 number stands for, if it is finite. -/
noncomputable def realOf (x : Float) : Option ℝ :=
  (point x).bind fun p => if p = ⊤ ∨ p = ⊥ then none else some p.toReal

/-- The value of terms at a point; terms with a coefficient that is no real number have none. -/
noncomputable def sumAt (x : ℕ → ℝ) : List (ℕ × Float) → Option ℝ
  | [] => some 0
  | t :: rest => do
    let a ← realOf t.2
    let v ← sumAt x rest
    return a * x t.1 + v

/-- A column allows a value. -/
def Column.Allows (c : Column) (v : ℝ) : Prop :=
  Within c.bound.range v ∧ (c.kind = .binary → 0 ≤ v ∧ v ≤ 1) ∧
    (c.kind ≠ .continuous → ∃ n : ℤ, v = n)

/-- A row allows a point. -/
def Row.Allows (r : Row) (x : ℕ → ℝ) : Prop :=
  ∃ v, sumAt x r.expression.coefficients.entries = some v ∧ Within r.bound.range v

/-- A point satisfies a program as its variables and rows stand in the store. -/
def Store.Feasible (models : Store) (p : Program) (x : ℕ → ℝ) : Prop :=
  (∀ i r, p.vars[i]? = some r → (models.column r).Allows (x i)) ∧
    ∀ r, .proper r ∈ p.constraints → (models.row r).Allows x

/-! ## Points and parts -/

/-- Coefficients as terms: the keys are columns and the values are numbers. -/
def Coefficients.terms? : Coefficients → Option (List (ℕ × Float))
  | .mapping m => m.entries.mapM fun e => do
    let index ← e.1.value.index?
    let a ← e.2.toFloat.toOption
    return (index, a)
  | .other _ => none

/-- A value lies between two sides that are handed over as values. -/
def Between (lower upper : Value) (v : ℝ) : Prop :=
  ∃ l u, lower.toFloat = .ok l ∧ upper.toFloat = .ok u ∧ Within (l, u) v

namespace Part

def isColumn : Part → Bool
  | column .. => true
  | row .. | objective _ => false

def isRow : Part → Bool
  | row .. => true
  | column .. | objective _ => false

def AllowsValue : Part → ℝ → Prop
  | column kind lower upper _, v =>
    Between lower upper v ∧ (kind ≠ .continuous → ∃ n : ℤ, v = n)
  | row .., _ | objective _, _ => True

def AllowsPoint : Part → (ℕ → ℝ) → Prop
  | row coefficients lower upper _, x =>
    ∃ terms v, coefficients.terms? = some terms ∧ sumAt x terms = some v ∧ Between lower upper v
  | column .., _ | objective _, _ => True

end Part

/-- A point satisfies the model that parts describe in their order: the columns are numbered as
they come. -/
def Satisfies (sent : List Part) (x : ℕ → ℝ) : Prop :=
  (∀ (i : ℕ) (c : Part), (sent.filter Part.isColumn)[i]? = some c → c.AllowsValue (x i)) ∧
    ∀ r ∈ sent.filter Part.isRow, r.AllowsPoint x

/-! ## One part -/

theorem between_ofFloat (lower upper : Float) (v : ℝ) :
    Between (.ofFloat lower) (.ofFloat upper) v ↔ Within (lower, upper) v := by
  constructor
  · rintro ⟨_, _, ⟨⟩, ⟨⟩, h⟩
    exact h
  · intro h
    exact ⟨lower, upper, rfl, rfl, h⟩

/-- An expression is handed over with its own columns and coefficients. -/
theorem terms?_handedOver (e : Expression) : e.handedOver.terms? = some e.coefficients.entries := by
  unfold Expression.handedOver Coefficients.terms?
  dsimp only
  induction e.coefficients.entries with
  | nil => rfl
  | cons t rest ih =>
      rw [List.map_cons, List.mapM_cons, ih]
      rfl

/-- A binary column has the part of its range between 0 and 1, and that says as much as the program
does. -/
theorem Column.within_range_iff (c : Column) (v : ℝ) :
    Within c.range v ∧ (c.kind ≠ .continuous → ∃ n : ℤ, v = n) ↔ c.Allows v := by
  unfold Column.Allows
  rw [← and_assoc]
  refine and_congr_left fun _ => ?_
  unfold Column.range
  by_cases binary : c.kind = .binary
  · simp only [binary, if_true, true_imp_iff]
    exact Number.within_clipped c.bound.range v
  · simp only [binary, if_false, false_imp_iff, and_true]

theorem Column.allowsValue_part (c : Column) (i : ℕ) (v : ℝ) :
    (c.part i).AllowsValue v ↔ c.Allows v := by
  unfold Column.part Part.AllowsValue
  dsimp only
  rw [between_ofFloat]
  exact c.within_range_iff v

theorem Row.allowsPoint_part (r : Row) (i : ℕ) (x : ℕ → ℝ) :
    (r.part i).AllowsPoint x ↔ r.Allows x := by
  unfold Row.part Part.AllowsPoint Row.Allows
  dsimp only
  rw [terms?_handedOver]
  constructor
  · rintro ⟨_, v, ⟨⟩, sum, within⟩
    exact ⟨v, sum, (between_ofFloat _ _ _).1 within⟩
  · rintro ⟨v, sum, within⟩
    exact ⟨_, v, rfl, sum, (between_ofFloat _ _ _).2 within⟩

/-! ## All parts -/

namespace Problem

/-- Parts of one make are all kept or all left out. -/
theorem filter_mapIdx {α : Type} {keep : Part → Bool} {f : ℕ → α → Part} {b : Bool}
    (h : ∀ i a, keep (f i a) = b) (l : List α) :
    (l.mapIdx f).filter keep = if b then l.mapIdx f else [] := by
  have all : ∀ part ∈ l.mapIdx f, keep part = b := by
    intro part hpart
    obtain ⟨i, hi, rfl⟩ := List.mem_mapIdx.1 hpart
    exact h i l[i]
  cases b with
  | true => exact List.filter_eq_self.2 all
  | false => exact List.filter_eq_nil_iff.2 fun part hpart => Bool.eq_false_iff.1 (all part hpart)

variable (problem : Problem)

/-- The columns among the parts are the columns of the problem in their order. -/
theorem filter_isColumn_parts :
    problem.parts.filter Part.isColumn = problem.columns.mapIdx Column.part := by
  unfold parts
  rw [List.filter_append, List.filter_append, filter_mapIdx (b := true) fun _ _ => rfl,
    filter_mapIdx (b := false) fun _ _ => rfl, if_pos rfl, if_neg Bool.false_ne_true,
    List.append_nil]
  exact List.append_nil _

theorem filter_isRow_parts :
    problem.parts.filter Part.isRow = problem.rows.mapIdx Row.part := by
  unfold parts
  rw [List.filter_append, List.filter_append, filter_mapIdx (b := false) fun _ _ => rfl,
    filter_mapIdx (b := true) fun _ _ => rfl, if_pos rfl, if_neg Bool.false_ne_true,
    List.nil_append]
  exact List.append_nil _

/-- A point satisfies the parts of a problem exactly if every column allows its value and every
row allows the point. -/
theorem satisfies_parts (x : ℕ → ℝ) :
    Satisfies problem.parts x ↔
      (∀ (i : ℕ) (c : Column), problem.columns[i]? = some c → c.Allows (x i)) ∧
        ∀ r ∈ problem.rows, r.Allows x := by
  unfold Satisfies
  rw [filter_isColumn_parts, filter_isRow_parts]
  refine and_congr ⟨fun h i c hc => ?_, fun h i c hc => ?_⟩ ⟨fun h r hr => ?_, fun h r hr => ?_⟩
  · refine (c.allowsValue_part i (x i)).1 (h i _ ?_)
    rw [List.getElem?_mapIdx, hc]
    rfl
  · rw [List.getElem?_mapIdx] at hc
    obtain ⟨column, hcolumn, rfl⟩ := Option.map_eq_some_iff.1 hc
    exact (column.allowsValue_part i (x i)).2 (h i column hcolumn)
  · obtain ⟨i, hi, rfl⟩ := List.mem_iff_getElem.1 hr
    exact (Row.allowsPoint_part _ i x).1 (h _ (List.mem_mapIdx.2 ⟨i, hi, rfl⟩))
  · obtain ⟨i, hi, rfl⟩ := List.mem_mapIdx.1 hr
    exact (Row.allowsPoint_part _ i x).2 (h _ (List.getElem_mem hi))

end Problem

/-- What holds of the variables of a program by their place, and of its rows, holds of the columns
and the rows that it stands for. -/
theorem Store.forall_problem_iff (models : Store) (p : Ref Program) (P : ℕ → Column → Prop)
    (Q : Row → Prop) :
    ((∀ i r, (models.programs.get p).vars[i]? = some r → P i (models.column r)) ∧
        ∀ r, .proper r ∈ (models.programs.get p).constraints → Q (models.row r)) ↔
      (∀ (i : ℕ) (c : Column), (models.problem p).columns[i]? = some c → P i c) ∧
        ∀ r ∈ (models.problem p).rows, Q r := by
  unfold Store.problem
  dsimp only
  refine and_congr ⟨fun h i c hc => ?_, fun h i r hr => ?_⟩ ⟨fun h r hr => ?_, fun h r hr => ?_⟩
  · rw [List.getElem?_map] at hc
    obtain ⟨r, hr, rfl⟩ := Option.map_eq_some_iff.1 hc
    exact h i r hr
  · refine h i _ ?_
    rw [List.getElem?_map, hr]
    rfl
  · obtain ⟨c, hc, rfl⟩ := List.mem_map.1 hr
    obtain ⟨given, hgiven, found⟩ := List.mem_filterMap.1 hc
    cases given with
    | proper c' =>
        cases found
        exact h c hgiven
    | other f => cases found
  · refine h _ (List.mem_map.2 ⟨r, ?_, rfl⟩)
    exact List.mem_filterMap.2 ⟨.proper r, hr, rfl⟩

/-- A point satisfies a program exactly if the columns and rows that it stands for allow it. -/
theorem Store.feasible_iff (models : Store) (p : Ref Program) (x : ℕ → ℝ) :
    models.Feasible (models.programs.get p) x ↔
      (∀ (i : ℕ) (c : Column), (models.problem p).columns[i]? = some c → c.Allows (x i)) ∧
        ∀ r ∈ (models.problem p).rows, r.Allows x :=
  models.forall_problem_iff p (fun i c => c.Allows (x i)) fun r => r.Allows x

/-- The parts of the problem that a program stands for are read like the program itself. -/
theorem Store.satisfies_parts (models : Store) (p : Ref Program) (x : ℕ → ℝ) :
    Satisfies (models.problem p).parts x ↔ models.Feasible (models.programs.get p) x := by
  rw [Problem.satisfies_parts, models.feasible_iff]

end LinearDispatch
