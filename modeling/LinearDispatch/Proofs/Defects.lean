import LinearDispatch.Model.Building
import Mathlib.Data.List.Sort

/-!
# What the check finds

The conditions that a program has to meet before a backend is asked: it has variables, its objective
mentions no other ones, and each of its rows has a bound and mentions no other ones either. The
check goes through them in this order and has one complaint for each that is not met; a complaint
about columns lists all of them, each once and in ascending order. So there is nothing to complain
about exactly if all conditions hold. A complaint is put into words when it is found; a column with
too many digits cannot be, and then there is no answer at all.
-/

namespace LinearDispatch

/-! ## Indices -/

namespace Expression

/-- The expression mentions only columns of a problem that has `columns` of them. -/
def Known (e : Expression) (columns : ℕ) : Prop :=
  ∀ i ∈ e.coefficients.keys, i < columns

instance (e : Expression) (columns : ℕ) : Decidable (e.Known columns) :=
  inferInstanceAs (Decidable (∀ i ∈ e.coefficients.keys, i < columns))

theorem Known.lt {e : Expression} {columns : ℕ} (known : e.Known columns) :
    ∀ t ∈ e.coefficients.entries, t.1 < columns :=
  fun _ ht => known _ (List.mem_map_of_mem ht)

/-- The list has the indices that the expression mentions and a problem with `columns` columns does
not have, each once and in ascending order. -/
structure Unknown (e : Expression) (columns : ℕ) (indices : List ℕ) : Prop where
  ascending : indices.Pairwise (· < ·)
  mem_iff : ∀ i, i ∈ indices ↔ i ∈ e.coefficients.keys ∧ columns ≤ i

theorem unknown_unknownColumns (e : Expression) (columns : ℕ) :
    e.Unknown columns (e.unknownColumns columns) where
  ascending := by
    have ordered : (e.unknownColumns columns).Pairwise (· ≤ ·) :=
      List.pairwise_mergeSort' (· ≤ ·) _
    have once : (e.unknownColumns columns).Nodup :=
      (List.mergeSort_perm _ _).nodup_iff.2 (e.coefficients.distinct.filter _)
    exact (ordered.and once).imp fun h => Nat.lt_of_le_of_ne h.1 h.2
  mem_iff i := by
    unfold unknownColumns
    rw [List.mem_mergeSort, List.mem_filter, decide_eq_true_eq]

theorem unknownColumns_eq_nil_iff {e : Expression} {columns : ℕ} :
    e.unknownColumns columns = [] ↔ e.Known columns := by
  have mem_iff := (e.unknown_unknownColumns columns).mem_iff
  rw [List.eq_nil_iff_forall_not_mem]
  refine forall_congr' fun i => ?_
  rw [mem_iff, not_and, not_le]

end Expression

/-! ## Conditions -/

/-- A condition on a problem. The ones on a row come with the row and its place. -/
inductive Condition where
  | hasVariables
  | objectiveKnown
  | rowBounded (row : ℕ) (r : Row)
  | rowKnown (row : ℕ) (r : Row)

namespace Condition

def Holds (p : Problem) : Condition → Prop
  | hasVariables => 0 < p.columns.length
  | objectiveKnown => p.objective.Known p.columns.length
  | rowBounded _ r => r.bound.kind ≠ .unset
  | rowKnown _ r => r.expression.Known p.columns.length

instance (p : Problem) : DecidablePred (Holds p)
  | hasVariables => inferInstanceAs (Decidable (0 < p.columns.length))
  | objectiveKnown => inferInstanceAs (Decidable (p.objective.Known p.columns.length))
  | rowBounded _ r => inferInstanceAs (Decidable (r.bound.kind ≠ .unset))
  | rowKnown _ r => inferInstanceAs (Decidable (r.expression.Known p.columns.length))

/-- The complaint about a condition that does not hold: which one it is, and with what. -/
def Reports (p : Problem) : Condition → Defect → Prop
  | hasVariables, defect => defect = .noVariables
  | objectiveKnown, defect =>
    ∃ indices, defect = .objectiveColumns indices ∧ p.objective.Unknown p.columns.length indices
  | rowBounded row _, defect => defect = .rowWithoutBound row
  | rowKnown row r, defect =>
    ∃ indices, defect = .rowColumns row indices ∧ r.expression.Unknown p.columns.length indices

/-- The conditions on the rows from place `row` on. -/
def ofRows (row : ℕ) (rows : List Row) : List Condition :=
  (rows.zipIdx row).flatMap fun (r, row) => [rowBounded row r, rowKnown row r]

end Condition

namespace Problem

/-- All conditions on a problem, in the order in which they are checked. -/
def conditions (p : Problem) : List Condition :=
  .hasVariables :: .objectiveKnown :: Condition.ofRows 0 p.rows

/-- The conditions that do not hold. -/
def violations (p : Problem) : List Condition :=
  p.conditions.filter fun c => ¬c.Holds p

/-- A problem that can be handed to a backend: it has variables, mentions no other ones, and each
row has a bound. -/
structure Translatable (p : Problem) : Prop where
  columns : 0 < p.columns.length
  objective : p.objective.Known p.columns.length
  bounded : ∀ r ∈ p.rows, r.bound.kind ≠ .unset
  rows : ∀ r ∈ p.rows, r.expression.Known p.columns.length

end Problem

namespace Condition

variable {p : Problem}

theorem forall_mem_ofRows (row : ℕ) (rows : List Row) :
    (∀ c ∈ ofRows row rows, c.Holds p) ↔
      ∀ r ∈ rows, r.bound.kind ≠ .unset ∧ r.expression.Known p.columns.length := by
  induction rows generalizing row with
  | nil =>
      exact ⟨fun _ _ hr => absurd hr List.not_mem_nil, fun _ _ hc => absurd hc List.not_mem_nil⟩
  | cons r rest ih =>
      have unfolded : ofRows row (r :: rest) =
          rowBounded row r :: rowKnown row r :: ofRows (row + 1) rest := rfl
      rw [unfolded, List.forall_mem_cons, List.forall_mem_cons, ih, List.forall_mem_cons, and_assoc]
      rfl

/-- One condition is reported by one complaint or none. -/
theorem reports_of_one {c : Condition} {defects : List Defect} (met : c.Holds p → defects = [])
    (violated : ¬c.Holds p → ∃ d, defects = [d] ∧ c.Reports p d) :
    List.Forall₂ (Reports p) ([c].filter fun c => ¬c.Holds p) defects := by
  by_cases holds : c.Holds p
  · rw [met holds, List.filter_cons_of_neg (by simpa using holds)]
    exact .nil
  · obtain ⟨d, rfl, reports⟩ := violated holds
    rw [List.filter_cons_of_pos (by simpa using holds)]
    exact .cons reports .nil

theorem reports_hasVariables :
    List.Forall₂ (Reports p) ([hasVariables].filter fun c => ¬c.Holds p)
      (if p.columns.length = 0 then [.noVariables] else []) := by
  refine reports_of_one (fun some => if_neg (Nat.ne_of_gt some)) fun none => ?_
  exact ⟨.noVariables, if_pos (Nat.eq_zero_of_not_pos none), rfl⟩

theorem reports_objectiveKnown :
    List.Forall₂ (Reports p) ([objectiveKnown].filter fun c => ¬c.Holds p)
      (match p.objective.unknownColumns p.columns.length with
      | [] => []
      | indices => [.objectiveColumns indices]) := by
  have unknown := p.objective.unknown_unknownColumns p.columns.length
  refine reports_of_one (fun known => ?_) fun not => ?_
  · rw [Expression.unknownColumns_eq_nil_iff.2 known]
  · split
    · next none => exact absurd (Expression.unknownColumns_eq_nil_iff.1 none) not
    · next indices => exact ⟨.objectiveColumns _, rfl, _, rfl, unknown⟩

theorem reports_row (row : ℕ) (r : Row) :
    List.Forall₂ (Reports p) ([rowBounded row r, rowKnown row r].filter fun c => ¬c.Holds p)
      (Problem.rowDefects p.columns.length row r) := by
  have unknown := r.expression.unknown_unknownColumns p.columns.length
  rw [← List.singleton_append, List.filter_append]
  refine List.rel_append (reports_of_one (fun bounded => ?_) fun unset => ?_)
    (reports_of_one (fun known => ?_) fun not => ?_)
  · exact if_pos (decide_eq_true bounded)
  · exact ⟨.rowWithoutBound row, if_neg fun isSet => unset (of_decide_eq_true isSet), rfl⟩
  · rw [Expression.unknownColumns_eq_nil_iff.2 known]
  · split
    · next none => exact absurd (Expression.unknownColumns_eq_nil_iff.1 none) not
    · next indices => exact ⟨.rowColumns row _, rfl, _, rfl, unknown⟩

theorem reports_ofRows (row : ℕ) (rows : List Row) :
    List.Forall₂ (Reports p) ((ofRows row rows).filter fun c => ¬c.Holds p)
      (Problem.defectsOfRows p.columns.length row rows) := by
  induction rows generalizing row with
  | nil => exact .nil
  | cons r rest ih =>
      have unfolded : ofRows row (r :: rest) =
          [rowBounded row r, rowKnown row r] ++ ofRows (row + 1) rest := rfl
      rw [unfolded, List.filter_append]
      exact List.rel_append (reports_row row r) (ih (row + 1))

end Condition

namespace Problem

theorem violations_eq_nil_iff {p : Problem} : p.violations = [] ↔ p.Translatable := by
  have all : p.violations = [] ↔ ∀ c ∈ p.conditions, c.Holds p := by
    simp only [violations, List.filter_eq_nil_iff, decide_eq_true_eq, not_not]
  rw [all, conditions, List.forall_mem_cons, List.forall_mem_cons, Condition.forall_mem_ofRows]
  constructor
  · rintro ⟨columns, objective, rows⟩
    exact ⟨columns, objective, fun r hr => (rows r hr).1, fun r hr => (rows r hr).2⟩
  · rintro ⟨columns, objective, bounded, known⟩
    exact ⟨columns, objective, fun r hr => ⟨bounded r hr, known r hr⟩⟩

/-- The check has one complaint for each condition that does not hold, in their order. -/
theorem reports_violations (p : Problem) :
    List.Forall₂ (Condition.Reports p) p.violations p.defects := by
  have split : p.conditions = ([.hasVariables] ++ [.objectiveKnown]) ++ Condition.ofRows 0 p.rows :=
    rfl
  rw [violations, split, List.filter_append, List.filter_append]
  refine List.rel_append (List.rel_append ?_ ?_) (Condition.reports_ofRows 0 p.rows)
  · exact Condition.reports_hasVariables
  · exact Condition.reports_objectiveKnown

/-- There is nothing to complain about exactly if the problem can be handed over. -/
theorem defects_eq_nil_iff {p : Problem} : p.defects = [] ↔ p.Translatable := by
  have reports := p.reports_violations
  rw [← violations_eq_nil_iff, ← List.length_eq_zero_iff, ← List.length_eq_zero_iff,
    reports.length_eq]

theorem exists_of_mem_defects {p : Problem} {d : Defect} (mem : d ∈ p.defects) :
    ∃ c ∈ p.conditions, ¬c.Holds p ∧ c.Reports p d := by
  have reports := p.reports_violations
  obtain ⟨place, inside, rfl⟩ := List.getElem_of_mem mem
  have there : place < p.violations.length := reports.length_eq ▸ inside
  obtain ⟨among, violated⟩ := List.mem_filter.1 (List.getElem_mem there)
  exact ⟨p.violations[place], among, of_decide_eq_true violated, reports.get there inside⟩

theorem mem_rows_of_mem_conditions {p : Problem} {c : Condition} (mem : c ∈ p.conditions) :
    c = .hasVariables ∨ c = .objectiveKnown ∨
      ∃ row, ∃ r ∈ p.rows, c = .rowBounded row r ∨ c = .rowKnown row r := by
  obtain rfl | mem := List.mem_cons.1 mem
  · exact .inl rfl
  obtain rfl | mem := List.mem_cons.1 mem
  · exact .inr (.inl rfl)
  obtain ⟨⟨r, row⟩, placed, mem⟩ := List.mem_flatMap.1 mem
  exact .inr (.inr ⟨row, r, List.fst_mem_of_mem_zipIdx placed, by simpa using mem⟩)

end Problem

/-! ## Reading the rows of a program -/

theorem straysAfter_eq_nil {rows : ℕ} {constraints : List (Given (Ref Constraint))}
    (h : ∀ row ∈ constraints, ∃ c, row = .proper c) : straysAfter rows constraints = [] := by
  induction constraints generalizing rows with
  | nil => rfl
  | cons row rest ih =>
      obtain ⟨c, rfl⟩ := h row List.mem_cons_self
      exact ih fun row mem => h row (List.mem_cons_of_mem _ mem)

theorem Program.strays_eq_nil {p : Program} (h : ∀ row ∈ p.constraints, ∃ c, row = .proper c) :
    p.strays = [] :=
  straysAfter_eq_nil h

theorem Store.exists_of_mem_rows {s : Store} {p : Ref Program} {r : Row}
    (mem : r ∈ (s.problem p).rows) :
    ∃ c, .proper c ∈ (s.programs.get p).constraints ∧ s.row c = r := by
  obtain ⟨c, listed, rfl⟩ := List.mem_map.1 mem
  obtain ⟨row, mem, proper⟩ := List.mem_filterMap.1 listed
  cases row with
  | proper c' =>
      cases proper
      exact ⟨c, mem, rfl⟩
  | other f => cases proper

/-- The check returns only where there is nothing but rows, and then all that it has found. -/
theorem Problem.of_inspect {p : Problem} {defects : List Defect} (h : p.inspect = .ok defects) :
    p.strays = [] ∧ p.defects = defects := by
  unfold inspect at h
  split at h
  · next none =>
      unfold Defect.reported at h
      split at h
      · exact ⟨none, Except.ok.inj h⟩
      · cases h
  · next before f rest _ =>
      cases reported : Defect.reported { p with rows := p.rows.take before }.defects with
      | error e =>
          rw [reported] at h
          cases h
      | ok earlier =>
          rw [reported] at h
          cases h

/-- Where nothing but constraints is in the row list, the check returns what it finds, if all of it
can be written. -/
theorem Model.defectMessages_of_rows {s : Store} {p : Ref Program}
    (h : ∀ row ∈ (s.programs.get p).constraints, ∃ c, row = .proper c) :
    defectMessages s (.proper p) =
      if (s.problem p).defects.all Defect.isWritable then
        .ok ((s.problem p).defects.map Defect.message)
      else
        .error .notWritable := by
  have strays : (s.problem p).strays = [] := Program.strays_eq_nil h
  have inspected : (s.problem p).inspect = Defect.reported (s.problem p).defects := by
    rw [Problem.inspect, strays]
  unfold defectMessages
  dsimp only
  rw [inspected, Defect.reported]
  split <;> rfl

end LinearDispatch
