import LinearDispatch.Proofs.Course
import LinearDispatch.Proofs.Defects

/-!
# What the check makes sure of

A program that passes the check has variables, has nothing but rows among its rows, and mentions no
variable that it does not have, neither in a row nor in the objective. An adapter relies on that:
it looks native columns up by their indices and never finds one missing. What is proved here says
so for `Sound`, the hypothesis under which a solve comes to make an adapter at all.
-/

namespace LinearDispatch

namespace Sound

variable {models : Store} {program : Given (Ref Program)} {p : Ref Program} {problem : Problem}

theorem inspect (h : Sound models program problem) : problem.inspect = .ok [] := by
  obtain ⟨p, rfl, rfl⟩ := h.reads
  have check := h.check
  rw [Dispatch.defectMessages_proper] at check
  cases found : (models.problem p).inspect with
  | error e =>
      rw [found] at check
      cases check
  | ok defects =>
      rw [found] at check
      rw [List.map_eq_nil_iff.1 (Except.ok.inj check)]

/-- What the check finds nothing wrong with has rows only, and no defects. -/
theorem clear (h : Sound models (.proper p) problem) :
    models.problem p = problem ∧ problem.strays = [] ∧ problem.defects = [] := by
  have check := h.inspect
  obtain ⟨_, ⟨⟩, rfl⟩ := h.reads
  exact ⟨rfl, Problem.of_inspect check⟩

theorem defects (h : Sound models program problem) : problem.defects = [] := by
  obtain ⟨p, rfl, -⟩ := h.reads
  exact h.clear.2.2

theorem translatable (h : Sound models program problem) : problem.Translatable :=
  Problem.defects_eq_nil_iff.1 h.defects

/-- A program that passes the check has variables. -/
theorem columns_ne_nil (h : Sound models program problem) : problem.columns ≠ [] :=
  List.ne_nil_of_length_pos h.translatable.columns

/-- The problem of a sound program has a column for each variable. -/
theorem length_columns (h : Sound models program problem) :
    ∃ p, program = .proper p ∧
      problem.columns.length = (models.programs.get p).vars.length := by
  obtain ⟨p, rfl, rfl⟩ := h.reads
  exact ⟨p, rfl, List.length_map _⟩

theorem lt_of_mem_objective (h : Sound models program problem) :
    ∀ t ∈ problem.objective.coefficients.entries, t.1 < problem.columns.length :=
  h.translatable.objective.lt

theorem lt_of_mem_row (h : Sound models program problem) {r : Row} (hr : r ∈ problem.rows) :
    ∀ t ∈ r.expression.coefficients.entries, t.1 < problem.columns.length :=
  (h.translatable.rows r hr).lt

end Sound

end LinearDispatch
