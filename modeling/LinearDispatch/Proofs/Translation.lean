import LinearDispatch.Proofs.GurobiAssembly
import LinearDispatch.Proofs.HighsModel
import LinearDispatch.Proofs.OrToolsAssembly
import LinearDispatch.Proofs.StoreGrowth

/-!
# The check finds what a translation needs

A backend looks native columns up by the indices of a row or of the objective, each in its own way:
in a list that would take negative numbers as well, or as places of a vector and of a matrix. None
of these can go wrong for a problem that passes the check, and the check lets a problem pass exactly
if it has variables, mentions no others and has a bound in each row. That is so at every moment in
the life of the store, however rows and objective were changed after they were added: an index in an
expression is a natural number, whatever was given as one. It may be one of too many digits, and
then a complaint that names it cannot be written and the check has no answer.

`Adapter.Takes` says that a started adapter takes all parts. What it was started for before makes no
difference.
-/

namespace LinearDispatch

open LinearDispatch.Action Workspace

/-- Each index of the part is the number of one of `columns` columns. -/
def Part.Inside (columns : ℕ) (part : Part) : Prop :=
  ∃ m, part.coefficients = .mapping m ∧
    ∀ e ∈ m.entries, ∃ j : ℕ, j < columns ∧ e.1 = .scalar (.int j)

namespace Problem.Translatable

variable {problem : Problem}

theorem inside_handedOver {e : Expression} {columns : ℕ} (known : e.Known columns) :
    ∃ m, e.handedOver = .mapping m ∧
      ∀ e ∈ m.entries, ∃ j : ℕ, j < columns ∧ e.1 = .scalar (.int j) := by
  refine ⟨_, rfl, fun entry mem => ?_⟩
  obtain ⟨t, ht, rfl⟩ := List.mem_map.1 mem
  exact ⟨t.1, known.lt t ht, rfl⟩

/-- No part of such a problem has an index that is out of range. -/
theorem inside (h : problem.Translatable) :
    ∀ part ∈ problem.parts, part.Inside problem.columns.length := by
  intro part mem
  obtain mem | mem := List.mem_append.1 mem
  · obtain mem | mem := List.mem_append.1 mem
    · obtain ⟨i, hi, rfl⟩ := List.mem_mapIdx.1 mem
      exact ⟨.empty, rfl, fun _ none => absurd none List.not_mem_nil⟩
    · obtain ⟨i, hi, rfl⟩ := List.mem_mapIdx.1 mem
      exact inside_handedOver (h.rows _ (List.getElem_mem hi))
  · cases List.mem_singleton.1 mem
    exact inside_handedOver h.objective

end Problem.Translatable

/-! ## Adapters -/

/-- An adapter that was started in a workspace that is `Ready`, whatever it had been used for
before, takes the parts of a problem one after the other, and it is `Done` then. -/
def Adapter.Takes (A : Type) [Adapter A] (Ready : Workspace → Prop) (problem : Problem)
    (Done : A → Prop) : Prop :=
  ∀ {a : A} {parameters : Given Parameters} {w w' : Workspace} {s : A × Workspace}, Ready w →
    (Adapter.start parameters).run (a, w) = (.ok (), s) → s.2.Noted w' →
    ∃ s', (Dispatch.handOver problem.parts).run (s.1, w') = (.ok (), s') ∧ Done s'.1

/-- Whichever of the native solvers it is for, the problem is translated, if native calls do not
fail, the infinity of OR-Tools is a number and the module of Gurobi has its constants. For HiGHS
that includes the model that an array library makes of the parts, if it keeps numbers; the columns
are counted by a machine word. -/
structure Problem.Translated (problem : Problem) : Prop where
  orTools : Adapter.Takes OrToolsAdapter
    (fun w => Quiet .orTools w ∧ ∃ infinity, w.orTools.infinity = .scalar infinity) problem
    fun a => a.columns = List.range problem.columns.length
  highs : problem.columns.length ≤ 2 ^ 63 → ∀ {arrays : ArrayLibrary}, arrays.Keeps →
    Adapter.Takes HighsAdapter (fun _ => True) problem fun a => ∃ m, a.buildModel arrays = .ok m
  gurobi : Adapter.Takes GurobiAdapter
    (fun w => Quiet .gurobi w ∧ GurobiAdapter.describesModels w.gurobi.library.missing = true)
    problem fun a => a.columns = List.range problem.columns.length

theorem Sound.translated {models : Store} {p : Ref Program} {problem : Problem}
    (sound : Sound models (.proper p) problem) : problem.Translated where
  orTools := by
    rintro a parameters w w' s ⟨quiet, infinity, reads⟩ started later
    have serving := OrToolsAdapter.Serving.of_start quiet reads started later
    obtain ⟨s', ran, taking⟩ := Dispatch.handOver_parts
      (OrToolsAdapter.takes sound infinity s.1.solverId w') (s := (s.1, w'))
      ⟨serving, rfl, rfl, .of_calls_eq rfl⟩
    exact ⟨s', ran, taking.places⟩
  highs := by
    intro fits arrays keeps a parameters w w' s _ started later
    obtain ⟨s', ran, -, ⟨m, built, -⟩, -⟩ := Dispatch.handOver_parts
      (HighsAdapter.assembles_of sound keeps fits fun _ => True) (s := (s.1, w'))
      ⟨(HighsAdapter.start_spec started).1, trivial⟩
    exact ⟨s', ran, m, built⟩
  gurobi := by
    rintro a parameters w w' s ⟨quiet, describes⟩ started later
    have fresh := (GurobiAdapter.start_spec a parameters quiet).2 s started
    obtain ⟨s', ran, taking⟩ := Dispatch.handOver_parts
      (GurobiAdapter.takes sound w.gurobi w') (s := (s.1, w'))
      ⟨.of_fresh describes fresh later, .of_calls_eq rfl⟩
    exact ⟨s', ran, taking.places⟩

/-! ## Rows -/

namespace Model

/-- What is put among the rows is a constraint, also where it is put past the check. -/
def Operation.Proper : Operation → Prop
  | appendRow _ row => ∃ c, row = .proper c
  | _ => True

instance : DecidablePred Operation.Proper
  | .appendRow _ (.proper c) => isTrue ⟨c, rfl⟩
  | .appendRow _ (.other _) => isFalse nofun
  | .newBound | .shapeBound .. | .newExpression _ | .addTerm .. | .addTerms .. | .newVariable ..
    | .newConstraint .. | .newProgram _ | .appendVariables .. | .appendConstraints ..
    | .replaceObjective .. => isTrue trivial

namespace Leads

variable {operations : List Operation} {models : Store}

theorem exists_of_mem_rows (built : Leads (fun _ operation => operation.Proper) .empty operations
    models) {p : Ref Program} {row : Given (Ref Constraint)}
    (mem : row ∈ (models.programs.get p).constraints) : ∃ c, row = .proper c := by
  obtain mem | ⟨s, operation, u, proper, -, -, admitted⟩ := built.mem_rows mem
  · exact absurd mem List.not_mem_nil
  · cases operation with
    | appendConstraints p cs =>
        obtain ⟨-, c, rfl, -⟩ := admitted
        exact ⟨c, rfl⟩
    | appendRow p row' =>
        obtain rfl := admitted
        exact proper
    | _ => exact admitted.elim

end Leads

end Model

end LinearDispatch
