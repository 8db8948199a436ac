import LinearDispatch.Proofs.Check
import LinearDispatch.Proofs.FirstFailure

/-!
# What a solver shows between its solves

A solver is asked again and again: for the status, for the values, for the objective value and for
the diagnostics of its last solve. This file proves that what it shows fits together in every state
that solves can bring it to, and that it is about the last solve alone.

A solve may end in many ways, some of them with a failure that reaches the caller, so the argument
goes through `Course` once, in `SolveCall.shown`, and says nothing about the state before. The
values of a usable solution are at least one because the check refuses a program without variables,
and as many as the variables because a solve counts them.

The calls of a history share nothing but the solver. Each has a catalog of its own, over adapters
of a type of its own, and finds the workspace as it is by then, so what happens to the models, the
registry and the native libraries between two solves is not restricted.
-/

namespace LinearDispatch

/-- A solve as a caller asks a solver for it: the backends that there are, what is asked, and the
workspace that it finds. -/
structure SolveCall where
  Backends : Type
  [adapter : Adapter Backends]
  catalog : Catalog Workspace Backends
  program : Given (Ref Program)
  backend : Value
  parameters : Option (Given Parameters)
  workspace : Workspace

namespace SolveCall

attribute [instance] SolveCall.adapter

def run (call : SolveCall) (solver : Solver) : Except Failure Bool × Solver × Workspace :=
  (Solver.solveFrom call.catalog call.program call.backend call.parameters).run
    (solver, call.workspace)

def answer (call : SolveCall) (solver : Solver) : Except Failure Bool :=
  (call.run solver).1

/-- The solver after the call, whether it returned or failed. -/
def leaves (call : SolveCall) (solver : Solver) : Solver :=
  (call.run solver).2.1

end SolveCall

/-- The solver after the calls of a history. -/
def Solver.afterCalls (solver : Solver) (calls : List SolveCall) : Solver :=
  calls.foldl (fun s call => call.leaves s) solver

/-- Status, objective value and values of a solution belong together. -/
structure Solution.Consistent (solution : Solution) : Prop where
  objective : solution.objective ≠ none ↔ solution.status.usable = true
  values : solution.values ≠ [] ↔ solution.status.usable = true
  success : solution.success = solution.status.usable

/-- What a solver shows after a call is about that call: as many values as the program has variables
at that moment, the answer that was given, and nothing of what was stored before. -/
structure SolveCall.Shown (call : SolveCall) (before : Solver) : Prop where
  columns : (call.leaves before).solution.status.usable = true →
    ∃ p, call.program = .proper p ∧ (call.leaves before).solution.values.length =
      (call.workspace.models.programs.get p).vars.length
  returned : ∀ success, call.answer before = .ok success →
    (success = true ↔ (call.leaves before).solution.status.usable = true) ∧
      ((call.leaves before).solution.status.usable = true ↔ (call.leaves before).diagnostics = [])
  /-- a failure leaves nothing, or the solution of this call, of which the status cannot be
  announced -/
  failed : ∀ e, call.answer before = .error e →
    ((call.leaves before).solution = .without .notSolved call.backend ∨
      (call.leaves before).solution.status.unannounced? = some e) ∧
      (call.leaves before).diagnostics = []
  /-- another solver with the same parameters, whatever it has stored, comes to the same -/
  fresh : ∀ other : Solver, other.parameters = before.parameters →
    call.answer other = call.answer before ∧ call.leaves other = call.leaves before

/-! ## One solve -/

/-- A status that is of no use comes without values and without an objective value. -/
theorem Solution.consistent_without {status : Status} (bad : status.usable = false)
    (backend : Value) : (Solution.without status backend).Consistent :=
  ⟨iff_of_false (fun h => h rfl) (Bool.eq_false_iff.1 bad),
    iff_of_false (fun h => h rfl) (Bool.eq_false_iff.1 bad), rfl⟩

section

variable {A : Type} [Adapter A] {catalog : Catalog Workspace A} {program : Given (Ref Program)}
  {backend : Value} {w : Workspace} {l : List Entry} {solution : Solution}
  {diagnostics : List Diagnostic}

/-- What a solve comes to is consistent, and there are diagnostics exactly if it is of no use. -/
theorem Decided.consistent (h : Decided catalog program backend w l solution diagnostics) :
    solution.Consistent ∧ (solution.status.usable = true ↔ diagnostics = []) := by
  have useless : ∀ {status : Status} {first : Diagnostic} {rest : List Diagnostic},
      status.usable = false → (Solution.without status backend).Consistent ∧
        ((Solution.without status backend).status.usable = true ↔ first :: rest = []) :=
    fun bad => ⟨Solution.consistent_without bad backend,
      iff_of_false (Bool.eq_false_iff.1 bad) (List.cons_ne_nil _ _)⟩
  cases h with
  | @invalid messages check found =>
      obtain ⟨first, rest, rfl⟩ := List.exists_cons_of_ne_nil found
      exact useless rfl
  | unknown sound absent => exact useless rfl
  | unavailable made caught => exact useless rfl
  | refused made whole lacks => exact useless rfl
  | unreachable accepted first caught => exact useless rfl
  | failed accepted first other => exact useless rfl
  | unusable accepted clean answered bad => exact useless bad
  | misfit accepted clean valued read bad => exact useless rfl
  | @solved problem adapter l status rawValues rawObjective values objective accepted clean
      answered usable valued read fits weighed readObjective =>
      have some : values.map Scalar.real ≠ [] := by
        intro none
        have columns := fits.symm.trans (congrArg List.length (List.map_eq_nil_iff.1 none))
        exact accepted.made.sound.columns_ne_nil (List.eq_nil_of_length_eq_zero columns)
      exact ⟨⟨iff_of_true nofun usable, iff_of_true some usable, rfl⟩, iff_of_true usable rfl⟩

/-- A usable solution has a value for each variable. -/
theorem Decided.length_values (h : Decided catalog program backend w l solution diagnostics)
    (usable : solution.status.usable = true) :
    ∃ p, program = .proper p ∧
      solution.values.length = (w.models.programs.get p).vars.length := by
  cases h with
  | unusable accepted clean answered bad => cases bad.symm.trans usable
  | invalid | unknown | unavailable | refused | unreachable | failed | misfit => cases usable
  | solved accepted clean answered usable valued read fits =>
      obtain ⟨p, hp, columns⟩ := accepted.made.sound.length_columns
      refine ⟨p, hp, ?_⟩
      rw [List.length_map, fits, columns]

end

namespace SolveCall

/-- A call and the solver that it leaves depend on the solver before through its parameters only. -/
theorem run_congr (call : SolveCall) {solver other : Solver}
    (h : other.parameters = solver.parameters) :
    call.answer other = call.answer solver ∧ call.leaves other = call.leaves solver := by
  have kept := fun s : Solver => Solver.keep_run call.backend call.parameters
    (Dispatch.solve call.catalog call.program call.backend) (s, call.workspace)
  unfold answer leaves run Solver.solveFrom
  rw [kept, kept]
  dsimp only
  rw [h]
  refine ⟨rfl, ?_⟩
  unfold Solver.after
  cases ((Dispatch.solve call.catalog call.program call.backend
      (solver.parameters.replacedBy call.parameters)).run call.workspace).1 <;> simp only [h]

/-- One solve brings any solver to a consistent state, and one that is about this solve. -/
theorem shown (call : SolveCall) (before : Solver) :
    (call.leaves before).solution.Consistent ∧ call.Shown before := by
  obtain ⟨r, course, answer, left⟩ := Solver.solve_course call.catalog call.program call.backend
    call.parameters (before, call.workspace)
  have answered : call.answer before = r.bind Outcome.answer := answer
  have leaves : call.leaves before = before.after call.backend r := left
  cases r with
  | error e =>
      have idle : (call.leaves before).solution = .without .notSolved call.backend :=
        congrArg Solver.solution leaves
      have told : (call.leaves before).diagnostics = [] := congrArg Solver.diagnostics leaves
      refine ⟨?_, fun usable => ?_, fun success h => ?_, fun _ _ => ⟨.inl idle, told⟩,
        fun other h => call.run_congr h⟩
      · rw [idle]
        exact Solution.consistent_without rfl call.backend
      · rw [idle] at usable
        cases usable
      · cases answered.symm.trans h
  | ok outcome =>
      have solution : (call.leaves before).solution = outcome.solution :=
        congrArg Solver.solution leaves
      have told : (call.leaves before).diagnostics = outcome.diagnostics :=
        congrArg Solver.diagnostics leaves
      have decided := course.decided
      obtain ⟨consistent, diagnostics⟩ := decided.consistent
      refine ⟨?_, fun usable => ?_, fun success h => ?_, fun e h => ?_,
        fun other h => call.run_congr h⟩
      · rw [solution]
        exact consistent
      · rw [solution] at usable ⊢
        exact decided.length_values usable
      · rw [Outcome.success_of_answer (answered.symm.trans h), solution, told]
        exact ⟨Iff.rfl, diagnostics⟩
      · obtain ⟨usable, unannounced⟩ := Outcome.usable_of_answer (answered.symm.trans h)
        rw [solution, told]
        exact ⟨.inr unannounced, diagnostics.1 usable⟩

end SolveCall

/-! ## Any history -/

namespace Solver

theorem afterCalls_concat (solver : Solver) (calls : List SolveCall) (last : SolveCall) :
    solver.afterCalls (calls ++ [last]) = last.leaves (solver.afterCalls calls) :=
  List.foldl_append

/-- Calls keep the consistency of a solver. -/
theorem consistent_afterCalls {solver : Solver} (start : solver.solution.Consistent)
    (calls : List SolveCall) : (solver.afterCalls calls).solution.Consistent := by
  induction calls generalizing solver with
  | nil => exact start
  | cons call rest ih => exact ih (call.shown solver).1

/-- After any calls a solver shows a consistent solution, and after one more call it shows what is
about that call. -/
theorem history_consistent (parameters : Option (Given Parameters)) (calls : List SolveCall) :
    ((new parameters).afterCalls calls).solution.Consistent ∧
      ∀ last : SolveCall,
        (new parameters).afterCalls (calls ++ [last]) =
            last.leaves ((new parameters).afterCalls calls) ∧
          last.Shown ((new parameters).afterCalls calls) := by
  refine ⟨consistent_afterCalls (Solution.consistent_without rfl _) calls, fun last => ?_⟩
  exact ⟨afterCalls_concat _ _ _, (last.shown _).2⟩

end Solver

end LinearDispatch
