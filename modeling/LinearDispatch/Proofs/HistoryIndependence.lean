import LinearDispatch.Proofs.EnvironmentSource
import LinearDispatch.Proofs.SolveInStep

/-!
# A solve does not depend on the ones before

A solver that has solved before carries an old solution and old diagnostics, and around it a journal
has filled up and native calls were counted. None of this decides anything: two solvers with the
same parameters, whatever they were used for, do the same from the same models, registry,
environments and native libraries, call for call, and come to the same. A solver of its own, made
for one solve, comes to it too. And no solve changes a model object.

Solvers with the same parameters differ in what they store, and that is gone at the first step of a
solve. The rest is about workspaces, and there the two runs go in step.
-/

namespace LinearDispatch

open LinearDispatch.Action Workspace

namespace Workspace

/-- Two workspaces in which the same calls to come will fail do not part. -/
theorem Alike.not_parted {first first' w : Workspace} (alike : first.Alike first') :
    ¬Parted first first' w := by
  rintro ⟨more, -, k, c, -, differ⟩
  exact differ (congrFun (alike.faults k) c)

theorem Abreast.alike {first first' w w' : Workspace} (h : Abreast first first' w w')
    (alike : first.Alike first') : w.Alike w' := by
  obtain ⟨more, grown, grown'⟩ := h.written
  refine ⟨h.same, fun n => ?_⟩
  rw [grown.faults, grown'.faults, grown.counted, grown'.counted, Nat.add_assoc, Nat.add_assoc]
  exact alike.faults _

end Workspace

namespace Solver

theorem ledger_eq {A : Type} [Adapter A] (catalog : Catalog Workspace A)
    (program : Given (Ref Program)) (backend : Value) (parameters : Option (Given Parameters))
    (s : Solver × Workspace) :
    ledger catalog program backend parameters s =
      ((Dispatch.solveWatched catalog program backend (s.1.parameters.replacedBy parameters)).run
        ([], s.2)).2.1 := by
  unfold ledger solveWatched
  rw [keep_run]

theorem parameters_afterCalls (solver : Solver) (calls : List SolveCall) :
    (solver.afterCalls calls).parameters = solver.parameters := by
  induction calls generalizing solver with
  | nil => rfl
  | cons call rest ih =>
      refine (ih (call.leaves solver)).trans ?_
      rw [SolveCall.leaves, SolveCall.run, solveFrom, keep_run]
      unfold after
      split <;> rfl

/-- Two solvers with the same parameters, whatever solves each of them has made before, do the same
from the same models, registry, environments, native libraries and failures to come: the same calls
on the adapter, the same events in the journal, the same answer, solution and diagnostics. A solver
that is made for this one solve does so too and answers that solution. The models are afterwards
what they were, and what is left of environments and libraries is the same again. -/
theorem history_independent {solver solver' : Solver}
    (same : solver'.parameters = solver.parameters) (calls calls' : List SolveCall)
    (program : Given (Ref Program)) (backend : Value) (parameters : Option (Given Parameters))
    {w w' : Workspace} (models : w.models = w'.models) (registry : w.registry = w'.registry)
    (alike : w.Alike w') :
    let s := (solver.afterCalls calls, w)
    let s' := (solver'.afterCalls calls', w')
    let t := (solve program backend parameters).run s
    let t' := (solve program backend parameters).run s'
    let apart := (once program backend (some (solver.parameters.replacedBy parameters))).run w'
    ledger Registry.catalog program backend parameters s' =
        ledger Registry.catalog program backend parameters s ∧
      w'.written t'.2.2 = w.written t.2.2 ∧
      t'.1 = t.1 ∧
      t'.2.1.solution = t.2.1.solution ∧
      t'.2.1.diagnostics = t.2.1.diagnostics ∧
      apart.1 = t.1.map (fun _ => t.2.1.solution) ∧
      apart.2 = t'.2.2 ∧
      t.2.2.models = w.models ∧ t'.2.2.models = w'.models ∧
      t.2.2.Alike t'.2.2 := by
  intro s s' t t' apart
  have own : s.1.parameters = solver.parameters := parameters_afterCalls solver calls
  have own' : s'.1.parameters = solver.parameters :=
    (parameters_afterCalls solver' calls').trans same
  obtain ⟨outcome, left, made⟩ := (Dispatch.solve_inStep models registry alike.toMatches program
    backend (solver.parameters.replacedBy parameters)).resolve_left alike.not_parted
  have kept : t = _ :=
    keep_run backend parameters (Dispatch.solve Registry.catalog program backend) s
  have kept' : t' = _ :=
    keep_run backend parameters (Dispatch.solve Registry.catalog program backend) s'
  have lone : apart = _ := once_run Registry.catalog program backend
    (some (solver.parameters.replacedBy parameters)) w'
  rw [Supplied.replacedBy_argument] at lone
  rw [ledger_eq, ledger_eq, kept, kept', lone, own, own']
  dsimp only
  rw [← outcome]
  obtain ⟨more, grown, grown'⟩ := left.written
  have wrote := (written_of_append grown'.journal).trans (written_of_append grown.journal).symm
  refine ⟨made.symm, wrote, rfl, ?_, ?_, ?_, rfl, left.models.1, left.models.2,
    left.alike alike⟩
  -- What a solver keeps of an outcome, or of a failure, is what any solver keeps of it.
  all_goals
    cases ((Dispatch.solve Registry.catalog program backend
      (solver.parameters.replacedBy parameters)).run w).1 with
    | error e => rfl
    | ok outcome => rfl

/-- A new solver, and one that has asked for a backend that nobody has registered, in a process
where something was logged and some native calls were made. -/
theorem history_independent_sample :
    let w := Sample.registered .highs
    let w' := { w with journal := [.log .model .warning "dropped"], nativeCalls := 3 }
    let before : SolveCall :=
      { Backends := Backend, catalog := Registry.catalog, program := Sample.program,
        backend := .text "nobody", parameters := none, workspace := w }
    let t := (solve Sample.program Sample.backend none).run (new none, w)
    let t' := (solve Sample.program Sample.backend none).run ((new none).afterCalls [before], w')
    w.Alike w' ∧ w'.written t'.2.2 = w.written t.2.2 ∧ t'.1 = t.1 ∧
      t'.2.1.solution = t.2.1.solution ∧ t.2.2.models = w.models := by
  intro w w' before t t'
  have alike : w.Alike w' := ⟨⟨rfl, rfl, rfl, rfl⟩, fun _ => rfl⟩
  obtain ⟨-, written, answer, solution, -, -, -, models, -⟩ := history_independent
    (show (new none).parameters = (new none).parameters from rfl) [] [before] Sample.program
    Sample.backend none (show w.models = w'.models from rfl) rfl alike
  exact ⟨alike, written, answer, solution, models⟩

end Solver

end LinearDispatch
