import LinearDispatch.Dispatch.Outcome

/-!
# Solvers

A solver keeps parameters and the outcome of its last solve. Nothing of an earlier solve survives
the next one, whether that one succeeds, fails or lets a failure through.
-/

namespace LinearDispatch

/-- A solver keeps its parameters and the outcome of its last solve. -/
structure Solver where
  parameters : Supplied Parameters
  solution : Solution
  diagnostics : List Diagnostic

namespace Solver

/-- A solver that has solved nothing yet. Parameters that do not count as given are the default
ones. -/
def new (parameters : Option (Given Parameters)) : Solver :=
  ⟨(Supplied.proper .default).replacedBy parameters, .without .notSolved (.text ""), []⟩

/-- The backend that is asked when a caller names none. -/
def defaultBackend : Value := .text "scip"

/-- Keeps the outcome of a solve that is given the call's parameters or, if there are none, the
solver's own, and answers whether it can be used. The outcome of the solve before is gone in any
case. An outcome is kept before it is announced, so it is there also if that fails. -/
def keep {τ : Type} (backend : Value) (parameters : Option (Given Parameters))
    (dispatch : Given Parameters → Action τ Outcome) : Action (Solver × τ) Bool := do
  Action.modify fun s =>
    ({ s.1 with solution := .without .notSolved backend, diagnostics := [] }, s.2)
  let own ← Action.gets fun s => s.1.parameters
  let outcome ← dispatch (own.replacedBy parameters)
  Action.modify fun s =>
    ({ s.1 with solution := outcome.solution, diagnostics := outcome.diagnostics }, s.2)
  Action.ofExcept outcome.answer

/-- Solves a program with the backend that a catalog has under a name. -/
def solveFrom {A : Type} [Adapter A] (catalog : Catalog Workspace A)
    (program : Given (Ref Program)) (backend : Value) (parameters : Option (Given Parameters)) :
    Action (Solver × Workspace) Bool :=
  keep backend parameters (Dispatch.solve catalog program backend)

/-- Solves once with a solver of its own and answers the solution. -/
def onceFrom {A : Type} [Adapter A] (catalog : Catalog Workspace A)
    (program : Given (Ref Program)) (backend : Value) (parameters : Option (Given Parameters)) :
    Action Workspace Solution :=
  Action.withFirst (new parameters) do
    let _ ← solveFrom catalog program backend none
    Action.gets fun s => s.1.solution

def solve (program : Given (Ref Program)) (backend : Value)
    (parameters : Option (Given Parameters)) : Action (Solver × Workspace) Bool :=
  solveFrom Registry.catalog program backend parameters

def once (program : Given (Ref Program)) (backend : Value)
    (parameters : Option (Given Parameters)) : Action Workspace Solution :=
  onceFrom Registry.catalog program backend parameters

end Solver

end LinearDispatch
