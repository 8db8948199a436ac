import LinearDispatch.Registry

/-!
# Dispatch

Solving means handing a problem to one backend and bringing back a uniform solution. Modelling
mistakes and failing backends end as a status with diagnostics; the first stage that goes wrong
decides, and a backend that was started is closed on every path.
-/

namespace LinearDispatch

open Workspace

structure Solution where
  status : Status
  objective : Option Scalar
  values : List Scalar
  backend : Value

def Solution.without (status : Status) (backend : Value) : Solution :=
  ⟨status, none, [], backend⟩

def Solution.success (s : Solution) : Bool :=
  s.status.usable

/-- The outcome of one solve: the solution, and what is worth telling. -/
structure Outcome where
  solution : Solution
  diagnostics : List Diagnostic

/-- What a caller is answered once the outcome is kept: whether it can be used, unless its status
cannot be announced. -/
def Outcome.answer (o : Outcome) : Except Failure Bool :=
  match o.solution.status.unannounced? with
  | some e => .error e
  | none => .ok o.solution.success

theorem Outcome.answer_of_announced {o : Outcome} (h : o.solution.status.unannounced? = none) :
    o.answer = .ok o.solution.success := by
  rw [answer, h]

/-- Only a status that can be used is announced, so nothing else keeps the caller from an answer. -/
theorem Outcome.usable_of_answer {o : Outcome} {e : Failure} (h : o.answer = .error e) :
    o.solution.status.usable = true ∧ o.solution.status.unannounced? = some e := by
  unfold answer at h
  split at h
  · next failure unannounced =>
    cases h
    refine ⟨?_, unannounced⟩
    unfold Status.unannounced? at unannounced
    split at unannounced
    · assumption
    · cases unannounced
  · cases h

theorem Outcome.success_of_answer {o : Outcome} {success : Bool} (h : o.answer = .ok success) :
    success = o.solution.success := by
  unfold answer at h
  split at h
  · cases h
  · exact (Except.ok.inj h).symm

namespace Dispatch

/-- Ends a solve without a usable solution. -/
def giveUp (status : Status) (backend : Value) (diagnostics : List Diagnostic) :
    Action Workspace Outcome := do
  logShowing [backend, status.called] .solver .warning
    ("Solve with '" ++ backend.shown ++ "' failed: " ++ status.label)
  pure ⟨.without status backend, diagnostics⟩

theorem run_giveUp (status : Status) (backend : Value) (diagnostics : List Diagnostic)
    (w : Workspace) :
    ((giveUp status backend diagnostics).run w).1 =
      .ok ⟨.without status backend, diagnostics⟩ := by
  unfold giveUp
  rw [Action.run_bind_of_ok (run_logShowing _ _ _ _ w)]
  rfl

/-- Hands over the parts one by one; the first failure ends it. -/
def handOver {A : Type} [Adapter A] : List Part → Action (A × Workspace) Unit
  | [] => pure ()
  | part :: rest => do
    Adapter.give part
    handOver rest

def readValues (v : Value) : Except Failure (List Float) := do
  let items ← v.items
  items.mapM Value.toFloat

/-- What a backend without a value for each column is told. -/
def wrongLength (values columns : Nat) : Diagnostic :=
  ⟨.solverOutcome, .text ("backend returned " ++ toString values ++ " values for "
    ++ toString columns ++ " variables")⟩

/-- Drives a backend through one solve up to the read-back. -/
def run {A : Type} [Adapter A] (problem : Problem) (parameters : Given Parameters)
    (backend : Value) : Action (A × Workspace) Outcome := do
  Adapter.start parameters
  let version ← Adapter.version
  logShowing [version] .solver .info ("Starting optimization with " ++ version.shown ++ "...")
  handOver problem.parts
  let answer ← Adapter.solve
  let status ← Action.ofExcept (answer.require "usable")
  if !status.usable then
    return ⟨.without status backend, []⟩
  let raw ← Adapter.values
  let values ← Action.ofExcept (readValues raw)
  if values.length ≠ problem.columns.length then
    return ⟨.without .numericalFailure backend,
      [wrongLength values.length problem.columns.length]⟩
  let raw ← Adapter.objectiveValue
  let objective ← Action.ofExcept raw.toFloat
  return ⟨⟨status, some (.real objective), values.map .real, backend⟩, []⟩

/-- Closes a backend; a failure to do so is logged and goes no further. -/
def closeQuietly {A : Type} [Adapter A] (backend : Value) : Action (A × Workspace) Unit := do
  match ← Action.attempt (Adapter.close (A := A)) with
  | .ok () => pure ()
  | .error _ =>
    logShowing [backend] .solver .error
      ("Backend '" ++ backend.shown ++ "' failed to release resources")

def giveUpAfter (e : Failure) (backend : Value) : Action Workspace Outcome := do
  if e.isUnavailable then
    giveUp .backendUnavailable backend [⟨.backendUnavailable, e.message⟩]
  else
    logShowing [backend] .solver .error ("Backend '" ++ backend.shown ++ "' raised during solve")
    giveUp .numericalFailure backend
      [⟨.solverOutcome, .text ("backend '" ++ backend.shown ++ "' raised " ++ e.report)⟩]

/-- Announces an outcome that can be used, and explains one that cannot. A status that cannot be
announced stands for all that; who keeps the outcome fails on it later. -/
def conclude (outcome : Outcome) (backend : Value) : Action Workspace Outcome := do
  let status := outcome.solution.status
  if status.usable then
    let objective := match outcome.solution.objective with
      | some x => x.text
      | none => "None"
    match status.word with
    | .ok word =>
      logShowing [backend] .solver .info (word ++ " solution found with '" ++ backend.shown
        ++ "'. Objective: " ++ objective)
    | .error _ => pure ()
    pure outcome
  else
    Action.check status.unexplained?
    giveUp status backend (outcome.diagnostics ++ [⟨.solverOutcome, status.explanation⟩])

/-- What can be used is concluded with as it is, whether it can be announced or not. -/
theorem conclude_of_usable {outcome : Outcome} (backend : Value)
    (usable : outcome.solution.status.usable = true) (w : Workspace) :
    ((conclude outcome backend).run w).1 = .ok outcome := by
  unfold conclude
  dsimp only
  rw [if_pos usable]
  cases outcome.solution.status.word with
  | error e => rfl
  | ok word =>
    dsimp only
    rw [Action.run_bind_of_ok (run_logShowing _ _ _ _ _)]
    rfl

/-- Drives a backend through one solve and closes it. A failure is reported before the backend is
closed, an answer after that. -/
def attempt {A : Type} [Adapter A] (problem : Problem) (parameters : Given Parameters)
    (backend : Value) : Action (A × Workspace) Outcome := do
  match ← Action.attempt (run (A := A) problem parameters backend) with
  | .error e =>
    let outcome ← giveUpAfter e backend
    closeQuietly backend
    pure outcome
  | .ok outcome =>
    closeQuietly backend
    conclude outcome backend

/-- What an adapter without columns of whole values says about a problem that has some. -/
def refusal (problem : Problem) (backend : Value) : Diagnostic :=
  ⟨.invalidProblem, .text ("backend '" ++ backend.shown
    ++ "' cannot solve programs with integer variables (" ++ problem.category.label
    ++ " program given)")⟩

/-- Whether an adapter is refused: it is asked for columns of whole values only if the problem has
some. -/
def refuses {A : Type} [Adapter A] (problem : Problem) (adapter : A) : Except Failure Bool :=
  if problem.hasInteger then (Adapter.supportsInteger adapter).map (!·) else .ok false

section Stages

variable {σ A : Type} [Adapter A] [MonadLiftT (Action Workspace) (Action σ)]

/-- The stages before an adapter is driven: the solve ends in one of them, or there is an adapter
that takes the problem. A problem with defects makes none. -/
def prepare (create : Action σ A) (problem : Problem) (backend : Value) :
    Action σ (Outcome ⊕ A) := do
  match ← Action.ofExcept problem.inspect with
  | [] =>
    match ← Action.attempt create with
    | .error e =>
      if e.isUnavailable then
        let outcome ← giveUpAfter e backend
        return .inl outcome
      else
        Action.fail e
    | .ok adapter =>
      if ← Action.ofExcept (refuses problem adapter) then
        let outcome ← giveUp .invalidProblem backend [refusal problem backend]
        return .inl outcome
      else
        return .inr adapter
  | defects =>
    let outcome ← giveUp .invalidProblem backend
      (defects.map fun d => ⟨.invalidProblem, d.message⟩)
    return .inl outcome

/-- Solves a problem: what `create` makes is driven by `drive`, unless the solve ends before. -/
def solveWith (create : Action σ A) (drive : A → Action σ Outcome) (problem : Problem)
    (backend : Value) : Action σ Outcome := do
  match ← prepare create problem backend with
  | .inl outcome => pure outcome
  | .inr adapter => drive adapter

/-- Solves a program as it stands. What is no program at all has that as its only defect. -/
def solveVia (create : Action σ A) (drive : Problem → A → Action σ Outcome)
    (program : Given (Ref Program)) (backend : Value) : Action σ Outcome := do
  match program with
  | .other f =>
    giveUp .invalidProblem backend [⟨.invalidProblem, (Defect.notAProblem f.typeText).message⟩]
  | .proper p =>
    let problem ← (Action.gets fun w => w.models.problem p : Action Workspace Problem)
    solveWith create (drive problem) problem backend

end Stages

/-- Solves a program with the backend that a catalog has under a name. -/
def solve {A : Type} [Adapter A] (catalog : Catalog Workspace A) (program : Given (Ref Program))
    (backend : Value) (parameters : Given Parameters) : Action Workspace Outcome :=
  solveVia (catalog.create backend)
    (fun problem adapter => Action.withFirst adapter (attempt problem parameters backend))
    program backend

end Dispatch

end LinearDispatch
