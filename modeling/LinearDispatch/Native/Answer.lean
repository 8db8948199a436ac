import LinearDispatch.Workspace

/-!
# What the native libraries answer

Each native call puts itself into the journal, may fail there, and otherwise takes its answer
from what the service has in store. A call that fails takes no answer.
-/

namespace LinearDispatch

open Workspace

/-- A status is looked up in a table, so it has to be a key. -/
def requireKey {σ : Type} (status : Value) : Action σ Unit :=
  Action.check (if status.key?.isSome then none else some (.notHashable status.typeName))

namespace OrToolsService

/-- Whether a solver with this id exists in this build. -/
def createSolver (solverId : String) : Action Workspace Bool := do
  call (.orTools (.createSolver solverId))
  Action.gets fun w => w.orTools.known.contains solverId

/-- Asks for a number of threads; answers whether the solver takes it. -/
def setThreads (threads : Scalar) : Action Workspace Bool := do
  call (.orTools (.setThreads threads))
  Action.gets (·.orTools.acceptsThreads)

/-- Hands over a parameter text; answers whether the solver takes it. -/
def setParameterText (text : String) : Action Workspace Bool := do
  call (.orTools (.setParameterText text))
  let answers ← Action.gets (·.orTools.parameterAnswers)
  Action.modify fun w => { w with orTools := { w.orTools with parameterAnswers := answers.tail } }
  pure (answers.headD true)

/-- Solves; answers the status and what is left to be read. -/
def solve : Action Workspace (Value × Option Reading) := do
  call (.orTools .solve)
  let service ← Action.gets (·.orTools)
  Action.modify fun w => { w with orTools := { w.orTools with
    statuses := service.statuses.tail
    readings := service.readings.tail } }
  pure (service.statuses.headD (Value.ofInt 0), service.readings.head?)

end OrToolsService

namespace HighsService

/-- The answer when none is in store: optimal, every column 0. -/
def defaultAnswer : HighsAnswer :=
  ⟨Value.ofInt 0, none, .text "", Value.ofInt 0⟩

def milp (model : HighsModel) : Action Workspace HighsAnswer := do
  call (.highs model)
  let answers ← Action.gets (·.highs.answers)
  Action.modify fun w => { w with highs := { w.highs with answers := answers.tail } }
  let answer := answers.headD defaultAnswer
  let zeros := Value.list (model.lower.map fun _ => Value.ofFloat 0.0)
  pure { answer with values := some (answer.values.getD zeros) }

end HighsService

namespace GurobiService

def locate : Action Workspace GurobiModule := do
  let g ← Action.gets (·.gurobi)
  Action.check (if g.present then none else some .moduleMissing)
  pure g.library

/-- Creates an environment. It is numbered even if creating it fails. -/
def createEnvironment : Action Workspace Environment := do
  Action.modify fun w => { w with gurobi := { w.gurobi with created := w.gurobi.created + 1 } }
  let serial ← Action.gets (·.gurobi.created)
  call (.gurobi (.createEnvironment serial))
  pure (.native serial)

/-- Solves the model; answers the status and what is left to be read. -/
def optimize : Action Workspace (Value × Option GurobiReading) := do
  call (.gurobi .optimize)
  let service ← Action.gets (·.gurobi)
  Action.modify fun w => { w with gurobi := { w.gurobi with
    statuses := service.statuses.tail
    readings := service.readings.tail } }
  pure (service.statuses.headD (Value.ofInt 2), service.readings.head?)

end GurobiService

end LinearDispatch
