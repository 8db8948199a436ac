import LinearDispatch.Mapping
import LinearDispatch.Model.Problem

/-!
# Calls of the native interfaces

What the three native libraries are asked to do, call by call. These are the calls that reach
the outside: each is recorded in the journal, and each may be answered with a failure.
-/

namespace LinearDispatch

/-- An environment of a native solver: one that the library started itself, by its number, or
whatever a caller's own handle provides. -/
inductive Environment where
  | native (serial : Nat)
  | custom (v : Value)

/-- How an environment appears in answers and in the journal. -/
def Environment.value : Environment → Value
  | native serial => .text ("gurobi-env" ++ toString serial)
  | custom v => v

/-- Calls of an OR-Tools solver. Columns go by the number the solver gave them. -/
inductive OrToolsCall where
  | createSolver (solverId : String)
  | enableOutput
  | suppressOutput
  | setTimeLimit (milliseconds : Int)
  | setThreads (threads : Scalar)
  | setParameterText (text : String)
  | numVariable (lower upper : Scalar) (name : Value)
  | intVariable (lower upper : Scalar) (name : Value)
  | boolVariable (name : Value)
  | constraint (lower upper : Scalar) (name : Value)
  | rowCoefficient (column : Nat) (coefficient : Value)
  | clearObjective
  | objectiveCoefficient (column : Nat) (coefficient : Value)
  | minimize
  | solve

/-- The rows of a model for HiGHS: a sparse matrix and the two sides of each row. -/
structure HighsRows where
  /-- row, column and coefficient, in the order of rows and then of columns -/
  entries : List (Nat × Nat × Float)
  lower : List Float
  upper : List Float

/-- The one call of HiGHS: a whole model and its options. -/
structure HighsModel where
  cost : List Float
  /-- 0 for a continuous column, 1 for one that takes whole values -/
  integrality : List Nat
  lower : List Float
  upper : List Float
  rows : Option HighsRows
  options : Mapping

inductive GurobiSense where
  | equal
  | lessEqual
  | greaterEqual
deriving DecidableEq

/-- What is to be done with an objective. -/
inductive GurobiGoal where
  | minimize
  | maximize
deriving DecidableEq

/-- Calls of Gurobi. Expressions are lists of a column and its coefficient. -/
inductive GurobiCall where
  | createEnvironment (serial : Nat)
  | setEnvironmentParameter (name : String) (value : Int)
  | startEnvironment
  | disposeEnvironment (env : Environment)
  | createModel (env : Option Environment)
  | setParameter (name : Key) (value : Value)
  | addVariable (lower upper : Scalar) (kind : VariableKind) (name : Value)
  | addRow (terms : List (Nat × Value)) (sense : GurobiSense) (side name : Value)
  | addRange (terms : List (Nat × Value)) (lower upper name : Value)
  | setObjective (terms : List (Nat × Value)) (goal : GurobiGoal)
  | update
  | optimize
  | disposeModel

inductive NativeCall where
  | orTools (call : OrToolsCall)
  | highs (model : HighsModel)
  | gurobi (call : GurobiCall)

def OrToolsCall.title : OrToolsCall → String
  | createSolver _ => "CreateSolver"
  | enableOutput => "EnableOutput"
  | suppressOutput => "SuppressOutput"
  | setTimeLimit _ => "set_time_limit"
  | setThreads _ => "SetNumThreads"
  | setParameterText _ => "SetSolverSpecificParametersAsString"
  | numVariable .. => "NumVar"
  | intVariable .. => "IntVar"
  | boolVariable _ => "BoolVar"
  | constraint .. => "Constraint"
  | rowCoefficient .. => "Constraint.SetCoefficient"
  | clearObjective => "Objective.Clear"
  | objectiveCoefficient .. => "Objective.SetCoefficient"
  | minimize => "Objective.SetMinimization"
  | solve => "Solve"

def GurobiCall.title : GurobiCall → String
  | createEnvironment _ => "Env"
  | setEnvironmentParameter .. => "Env.setParam"
  | startEnvironment => "Env.start"
  | disposeEnvironment _ => "Env.dispose"
  | createModel _ => "Model"
  | setParameter .. => "Model.setParam"
  | addVariable .. => "addVar"
  | addRow .. => "addLConstr"
  | addRange .. => "addRange"
  | setObjective .. => "setObjective"
  | update => "update"
  | optimize => "optimize"
  | disposeModel => "Model.dispose"

def NativeCall.title : NativeCall → String
  | orTools call => "ortools." ++ call.title
  | highs _ => "highs.milp"
  | gurobi call => "gurobi." ++ call.title

end LinearDispatch
