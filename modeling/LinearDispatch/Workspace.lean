import LinearDispatch.Action
import LinearDispatch.Journal
import LinearDispatch.Model.Store

/-!
# The workspace

Everything that a call can read or change: the model objects, the registered factories, the
shared environments, what the native libraries will answer, and the journal. A native library is
known here only by its interface: which calls reach it, and what it answers to each. Which calls
fail is a plan over the number of calls made before, so a failure can be placed at any call.
-/

namespace LinearDispatch

/-- What can be read of a native model: the value of its objective and of each column. -/
structure Reading where
  objective : Except Failure Value
  values : Nat → Except Failure Value

/-- What OR-Tools answers. Lists are taken from the front, one entry a call. -/
structure OrToolsService where
  known : List String
  infinity : Value
  /-- the number of each status, by the name of its constant -/
  code : String → Int
  acceptsThreads : Bool
  /-- whether the next parameter texts are accepted; any further one is -/
  parameterAnswers : List Bool
  /-- the statuses of the next solves; any further one is 0 -/
  statuses : List Value
  /-- what it says when it is asked for its version -/
  version : Except Failure Value
  /-- what the next solves leave to be read; any further one leaves what was there -/
  readings : List Reading
  /-- what is read of a solver for which no solve has left anything -/
  reading : Reading

structure HighsAnswer where
  status : Value
  /-- the values of the columns; when absent, 0 for each -/
  values : Option Value
  message : Value
  objective : Value

/-- What the array library makes of the parts of a model: numbers, or a failure where they are not
what it asks for. -/
structure ArrayLibrary where
  /-- the costs after one of them is stored under an index -/
  storeCost : List Float → Key → Value → Except Failure (List Float)
  /-- the entries of a matrix with so many rows and columns, from places and values -/
  matrix : Nat → Nat → List (Nat × Key × Value) → Except Failure (List (Nat × Nat × Float))
  /-- the lower and the upper sides of rows -/
  rowSides : List Value → List Value → Except Failure (List Float × List Float)
  /-- the lower and the upper sides of columns -/
  columnSides : List Value → List Value → Except Failure (List Float × List Float)

/-- What HiGHS answers: the next answers; to any further model, status 0. -/
structure HighsService where
  version : String
  /-- the library that makes its models -/
  arrays : ArrayLibrary
  answers : List HighsAnswer

structure GurobiModule where
  /-- the type of what has the constants -/
  constantsType : String
  /-- constants that it does not define -/
  missing : List String
  /-- its number for infinity -/
  infinity : Float
  /-- the number of each status, by the name of its constant -/
  code : String → Int

/-- What can be read of a Gurobi model. -/
structure GurobiReading extends Reading where
  solutionCount : Except Failure Value

/-- What Gurobi answers. -/
structure GurobiService where
  present : Bool
  library : GurobiModule
  /-- the statuses of the next runs; any further one is 2 -/
  statuses : List Value
  /-- what it says when it is asked for its version: the parts, as they are written -/
  version : Except Failure (String × String × String)
  /-- what the next runs leave to be read; any further one leaves what was there -/
  readings : List GurobiReading
  /-- what is there to be read of a new model and of a new column -/
  reading : GurobiReading
  /-- environments created so far -/
  created : Nat

/-- Where a shared environment comes from and how it is disposed of: by starting Gurobi, or as a
caller lays down for each time (`none` is an environment that is none). -/
inductive EnvironmentSource where
  | gurobi
  | script (make : Nat → Except Failure (Option Environment)) (dispose : Nat → Option Failure)

/-- A shared environment: it exists while somebody holds it. -/
structure SharedEnvironment where
  name : Value
  source : EnvironmentSource
  environment : Option Environment
  holders : Nat
  /-- environments asked of the source so far -/
  made : Nat
  /-- environments disposed of so far -/
  disposed : Nat

def SharedEnvironment.new (name : Value) (source : EnvironmentSource) : SharedEnvironment :=
  ⟨name, source, none, 0, 0, 0⟩

instance : Inhabited SharedEnvironment := ⟨.new (.text "gurobi") .gurobi⟩

/-- The behaviour of a scripted adapter: its answers, and the calls that fail, by the number of
calls made on it before. -/
structure Script where
  name : Value
  supportsInteger : Bool
  status : Status
  values : Option Value
  objective : Value
  version : Option Value
  fault : Nat → AdapterCall → Option Failure

inductive Factory where
  | scripted (script : Script)
  | orTools (solverId : String)
  | highs
  | gurobi (environment : Given (Ref SharedEnvironment))

structure Workspace where
  models : Store
  registry : OrderedMap String Factory
  environments : Cells SharedEnvironment
  orTools : OrToolsService
  highs : HighsService
  gurobi : GurobiService
  /-- the failure of a native call, by the number of native calls made before -/
  faults : Nat → NativeCall → Option Failure
  nativeCalls : Nat
  journal : List Event

namespace Workspace

def record (e : Event) : Action Workspace Unit :=
  Action.modify fun w => { w with journal := w.journal ++ [e] }

def log (channel : Channel) (level : Level) (message : String) : Action Workspace Unit :=
  record (.log channel level message)

/-- Logs a record that shows values. One that cannot be written is lost, which is no failure of the
call that logs it. -/
def logShowing (values : List Value) (channel : Channel) (level : Level) (message : String) :
    Action Workspace Unit :=
  if values.all Value.isWritable then log channel level message else pure ()

theorem run_logShowing (values : List Value) (channel : Channel) (level : Level) (message : String)
    (w : Workspace) : ((logShowing values channel level message).run w).1 = .ok () := by
  unfold logShowing
  split <;> rfl

/-- Calls a native interface: the call is in the journal, whether it fails or not. -/
def call (c : NativeCall) : Action Workspace Unit := do
  record (.native c)
  let fault ← Action.gets fun w => w.faults w.nativeCalls c
  Action.modify fun w => { w with nativeCalls := w.nativeCalls + 1 }
  Action.check fault

/-- The environment that the whole process shares for Gurobi. -/
def gurobiEnvironment : Ref SharedEnvironment := ⟨0⟩

/-- The workspace of a fresh process: no model objects, nobody holding an environment, and no
native call that fails. -/
def fresh (registry : OrderedMap String Factory) (orTools : OrToolsService) (highs : HighsService)
    (gurobi : GurobiService) : Workspace where
  models := .empty
  registry
  environments := Cells.empty.push (.new (.text "gurobi") .gurobi)
  orTools
  highs
  gurobi
  faults := fun _ _ => none
  nativeCalls := 0
  journal := []

end Workspace

end LinearDispatch
