import LinearDispatch.Diagnostic
import LinearDispatch.Parameters
import LinearDispatch.Model.Part
import LinearDispatch.Native.Call

/-!
# The journal

Everything that happens outside the model objects, in order: log records, calls of the native
interfaces, calls of scripted adapters, and environments that a caller's own handle makes and
disposes of.
-/

namespace LinearDispatch

inductive Level where
  | debug
  | info
  | warning
  | error
deriving DecidableEq

def Level.label : Level → String
  | debug => "DEBUG"
  | info => "INFO"
  | warning => "WARNING"
  | error => "ERROR"

/-- The part of the library that a log record comes from. -/
inductive Channel where
  | model
  | solver
  | registry
  | environment
  | orTools
  | highs
  | gurobi
deriving DecidableEq

def Channel.label : Channel → String
  | model => "lpbridge.program"
  | solver => "lpbridge.solver"
  | registry => "lpbridge.backends.base"
  | environment => "lpbridge.backends.environment"
  | orTools => "lpbridge.backends.ortools_backend"
  | highs => "lpbridge.backends.scipy_backend"
  | gurobi => "lpbridge.backends.gurobi_backend"

inductive AdapterCall where
  | create
  | start (parameters : Parameters)
  | give (part : Part)
  | solve
  | values
  | objectiveValue
  | close

def AdapterCall.title : AdapterCall → String
  | create => "new"
  | start _ => "open"
  | give (.column ..) => "addColumn"
  | give (.row ..) => "addRow"
  | give (.objective _) => "setObjective"
  | solve => "solve"
  | values => "values"
  | objectiveValue => "objectiveValue"
  | close => "close"

inductive Event where
  | log (channel : Channel) (level : Level) (message : String)
  | native (call : NativeCall)
  | adapter (name : Value) (call : AdapterCall)
  | environmentCreated (handle : Value)
  | environmentDisposed (handle : Value) (env : Environment)

end LinearDispatch
