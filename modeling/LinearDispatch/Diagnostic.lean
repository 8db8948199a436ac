import LinearDispatch.Failure
import LinearDispatch.Text.Case

/-!
# Statuses, diagnostics and receipts

The uniform vocabulary of outcomes: how a solve ended, what is worth telling about it, and what
a building step did with its input. An adapter may answer a solve with an object of its own in the
place of a status; it passes for one as long as nothing is asked of it that it does not have.
-/

namespace LinearDispatch

/-- What an object in the place of a status has of one. -/
structure StatusObject where
  typeName : String
  usable : Bool
  /-- what it is called, if it is called anything -/
  label : Option Value
  hashable : Bool
deriving DecidableEq

inductive Status where
  | notSolved
  | optimal
  | feasible
  | infeasible
  | unbounded
  | numericalFailure
  | interrupted
  | invalidProblem
  | backendUnavailable
  | own (o : StatusObject)
deriving DecidableEq

namespace Status

/-- What a status is called. An object of its own may be called nothing. -/
def called : Status → Value
  | notSolved => "not_solved"
  | optimal => "optimal"
  | feasible => "feasible"
  | infeasible => "infeasible"
  | unbounded => "unbounded"
  | numericalFailure => "numerical_failure"
  | interrupted => "interrupted"
  | invalidProblem => "invalid_problem"
  | backendUnavailable => "backend_unavailable"
  | own o => o.label.getD .none

def label (s : Status) : String :=
  s.called.shown

/-- The backend has a solution that can be read back. -/
def usable : Status → Bool
  | optimal | feasible => true
  | own o => o.usable
  | _ => false

/-- What a solve without a usable solution says about its status. -/
def explanation : Status → Value
  | infeasible => "Model is infeasible."
  | unbounded => "Model is unbounded."
  | numericalFailure => "Solver could not certify a result."
  | interrupted => "Solver stopped at a limit without a solution."
  | invalidProblem => "Solver rejected the model as invalid."
  | s => s.called

/-- What keeps a solve from explaining a status: it is looked up among those with an explanation,
and says what it is called in case it is none of them. -/
def unexplained? : Status → Option Failure
  | own o =>
    if o.label.isNone then some (.missingPart o.typeName "value")
    else if o.hashable then none
    else some (.notHashable o.typeName)
  | _ => none

/-- A status at the beginning of a sentence. -/
def word : Status → Except Failure String
  | optimal => .ok "Optimal"
  | feasible => .ok "Feasible"
  | own o =>
    match o.label with
    | some (.text s) => .ok (Text.capitalize s)
    | some v => .error (.missingPart v.typeName "capitalize")
    | none => .error (.missingPart o.typeName "value")
  | s => .ok (Text.capitalize s.label)

/-- What keeps a solve from announcing a status that can be used. -/
def unannounced? (s : Status) : Option Failure :=
  if s.usable then
    match s.word with
    | .ok _ => none
    | .error e => some e
  else
    none

end Status

inductive DiagnosticKind where
  | invalidProblem
  | backendUnavailable
  | usageWarning
  | solverOutcome
deriving DecidableEq

namespace DiagnosticKind

def label : DiagnosticKind → String
  | invalidProblem => "invalid_problem"
  | backendUnavailable => "backend_unavailable"
  | usageWarning => "usage_warning"
  | solverOutcome => "solver_outcome"

end DiagnosticKind

structure Diagnostic where
  kind : DiagnosticKind
  message : Value
deriving DecidableEq

def Diagnostic.text (d : Diagnostic) : Except Failure String :=
  d.message.whenWritable ("[" ++ d.kind.label ++ "] " ++ d.message.shown)

inductive Receipt where
  | stored
  /-- stored, but used in a way that deserves a warning -/
  | storedWithWarning (reason : String)
  | dropped (reason : String)
deriving DecidableEq

namespace Receipt

def accepted : Receipt → Bool
  | stored | storedWithWarning _ => true
  | dropped _ => false

def kind? : Receipt → Option DiagnosticKind
  | stored => none
  | storedWithWarning _ => some .usageWarning
  | dropped _ => some .invalidProblem

def reason? : Receipt → Option String
  | stored => none
  | storedWithWarning reason | dropped reason => some reason

def warned (r : Receipt) : Bool :=
  r.kind? = some .usageWarning

end Receipt

end LinearDispatch
