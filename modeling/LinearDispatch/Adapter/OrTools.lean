import LinearDispatch.Adapter.Interface
import LinearDispatch.Native.Answer
import LinearDispatch.Text.Case

/-!
# OR-Tools adapters

One adapter for each solver that OR-Tools can create, chosen by its id. Infinite sides become the
solver's own infinity, options become one text of lines, and GLOP is solved a second time without
preprocessing when it calls a model infeasible, because its preprocessing does not tell
infeasible and unbounded apart.
-/

namespace LinearDispatch

open Workspace

/-- A native solver. -/
structure OrToolsSolver where
  columns : Nat
  /-- what its solves left to be read -/
  reading : Option Reading

structure OrToolsAdapter where
  solverId : String
  solver : Option OrToolsSolver
  /-- the native column of each column taken, in order -/
  columns : List Nat
  optionText : String

namespace OrToolsAdapter

/-- An adapter for the solver with this id, in upper case. -/
def make (solverId : String) : OrToolsAdapter :=
  ⟨Text.upper solverId, none, [], ""⟩

def continuousOnly : List String := ["GLOP", "CLP", "PDLP"]

/-- What stands between the name and the value of an option. -/
def separator (solverId : String) : String :=
  if solverId = "SCIP" then " = " else if solverId = "GLOP" then ": " else " "

def optionLines (solverId : String) (options : Mapping) : String :=
  "\n".intercalate (options.entries.map fun e =>
    e.1.value.shown ++ separator solverId ++ e.2.shown)

/-- What keeps the options from being written. -/
def unwritableOption? (options : Mapping) : Option Failure :=
  options.entries.findSome? fun e => e.1.value.unwritable? <|> e.2.unwritable?

/-- The option text with the line that turns preprocessing off. -/
def withoutPreprocessing (text : String) : String :=
  if text.isEmpty then "use_preprocessing: false" else text ++ "\nuse_preprocessing: false"

/-- A time limit in whole milliseconds. -/
def milliseconds (seconds : Scalar) : Except Failure Int :=
  match seconds with
  | .real x => (Scalar.real (x * 1000.0)).truncate
  | s => return (← s.truncate) * 1000

/-- A side cut down to the range from minus `infinity` to `infinity`. -/
def clampScalar (infinity side : Scalar) : Scalar :=
  let below := if side.lt infinity then side else infinity
  if infinity.neg.lt below then below else infinity.neg

/-- A side cut down to the range of the solver; both have to be numbers. -/
def clamp (infinity side : Value) : Except Failure Scalar :=
  match infinity, side with
  | .scalar infinity, .scalar side => .ok (clampScalar infinity side)
  | .scalar infinity, v => .error (.notComparable "<" v.typeName infinity.typeName)
  | v, _ => .error (.noNegative v.typeName)

/-- What each native status means; a limit that stopped the solver leaves the model unsolved. -/
def statusMeanings : List (String × Status) :=
  [("OPTIMAL", .optimal), ("FEASIBLE", .feasible), ("INFEASIBLE", .infeasible),
    ("UNBOUNDED", .unbounded), ("ABNORMAL", .numericalFailure),
    ("MODEL_INVALID", .invalidProblem), ("NOT_SOLVED", .interrupted)]

/-- What a native status means, by the numbers of the constants. Of two constants with one number
the later counts. -/
def classify (code : String → Int) (status : Value) : Status :=
  match statusMeanings.reverse.find? fun m => status.isInt (code m.1) with
  | some (_, meant) => meant
  | none => .numericalFailure

def requireSolver (part : String) : Action (OrToolsAdapter × Workspace) OrToolsSolver := do
  match ← Adapter.look (·.solver) with
  | some solver => pure solver
  | none => Action.fail (.missingPart "solver" part)

def limitTime : Option Scalar → Action (OrToolsAdapter × Workspace) Unit
  | none => pure ()
  | some seconds => do
    let limit ← Action.ofExcept (milliseconds seconds)
    call (.orTools (.setTimeLimit limit))

def limitThreads (solverId : String) : Option Scalar → Action (OrToolsAdapter × Workspace) Unit
  | none => pure ()
  | some threads => do
    let accepted ← OrToolsService.setThreads threads
    if !accepted then
      -- what cannot be written as a whole number is lost like any other record
      match threads.truncate with
      | .ok whole =>
        logShowing [.ofInt whole] .orTools .warning
          (solverId ++ " ignored threads=" ++ toString whole)
      | .error _ => pure ()

def passOptions (solverId : String) (options : Mapping) :
    Action (OrToolsAdapter × Workspace) Unit := do
  if !options.entries.isEmpty then
    Action.check (unwritableOption? options)
    let text := optionLines solverId options
    Adapter.remember fun a => { a with optionText := text }
    let accepted ← OrToolsService.setParameterText text
    if !accepted then
      log .orTools .warning
        (solverId ++ " rejected solver-specific parameters: " ++ Text.quoted text)

def apply (p : Parameters) : Action (OrToolsAdapter × Workspace) Unit := do
  let solverId ← Adapter.look (·.solverId)
  call (.orTools (if p.verbose.isTrue then .enableOutput else .suppressOutput))
  limitTime p.timeLimit
  limitThreads solverId p.threads
  passOptions solverId p.options

/-- Creates the native solver and hands it the parameters. -/
def start (p : Given Parameters) : Action (OrToolsAdapter × Workspace) Unit := do
  let solverId ← Adapter.look (·.solverId)
  let created ← OrToolsService.createSolver solverId
  Action.check (if created then none else some (.noSolverInstance solverId))
  Adapter.remember fun a => { a with solver := some ⟨0, none⟩, columns := [], optionText := "" }
  let p ← Action.ofExcept (p.require "verbose")
  apply p

/-- The call that makes a column: a binary column on [0, 1] has a call of its own. -/
def columnCall (kind : VariableKind) (lower upper : Scalar) (name : Value) : OrToolsCall :=
  match kind with
  | .continuous => .numVariable lower upper name
  | .binary =>
    if lower.same (.real 0.0) && upper.same (.real 1.0) then .boolVariable name
    else .intVariable lower upper name
  | .integer => .intVariable lower upper name

/-- Sets the coefficients of a row or of the objective, each at the native column of its
index. -/
def setCoefficients (target : Nat → Value → OrToolsCall) :
    List (Key × Value) → Action (OrToolsAdapter × Workspace) Unit
  | [] => pure ()
  | (index, coefficient) :: rest => do
    let columns ← Adapter.look (·.columns)
    let column ← Action.ofExcept (itemAt columns index.value)
    call (.orTools (target column coefficient))
    setCoefficients target rest

def mapSide (side : Value) : Action (OrToolsAdapter × Workspace) Scalar := do
  let infinity ← Action.gets fun s => s.2.orTools.infinity
  Action.ofExcept (clamp infinity side)

/-- Makes the native column, row or objective for a part. -/
def give : Part → Action (OrToolsAdapter × Workspace) Unit
  | .column kind lower upper name => do
    let solver ← requireSolver "infinity"
    let lower ← mapSide lower
    let upper ← mapSide upper
    call (.orTools (columnCall kind lower upper name))
    Adapter.remember fun a =>
      { a with
        solver := some { solver with columns := solver.columns + 1 }
        columns := a.columns ++ [solver.columns] }
  | .row coefficients lower upper name => do
    let _ ← requireSolver "Constraint"
    let lower ← mapSide lower
    let upper ← mapSide upper
    call (.orTools (.constraint lower upper name))
    let entries ← Action.ofExcept coefficients.entries
    setCoefficients .rowCoefficient entries
  | .objective coefficients => do
    let _ ← requireSolver "Objective"
    call (.orTools .clearObjective)
    let entries ← Action.ofExcept coefficients.entries
    setCoefficients .objectiveCoefficient entries
    call (.orTools .minimize)

/-- Solves. What is read of the solver after that is what this solve left. -/
def solveOnce : Action (OrToolsAdapter × Workspace) Value := do
  let (status, reading) ← OrToolsService.solve
  Adapter.remember fun a =>
    { a with solver := a.solver.map fun s => { s with reading := reading <|> s.reading } }
  pure status

/-- What there is to be read of a solver. -/
def reading (solver : OrToolsSolver) : Action (OrToolsAdapter × Workspace) Reading := do
  let otherwise ← Action.gets fun s => s.2.orTools.reading
  pure (solver.reading.getD otherwise)

/-- Solves again with preprocessing turned off. If the solver does not take that option, the
model stays infeasible. -/
def solveAgain (code : String → Int) : Action (OrToolsAdapter × Workspace) Value := do
  log .orTools .debug "GLOP reported INFEASIBLE; solving again without presolve"
  let text ← Adapter.look fun a => withoutPreprocessing a.optionText
  let accepted ← OrToolsService.setParameterText text
  if accepted then
    let status ← solveOnce
    if status.isInt (code "INFEASIBLE") then
      log .orTools .info "GLOP: program is infeasible (it may also be unbounded)"
    pure status
  else
    log .orTools .warning ("GLOP rejected " ++ Text.quoted text ++ "; keeping INFEASIBLE")
    pure (Value.ofInt (code "INFEASIBLE"))

def solve : Action (OrToolsAdapter × Workspace) Status := do
  let _ ← requireSolver "Solve"
  let solverId ← Adapter.look (·.solverId)
  let code ← Action.gets fun s => s.2.orTools.code
  let first ← solveOnce
  let last ←
    if first.isInt (code "INFEASIBLE") && solverId == "GLOP" then solveAgain code else pure first
  requireKey last
  pure (classify code last)

instance : Adapter OrToolsAdapter where
  name a := .text (Text.lower a.solverId)
  supportsInteger a := .ok (!continuousOnly.contains a.solverId)
  version := do
    let a ← Adapter.look id
    match a.solver with
    | none => pure (.text a.solverId)
    | some _ =>
      let version ← Action.gets fun s => s.2.orTools.version
      Action.ofExcept version
  start
  give
  solve := do return .proper (← solve)
  values := do
    let a ← Adapter.look id
    match a.solver with
    | none => pure (.list [])
    | some solver =>
      let last ← reading solver
      let values ← Action.ofExcept (a.columns.mapM last.values)
      pure (.list values)
  objectiveValue := do
    let solver ← requireSolver "Objective"
    let last ← reading solver
    Action.ofExcept last.objective
  close := Adapter.remember fun a => { a with solver := none, columns := [] }

end OrToolsAdapter

end LinearDispatch
