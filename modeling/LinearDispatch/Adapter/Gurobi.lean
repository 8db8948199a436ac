import LinearDispatch.Adapter.Interface
import LinearDispatch.SharedEnvironment

/-!
# The Gurobi adapter

Gurobi is optional: without its module or a licence the adapter cannot be started. The adapter
holds the environment of its handle from the start until it is closed. Infinite sides become
Gurobi's own infinity, and a row becomes an equation, an inequality or a range, according to its
two sides; a row without sides is not sent at all.
-/

namespace LinearDispatch

open Workspace

/-- A native model: how many columns it has, and what there is to be read of it. -/
structure GurobiModel where
  columns : Nat
  reading : GurobiReading

/-- The model with one column more, of which there is to be read what `new` has of it. -/
def GurobiModel.grow (model : GurobiModel) (new : GurobiReading) : GurobiModel where
  columns := model.columns + 1
  reading := { model.reading with
    values := fun i => if i = model.columns then new.values i else model.reading.values i }

structure GurobiAdapter where
  environment : Given (Ref SharedEnvironment)
  /-- it holds the environment -/
  acquired : Bool
  /-- the module as it was when the adapter was last started -/
  library : Option GurobiModule
  model : Option GurobiModel
  /-- the native column of each column taken, in order -/
  columns : List Nat

namespace GurobiAdapter

/-- An adapter that takes its environment from this handle, or from the one that the process shares
where the argument does not count as given. -/
def make (environment : Given (Ref SharedEnvironment)) : GurobiAdapter :=
  ⟨environment.orElse (.proper gurobiEnvironment), false, none, none, []⟩

def shared (part : String) : Action (GurobiAdapter × Workspace) (Ref SharedEnvironment) := do
  let environment ← Adapter.look (·.environment)
  Action.ofExcept (environment.require part)

def requireModel (part : String) : Action (GurobiAdapter × Workspace) GurobiModel := do
  match ← Adapter.look (·.model) with
  | some m => pure m
  | none => Action.fail (.missingPart "model" part)

/-- The module was found when the adapter was started. -/
def requireLibrary : Action (GurobiAdapter × Workspace) GurobiModule := do
  match ← Adapter.look (·.library) with
  | some library => pure library
  | none => Action.fail (.missingPart "GurobiBackend" "_gp")

def constant (name : String) : Action (GurobiAdapter × Workspace) Unit := do
  let library ← requireLibrary
  Action.check
    (if library.missing.contains name then some (.missingPart library.constantsType name)
    else none)

/-- The number of a status, by the name of its constant. -/
def code (name : String) : Action (GurobiAdapter × Workspace) Int := do
  constant name
  let library ← requireLibrary
  pure (library.code name)

/-- Gurobi's number for infinity. -/
def readInfinity : Action (GurobiAdapter × Workspace) Float := do
  constant "INFINITY"
  let library ← requireLibrary
  pure library.infinity

def createModel (env : Option Environment) : Action (GurobiAdapter × Workspace) Unit := do
  call (.gurobi (.createModel env))
  let reading ← Action.gets fun s => s.2.gurobi.reading
  Adapter.remember fun a => { a with model := some ⟨0, reading⟩, columns := [] }

def setParameter (name : Key) (value : Value) : Action (GurobiAdapter × Workspace) Unit :=
  call (.gurobi (.setParameter name value))

def setOptional (name : String) : Option Scalar → Action (GurobiAdapter × Workspace) Unit
  | none => pure ()
  | some value => setParameter (.text name) (.scalar value)

/-- Sets the parameters: the adapter's own first, then the options in order. -/
def apply (p : Parameters) : Action (GurobiAdapter × Workspace) Unit := do
  setParameter (.text "OutputFlag") (Value.ofInt (if p.verbose.isTrue then 1 else 0))
  setOptional "TimeLimit" p.timeLimit
  setOptional "Threads" p.threads
  let _ ← Action.forEach (fun (name, value) => setParameter name value) p.options.entries

/-- Acquires the environment, creates a model in it and hands it the parameters. -/
def start (p : Given Parameters) : Action (GurobiAdapter × Workspace) Unit := do
  let library ← GurobiService.locate
  let r ← shared "acquire"
  let env ← SharedEnvironment.acquire r
  Adapter.remember fun a => { a with acquired := true, library := some library }
  createModel env
  let p ← Action.ofExcept (p.require "verbose")
  apply p

def number : Value → Except Failure Scalar
  | .scalar s => .ok s
  | v => .error (.notReal v.typeName)

/-- A side is infinite; an integer too large for a binary64 number has no answer. -/
def isInfinite (side : Value) : Except Failure Bool := do
  let s ← number side
  return (← s.toFloat).isInf

/-- A side of a column: an infinite one becomes Gurobi's infinity. -/
def mapSide (side : Value) : Action (GurobiAdapter × Workspace) Scalar := do
  let s ← Action.ofExcept (number side)
  let infinite ← Action.ofExcept (isInfinite side)
  if infinite then
    let infinity ← readInfinity
    pure (.real (if Scalar.lt (.int 0) s then infinity else -infinity))
  else
    pure s

def giveColumn (kind : VariableKind) (lower upper name : Value) :
    Action (GurobiAdapter × Workspace) Unit := do
  constant "CONTINUOUS"
  constant "INTEGER"
  constant "BINARY"
  let model ← requireModel "addVar"
  let lower ← mapSide lower
  let upper ← mapSide upper
  call (.gurobi (.addVariable lower upper kind name))
  let reading ← Action.gets fun s => s.2.gurobi.reading
  Adapter.remember fun a =>
    { a with model := some (model.grow reading), columns := a.columns ++ [model.columns] }

def terms (coefficients : Coefficients) :
    Action (GurobiAdapter × Workspace) (List (Nat × Value)) := do
  let lookups ← Action.ofExcept coefficients.lookups
  let _ ← requireLibrary
  let values ← Action.ofExcept (lookups.mapM (·.2))
  let columns ← Adapter.look (·.columns)
  let places ← Action.ofExcept (lookups.mapM fun l => itemAt columns l.1)
  pure (places.zip values)

def giveSide (expression : List (Nat × Value)) (sense : GurobiSense) (senseName : String)
    (side name : Value) : Action (GurobiAdapter × Workspace) Unit := do
  let _ ← requireModel "addLConstr"
  constant senseName
  call (.gurobi (.addRow expression sense side name))

/-- Takes a row: an equation when its sides are the same, nothing when both are open, an
inequality when one is, else a range. -/
def giveRow (coefficients : Coefficients) (lower upper name : Value) :
    Action (GurobiAdapter × Workspace) Unit := do
  let expression ← terms coefficients
  if lower.same upper then
    giveSide expression .equal "EQUAL" lower name
  else
    let lowerOpen ← Action.ofExcept (isInfinite lower)
    let upperOpen ← Action.ofExcept (isInfinite upper)
    if lowerOpen && upperOpen then
      logShowing [name] .gurobi .debug ("Row '" ++ name.shown ++ "' is free; not sent to Gurobi")
    else if lowerOpen then
      giveSide expression .lessEqual "LESS_EQUAL" upper name
    else if upperOpen then
      giveSide expression .greaterEqual "GREATER_EQUAL" lower name
    else do
      let _ ← requireModel "addRange"
      call (.gurobi (.addRange expression lower upper name))

def giveObjective (coefficients : Coefficients) :
    Action (GurobiAdapter × Workspace) Unit := do
  let _ ← requireModel "setObjective"
  let expression ← terms coefficients
  constant "MINIMIZE"
  call (.gurobi (.setObjective expression .minimize))

def give : Part → Action (GurobiAdapter × Workspace) Unit
  | .column kind lower upper name => giveColumn kind lower upper name
  | .row coefficients lower upper name => giveRow coefficients lower upper name
  | .objective coefficients => giveObjective coefficients

/-- The statuses that say that a limit stopped the run. -/
def limitNames : List String :=
  ["TIME_LIMIT", "INTERRUPTED", "NODE_LIMIT", "ITERATION_LIMIT", "SOLUTION_LIMIT",
    "USER_OBJ_LIMIT", "WORK_LIMIT", "MEM_LIMIT"]

/-- What each status means that needs no look at the model. Infeasible or unbounded, not told
apart, is no answer. -/
def statusMeanings : List (String × Status) :=
  [("OPTIMAL", .optimal), ("SUBOPTIMAL", .feasible), ("INFEASIBLE", .infeasible),
    ("INF_OR_UNBD", .numericalFailure), ("UNBOUNDED", .unbounded), ("NUMERIC", .numericalFailure)]

/-- The meaning of a status among those listed; each constant that is compared with has to be
defined. -/
def meaning (status : Value) :
    List (String × Status) → Action (GurobiAdapter × Workspace) (Option Status)
  | [] => pure none
  | (name, meant) :: rest => do
    let code ← code name
    if status.isInt code then pure (some meant) else meaning status rest

/-- The status says that a limit stopped the run. -/
def isLimit (library : GurobiModule) (status : Value) : Bool :=
  limitNames.any fun name => !library.missing.contains name && status.isInt (library.code name)

/-- There is a solution, going by the number of solutions that is read. -/
def hasSolution (count : Except Failure Value) : Except Failure Bool := do
  match ← count with
  | .scalar count => .ok (Scalar.lt (.int 0) count)
  | v => .error (.notComparable ">" v.typeName "int")

/-- What a native status means; at a limit the best solution so far is usable if there is one, which
the number of solutions is read for. -/
def classify (count : Except Failure Value) (status : Value) :
    Action (GurobiAdapter × Workspace) Status := do
  match ← meaning status statusMeanings with
  | some meant => pure meant
  | none =>
    let library ← requireLibrary
    requireKey status
    if isLimit library status then
      let found ← Action.ofExcept (hasSolution count)
      pure (if found then .feasible else .interrupted)
    else
      pure .numericalFailure

/-- Runs the model. What is read of it after that is what this run left. -/
def runOnce : Action (GurobiAdapter × Workspace) Value := do
  let (status, reading) ← GurobiService.optimize
  Adapter.remember fun a =>
    { a with model := a.model.map fun m => { m with reading := reading.getD m.reading } }
  pure status

/-- Solves the model, a second time without dual reductions if the first status leaves open
whether it is infeasible or unbounded. -/
def solve : Action (GurobiAdapter × Workspace) Status := do
  let _ ← requireModel "update"
  call (.gurobi .update)
  let first ← runOnce
  let ambiguous ← code "INF_OR_UNBD"
  let last ←
    if first.isInt ambiguous then do
      log .gurobi .debug "Gurobi returned INF_OR_UNBD; solving again"
      setParameter (.text "DualReductions") (Value.ofInt 0)
      runOnce
    else
      pure first
  let model ← requireModel "SolCount"
  classify model.reading.solutionCount last

/-- Disposes of the model and releases the environment. If disposing fails, the adapter keeps
both. -/
def close : Action (GurobiAdapter × Workspace) Unit := do
  let a ← Adapter.look id
  if a.model.isSome then
    call (.gurobi .disposeModel)
    Adapter.remember fun a => { a with model := none }
  Adapter.remember fun a => { a with columns := [] }
  if a.acquired then
    Adapter.remember fun a => { a with acquired := false }
    let r ← shared "release"
    SharedEnvironment.release r

def versionText (v : String × String × String) : String :=
  "Gurobi " ++ v.1 ++ "." ++ v.2.1 ++ "." ++ v.2.2

instance : Adapter GurobiAdapter where
  name _ := .text "gurobi"
  supportsInteger _ := .ok true
  version := do
    let a ← Adapter.look id
    match a.model with
    | none => pure (.text "Gurobi")
    | some _ =>
      let told ← Action.gets fun s => s.2.gurobi.version
      let version ← Action.ofExcept told
      pure (.text (versionText version))
  start
  give
  solve := do return .proper (← solve)
  values := do
    let a ← Adapter.look id
    match a.model with
    | none => pure (.list [])
    | some model =>
      let values ← Action.ofExcept (a.columns.mapM model.reading.values)
      pure (.list values)
  objectiveValue := do
    let model ← requireModel "ObjVal"
    Action.ofExcept model.reading.objective
  close

end GurobiAdapter

end LinearDispatch
