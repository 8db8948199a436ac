import LinearDispatch.Adapter.Interface
import LinearDispatch.Native.Answer
import LinearDispatch.Text.Case

/-!
# The HiGHS adapter

HiGHS takes a whole model in one call, so the adapter collects the parts and builds the model
when it is told to solve: a cost for every column, the columns' sides and kinds, and one sparse
matrix for the rows. The vectors and the matrix are made by an array library. HiGHS has no binary
columns: they go in as columns of whole values between their sides. When presolve cannot tell
infeasible and unbounded apart, the model is solved a second time without it.
-/

namespace LinearDispatch

open Workspace

/-- The HiGHS adapter: the parts collected so far and the answer to the last model. -/
structure HighsAdapter where
  started : Bool
  options : Mapping
  columnLower : List Value
  columnUpper : List Value
  integrality : List Nat
  entries : List (Nat × Key × Value)
  rowLower : List Value
  rowUpper : List Value
  cost : Mapping
  answer : Option HighsAnswer

namespace HighsAdapter

def new : HighsAdapter :=
  ⟨false, .empty, [], [], [], [], [], [], .empty, none⟩

/-- The options before a caller's own: whether to print, and the time limit if there is one. -/
def ownOptions (p : Parameters) : Except Failure Mapping := do
  let verbosity := Mapping.empty.put (.text "disp") (.scalar (.bool p.verbose.isTrue))
  match p.timeLimit with
  | none => return verbosity
  | some seconds => return verbosity.put (.text "time_limit") (.ofFloat (← seconds.toFloat))

/-- Forgets everything and takes the options; a caller's option replaces the adapter's own. -/
def start (p : Given Parameters) : Action (HighsAdapter × Workspace) Unit := do
  Adapter.remember fun _ => new
  let p ← Action.ofExcept (p.require "verbose")
  let own ← Action.ofExcept (ownOptions p)
  Adapter.remember fun a => { a with options := own }
  if p.threads.isSome then
    log .highs .debug "scipy milp has no thread setting; ignoring"
  Adapter.remember fun a => { a with options := own.putAll p.options.entries, started := true }

def requireStarted : Action (HighsAdapter × Workspace) Unit := do
  let started ← Adapter.look (·.started)
  Action.check (if started then none else some .notOpened)

def take (a : HighsAdapter) : Part → Except Failure HighsAdapter
  | .column kind lower upper _ =>
    return { a with
      columnLower := a.columnLower ++ [lower]
      columnUpper := a.columnUpper ++ [upper]
      integrality := a.integrality ++ [if kind = .continuous then 0 else 1] }
  | .row coefficients lower upper _ => do
    let entries ← coefficients.entries
    return { a with
      entries := a.entries ++ entries.map fun e => (a.rowLower.length, e.1, e.2)
      rowLower := a.rowLower ++ [lower]
      rowUpper := a.rowUpper ++ [upper] }
  | .objective coefficients => return { a with cost := ← coefficients.toMapping }

/-- The cost of each column, from the terms of the objective. -/
def costVector (arrays : ArrayLibrary) (columns : Nat) (terms : List (Key × Value)) :
    Except Failure (List Float) :=
  terms.foldlM (fun costs e => arrays.storeCost costs e.1 e.2) (List.replicate columns 0.0)

/-- The rows of the model; a model without rows has none. -/
def buildRows (a : HighsAdapter) (arrays : ArrayLibrary) : Except Failure (Option HighsRows) := do
  if a.rowLower.isEmpty then
    return none
  let entries ← arrays.matrix a.rowLower.length a.columnLower.length a.entries
  let (lower, upper) ← arrays.rowSides a.rowLower a.rowUpper
  return some ⟨entries, lower, upper⟩

/-- The model that the parts make up, with the given options. -/
def buildModel (a : HighsAdapter) (arrays : ArrayLibrary) : Except Failure HighsModel := do
  let cost ← costVector arrays a.columnLower.length a.cost.entries
  let rows ← a.buildRows arrays
  let (lower, upper) ← arrays.columnSides a.columnLower a.columnUpper
  return ⟨cost, a.integrality, lower, upper, rows, a.options⟩

def messageText (answer : HighsAnswer) : String :=
  Text.lower answer.message.shown

def mentions (text part : String) : Bool :=
  go text.toList
where
  go : List Char → Bool
    | [] => part.isEmpty
    | c :: rest => part.toList.isPrefixOf (c :: rest) || go rest

/-- Presolve could not tell infeasible and unbounded apart. -/
def isAmbiguous (answer : HighsAnswer) : Bool :=
  answer.status.isInt 4 &&
    (mentions (messageText answer) "unbounded or infeasible" ||
      mentions (messageText answer) "infeasible or unbounded")

/-- What an answer beyond the plain statuses means, by its message; an ambiguous one certifies
nothing. -/
def classifyMessage (answer : HighsAnswer) : Status :=
  if isAmbiguous answer then .numericalFailure
  else if mentions (messageText answer) "infeasible" then .infeasible
  else if mentions (messageText answer) "unbounded" then .unbounded
  else .numericalFailure

def hasValues (answer : HighsAnswer) : Bool :=
  match answer.values with
  | none | some .none => false
  | some _ => true

/-- What an answer means; at a limit the best solution so far is usable if there is one. -/
def classify (answer : HighsAnswer) : Action Workspace Status := do
  if answer.status.isInt 0 then
    pure .optimal
  else if answer.status.isInt 1 then
    pure (if hasValues answer then .feasible else .interrupted)
  else if answer.status.isInt 2 then
    pure .infeasible
  else if answer.status.isInt 3 then
    pure .unbounded
  else
    logShowing [answer.status, answer.message] .highs .debug
      ("HiGHS returned status " ++ answer.status.shown ++ ": " ++ answer.message.shown)
    Action.check answer.message.unwritable?
    pure (classifyMessage answer)

/-- Builds the model and solves it, a second time without presolve if the first answer is
ambiguous. -/
def solve : Action (HighsAdapter × Workspace) Status := do
  requireStarted
  let a ← Adapter.look id
  let arrays ← Action.gets fun s => s.2.highs.arrays
  let model ← Action.ofExcept (a.buildModel arrays)
  let first ← HighsService.milp model
  Action.check first.message.unwritable?
  let last ←
    if isAmbiguous first then do
      log .highs .debug "HiGHS presolve was inconclusive; solving again"
      HighsService.milp
        { model with options := model.options.put (.text "presolve") (.scalar (.bool false)) }
    else
      pure first
  Adapter.remember fun a => { a with answer := some last }
  classify last

def lastAnswer (part : String) : Action (HighsAdapter × Workspace) HighsAnswer := do
  match ← Adapter.look (·.answer) with
  | some answer => pure answer
  | none => Action.fail (.missingPart "answer" part)

def readValues (answer : HighsAnswer) : Except Failure Value := do
  let items ← (answer.values.getD .none).items
  let numbers ← items.mapM Value.toFloat
  return .list (numbers.map Value.ofFloat)

instance : Adapter HighsAdapter where
  name _ := .text "highs"
  supportsInteger _ := .ok true
  version := Action.gets fun s => .text ("SciPy " ++ s.2.highs.version ++ " milp (HiGHS)")
  start
  give part := do
    requireStarted
    let a ← Adapter.look id
    let a ← Action.ofExcept (a.take part)
    Adapter.remember fun _ => a
  solve := do return .proper (← solve)
  values := do
    let answer ← lastAnswer "x"
    Action.ofExcept (readValues answer)
  objectiveValue := do
    let answer ← lastAnswer "fun"
    let x ← Action.ofExcept answer.objective.toFloat
    pure (Value.ofFloat x)
  close := Adapter.remember fun a => { a with answer := none, started := false }

end HighsAdapter

end LinearDispatch
