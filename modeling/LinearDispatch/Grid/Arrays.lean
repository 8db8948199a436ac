import LinearDispatch.Grid.Sparse
import LinearDispatch.Workspace

/-!
# An array library on grids

The array library that reads every list as a grid. A cost may be stored under an index, or under a
truth value or nothing at all, which stand for all columns or for none. Sides are lists of numbers;
what is nested is turned down, in a way that depends on how its extents meet.
-/

namespace LinearDispatch.Grid

/-- The number that a value becomes in a place for numbers; nothing at all is no number. -/
def cell : Value → Except Failure Float
  | .none => .ok Number.notANumber
  | .list _ => .error .listForNumber
  | v => v.toFloat

/-- The costs where `values` take the place of all of them: one value for all, or one for each. -/
def spread (columns : Nat) : List Float → List Float
  | [x] => List.replicate columns x
  | xs => xs

/-- The costs where the truth value in the place of an index says whether all of them are replaced
or none. The values have to fit in either case. -/
def storeSelected (costs : List Float) (all : Bool) (values : Value) :
    Except Failure (List Float) := do
  let grid ← ofValue maxAxes values
  let xs ← grid.cells.mapM cell
  let selection := [if all then 1 else 0, costs.length]
  match innermost? 2 grid.extents with
  | some extents =>
    if stretches extents selection then
      return if all then spread costs.length xs else costs
    else
      throw (.unfitForSelection grid.extents selection)
  | none => throw (.unfitForSelection grid.extents selection)

/-- The costs where nothing in the place of an index says that all of them are replaced. -/
def storeAll (costs : List Float) (values : Value) : Except Failure (List Float) := do
  let grid ← ofValue 2 values
  let xs ← grid.cells.mapM cell
  if stretches grid.extents [1, costs.length] then
    return spread costs.length xs
  else
    throw (.unfitForCosts grid.extents [1, costs.length])

/-- The costs after one term of the objective is stored. A truth value or nothing in the place of
an index stands for all columns or for none. -/
def storeCost (costs : List Float) (index : Key) (coefficient : Value) :
    Except Failure (List Float) :=
  match index with
  | .scalar (.int n) =>
    match resolveIndex costs.length n with
    | some place => return costs.set place (← cell coefficient)
    | none =>
      throw (if !CellForm.isSigned n && CellForm.isUnsigned n then .indexTooWide
        else .indexOutOfRange)
  | .scalar (.bool all) => storeSelected costs all coefficient
  | .none => storeAll costs coefficient
  | .scalar (.real _) | .text _ | .member .. => throw .notAnAxisIndex

def rowSides (lower upper : List Value) : Except Failure (List Float × List Float) := do
  let lowerGrid ← ofList lower
  let lowerSides ← lowerGrid.numbers cell
  let upperGrid ← ofList upper
  let upperSides ← upperGrid.numbers cell
  if lowerGrid.isFlat && upperGrid.isFlat then
    return (lowerSides, upperSides)
  else
    throw .rowSidesUnfit

/-- The greatest number of axes of the sides of columns. -/
def maxSideAxes : Nat := 32

def columnSides (lower upper : List Value) : Except Failure (List Float × List Float) := do
  let lower ← ofList lower
  let upper ← ofList upper
  if let some deep := [lower, upper].find? fun g => maxSideAxes < g.extents.length then
    throw (.tooManySideAxes deep.extents.length maxSideAxes)
  if !meets lower.extents upper.extents then
    throw .columnSidesUnfit
  if lower.isFlat && upper.isFlat then
    return (← lower.numbers Value.toFloat, ← upper.numbers Value.toFloat)
  else
    throw (.notConvertible "list")

/-- The library that reads lists as grids. -/
def arrays : ArrayLibrary :=
  ⟨storeCost, Sparse.ofEntries, rowSides, columnSides⟩

end LinearDispatch.Grid
