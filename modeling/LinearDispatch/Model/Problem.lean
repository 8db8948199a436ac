import LinearDispatch.Model.Bound
import LinearDispatch.Model.Expression
import LinearDispatch.Given

/-!
# Problems

A linear or mixed-integer problem at one moment: its columns, an objective to be minimized, and
its rows, in the order they were added. The model store holds these parts as shared objects;
everything that only reads a model (its category, the search for defects, the parts for a
backend) is defined on what the objects hold at that moment.
-/

namespace LinearDispatch

inductive VariableKind where
  | continuous
  | integer
  | binary
deriving DecidableEq

namespace VariableKind

def label : VariableKind → String
  | continuous => "continuous"
  | integer => "integer"
  | binary => "binary"

end VariableKind

/-- A name with a blank before it, or nothing where there is no name. -/
def nameLabel (name : Value) : Except Failure String :=
  if name.isTrue then name.whenWritable (" " ++ name.shown) else .ok ""

structure Column where
  kind : VariableKind
  bound : Bound
  name : Value

structure Row where
  expression : Expression
  bound : Bound
  name : Value

/-- Columns, an objective to be minimized, and rows. -/
structure Problem where
  name : Value
  columns : List Column
  objective : Expression
  rows : List Row
  /-- what was put among the rows and is none, each with the number of rows before it -/
  strays : List (Nat × Foreign)

def Column.text (c : Column) : Except Failure String := do
  let label ← nameLabel c.name
  return "<Variable" ++ label ++ " " ++ c.kind.label ++ " " ++ c.bound.text ++ ">"

def Row.text (r : Row) : Except Failure String := do
  let label ← nameLabel r.name
  let expression ← r.expression.text
  return "<LinearConstraint" ++ label ++ " " ++ expression ++ " " ++ r.bound.text ++ ">"

namespace Problem

/-- The length of the row list, whatever stands in it. -/
def rowCount (p : Problem) : Nat :=
  p.rows.length + p.strays.length

def text (p : Problem) : Except Failure String := do
  let label ← nameLabel p.name
  return "<Program" ++ label ++ " variables=" ++ toString p.columns.length ++ " constraints="
    ++ toString p.rowCount ++ ">"

/-! ## Categories -/

def count (p : Problem) (kind : VariableKind) : Nat :=
  p.columns.countP fun c => c.kind = kind

def isMixedInteger (p : Problem) : Bool :=
  0 < p.count .continuous && p.count .continuous < p.columns.length

/-- All columns are of one kind, and there are some. -/
def isOnly (p : Problem) (kind : VariableKind) : Bool :=
  0 < p.count kind && p.count kind = p.columns.length

def hasInteger (p : Problem) : Bool :=
  p.columns.any fun c => c.kind ≠ .continuous

inductive Category where
  | mixedInteger
  | integer
  | binary
  /-- integer and binary columns and no continuous one -/
  | integerBinary
  | continuous
deriving DecidableEq

def Category.label : Category → String
  | mixedInteger => "mixed-integer"
  | integer => "integer"
  | binary => "binary"
  | integerBinary => "integer-binary"
  | continuous => "continuous"

def Category.title : Category → String
  | mixedInteger => "Mixed Integer Program"
  | integer => "Integer Program"
  | binary => "Binary Program"
  | integerBinary => "Integer/Binary Program"
  | continuous => "Continuous Program"

/-- The category of a problem: the first of the tests that it passes decides. -/
def category (p : Problem) : Category :=
  if p.isMixedInteger then .mixedInteger
  else if p.isOnly .integer then .integer
  else if p.isOnly .binary then .binary
  else if p.hasInteger then .integerBinary
  else .continuous

def overview (p : Problem) : String :=
  "\n".intercalate [
    p.category.title,
    "  # variables: " ++ toString p.columns.length,
    "    - Continuous variables: " ++ toString (p.count .continuous),
    "    - Integer variables: " ++ toString (p.count .integer),
    "    - Binary variables: " ++ toString (p.count .binary),
    "  # constraints: " ++ toString p.rowCount]

end Problem

/-! ## Defects -/

/-- What makes a problem unsolvable before any backend is asked. -/
inductive Defect where
  /-- something of another type in the place of a problem -/
  | notAProblem (type : String)
  | noVariables
  /-- columns that the objective mentions and the problem does not have -/
  | objectiveColumns (indices : List Nat)
  | rowWithoutBound (row : Nat)
  /-- columns that a row mentions and the problem does not have -/
  | rowColumns (row : Nat) (indices : List Nat)
deriving DecidableEq

def indexList (indices : List Nat) : String :=
  "[" ++ ", ".intercalate (indices.map toString) ++ "]"

def Defect.message : Defect → String
  | notAProblem type => "expected a Program, got " ++ type
  | noVariables => "program has no variables"
  | objectiveColumns indices => "objective refers to unknown variable(s) " ++ indexList indices
  | rowWithoutBound row => "constraint " ++ toString row ++ " has no bound(s) specified"
  | rowColumns row indices =>
    "constraint " ++ toString row ++ " refers to unknown variable(s) " ++ indexList indices

/-- The indices that the message of a defect names. -/
def Defect.indices : Defect → List Nat
  | objectiveColumns indices | rowColumns _ indices => indices
  | notAProblem _ | noVariables | rowWithoutBound _ => []

/-- The message of a defect can be written. -/
def Defect.isWritable (d : Defect) : Bool :=
  d.indices.all fun i => Number.isWritable i

/-- Defects as they are reported; one whose message cannot be written ends the report. -/
def Defect.reported (defects : List Defect) : Except Failure (List Defect) :=
  if defects.all Defect.isWritable then .ok defects else .error .notWritable

/-- The columns that an expression mentions and a problem with `columns` columns does not have,
in ascending order. -/
def Expression.unknownColumns (e : Expression) (columns : Nat) : List Nat :=
  (e.coefficients.keys.filter fun i => columns ≤ i).mergeSort

namespace Problem

/-- The defects of the row at place `row`: a missing bound, then unknown columns. -/
def rowDefects (columns row : Nat) (r : Row) : List Defect :=
  (if r.bound.isSet then [] else [.rowWithoutBound row]) ++
    match r.expression.unknownColumns columns with
    | [] => []
    | indices => [.rowColumns row indices]

def defectsOfRows (columns : Nat) : Nat → List Row → List Defect
  | _, [] => []
  | row, r :: rest => rowDefects columns row r ++ defectsOfRows columns (row + 1) rest

/-- Everything that makes the problem unsolvable: no variables, then the objective, then the rows
in order. A problem without defects can be handed to a backend. -/
def defects (p : Problem) : List Defect :=
  let columns := p.columns.length
  (if columns = 0 then [.noVariables] else []) ++
    (match p.objective.unknownColumns columns with
    | [] => []
    | indices => [.objectiveColumns indices]) ++
    defectsOfRows columns 0 p.rows

/-- The search for defects, which puts each of them into words when it finds it, and fails at
something that is no row. -/
def inspect (p : Problem) : Except Failure (List Defect) :=
  match p.strays with
  | [] => Defect.reported p.defects
  | (before, f) :: _ => do
    let _ ← Defect.reported { p with rows := p.rows.take before }.defects
    .error (.missingPart f.typeName f.missingOfRow)

end Problem

end LinearDispatch
