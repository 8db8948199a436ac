import LinearDispatch.Model.Problem
import LinearDispatch.Indexing
import LinearDispatch.Mapping

/-!
# The parts of a problem

What an adapter is handed of a problem, one part after the other: every column, every row, and
the objective at the end. Bounds become two-sided ranges with infinities for what is open, and a
binary column is cut down to the part of its range between 0 and 1. A problem is handed over with
binary64 numbers and column indices; callers who drive an adapter themselves may pass any value,
and each adapter asks of a part only what it needs.
-/

namespace LinearDispatch

/-- Coefficients on their way to an adapter: a mapping from indices, or something else. -/
inductive Coefficients where
  | mapping (m : Mapping)
  | other (f : Foreign)

namespace Coefficients

/-- The entries of a mapping; nothing else has any. -/
def entries : Coefficients → Except Failure (List (Key × Value))
  | mapping m => .ok m.entries
  | other f => .error (.missingPart f.typeName "items")

def looseItems : Foreign → Except Failure (List Value)
  | .value v => v.items
  | .object kind _ => .error (.notIterable kind.typeName)

/-- Each index with its coefficient, looked up. What is no mapping is asked for its items and
then for the item that each of them is an index of. -/
def lookups : Coefficients → Except Failure (List (Value × Except Failure Value))
  | mapping m => .ok (m.entries.map fun e => (e.1.value, .ok e.2))
  | other f => do
    let items ← looseItems f
    return items.map fun i =>
      (i, match f with
        | .value (.list _) => itemAt items i
        | _ => .error (.notAnIndex i.typeName))

def entryOf (place : Nat) (v : Value) : Except Failure (Key × Value) :=
  match v.items with
  | .error _ => .error (.entryNotASequence place)
  | .ok [a, b] =>
    match a.key? with
    | some k => .ok (k, b)
    | none => .error (.notHashable a.typeName)
  | .ok items => .error (.entryNotAPair place items.length)

/-- The entries that a list stands for, from place `place` on. -/
def entriesFrom : Nat → List Value → Except Failure (List (Key × Value))
  | _, [] => .ok []
  | place, v :: rest => do
    let e ← entryOf place v
    let es ← entriesFrom (place + 1) rest
    return e :: es

/-- The coefficients as a mapping, made from a list of pairs if they are none. -/
def toMapping : Coefficients → Except Failure Mapping
  | mapping m => .ok m
  | other f => do
    let items ← looseItems f
    let es ← entriesFrom 0 items
    return .ofList es

end Coefficients

inductive Part where
  | column (kind : VariableKind) (lower upper name : Value)
  | row (coefficients : Coefficients) (lower upper name : Value)
  | objective (coefficients : Coefficients)

def Part.coefficients : Part → Coefficients
  | column .. => .mapping .empty
  | row coefficients .. | objective coefficients => coefficients

/-- The larger of two numbers; the first, unless the second is above it. -/
def larger (a b : Float) : Float :=
  if a < b then b else a

/-- The smaller of two numbers; the first, unless the second is below it. -/
def smaller (a b : Float) : Float :=
  if b < a then b else a

def Column.range (c : Column) : Float × Float :=
  let (lower, upper) := c.bound.range
  if c.kind = .binary then (larger lower 0.0, smaller upper 1.0) else (lower, upper)

/-- The coefficients of an expression as they are handed over. -/
def Expression.handedOver (e : Expression) : Coefficients :=
  .mapping ⟨e.coefficients.entries.map fun t => (.scalar (.int t.1), .ofFloat t.2)⟩

/-- The column at place `index`; one without a name is called after its place. -/
def Column.part (index : Nat) (c : Column) : Part :=
  .column c.kind (.ofFloat c.range.1) (.ofFloat c.range.2)
    (c.name.orElse (.text ("x" ++ toString index)))

/-- The row at place `row`; one without a name is called after its place. -/
def Row.part (row : Nat) (r : Row) : Part :=
  .row r.expression.handedOver (.ofFloat r.bound.range.1) (.ofFloat r.bound.range.2)
    (r.name.orElse (.text ("c" ++ toString row)))

/-- The parts of a problem in the order in which an adapter receives them. -/
def Problem.parts (p : Problem) : List Part :=
  p.columns.mapIdx Column.part ++ p.rows.mapIdx Row.part ++ [.objective p.objective.handedOver]

end LinearDispatch
