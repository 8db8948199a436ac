import LinearDispatch.Failure
import LinearDispatch.Diagnostic
import LinearDispatch.OrderedMap
import LinearDispatch.Mapping

/-!
# Linear expressions

A sparse linear expression: coefficients by column index, in the order in which the indices
first appeared. Adding a coefficient to an index that is there adds the two numbers.
-/

namespace LinearDispatch

structure Expression where
  coefficients : OrderedMap Nat Float

namespace Expression

instance : Inhabited Expression := ⟨⟨.empty⟩⟩

def zero : Expression := ⟨.empty⟩

/-- The coefficient of a column; zero where the expression does not mention it. -/
def coefficient (e : Expression) (index : Nat) : Float :=
  (e.coefficients.get? index).getD 0.0

/-- The expression with `x` added to the coefficient of `index`. -/
def addTerm (e : Expression) (index : Nat) (x : Float) : Expression :=
  ⟨e.coefficients.put index (e.coefficient index + x)⟩

/-- Adds a coefficient. An index that is no natural number drops it; the coefficient is read as
a number after that. -/
def add (e : Expression) (index value : Value) : Except Failure (Expression × Receipt) :=
  match index.index? with
  | none =>
    index.whenWritable
      (e, .dropped ("coefficient index must be a non-negative integer, got " ++ index.literal))
  | some i => do
    let x ← value.toFloat
    return (e.addTerm i x, .stored)

def sortedTerms (e : Expression) : List (Nat × Float) :=
  e.coefficients.entries.mergeSort fun a b => a.1 ≤ b.1

/-- How an expression shows itself: its terms in the order of their columns. -/
def text (e : Expression) : Except Failure String :=
  if e.coefficients.keys.all fun i => Number.isWritable i then
    let terms := e.sortedTerms.map fun t => Number.text t.2 ++ "*x" ++ toString t.1
    .ok ("<LinearExpression " ++ (if terms.isEmpty then "0" else " + ".intercalate terms) ++ ">")
  else
    .error .notWritable

end Expression

inductive Terms where
  | pairs (items : List (Value × Value))
  | loose (v : Value)

def Terms.ofMapping (m : Mapping) : Terms :=
  .pairs (m.entries.map fun e => (e.1.value, e.2))

/-- The terms as values that are still to be taken apart into an index and a coefficient. -/
def Terms.items : Terms → Except Failure (List (Except Failure (Value × Value)))
  | .pairs items => .ok (items.map .ok)
  | .loose v => do
    let items ← v.items
    return items.map Value.pair

end LinearDispatch
