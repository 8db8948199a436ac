import LinearDispatch.Failure
import LinearDispatch.Diagnostic

/-!
# Bounds

The range of a variable or of a constraint row. A bound keeps its kind and two sides, and whoever
asks for its range looks at the kind first: a one-sided bound keeps something on the other side too,
and only the way in which bounds are given their shape says what that is. A bound starts out unset
and without sides.
-/

namespace LinearDispatch

inductive BoundKind where
  | unset
  | fixed
  | lower
  | upper
  | double
deriving DecidableEq

namespace BoundKind

def label : BoundKind → String
  | unset => "none"
  | fixed => "fixed"
  | lower => "lower"
  | upper => "upper"
  | double => "double"

end BoundKind

/-- A range: what kind it is of, and two sides. -/
structure Bound where
  kind : BoundKind
  lower : Float
  upper : Float
deriving DecidableEq

namespace Bound

/-- A new bound. -/
def unset : Bound :=
  ⟨.unset, Number.negInfinity, Number.infinity⟩

instance : Inhabited Bound := ⟨unset⟩

def isSet (b : Bound) : Bool :=
  b.kind ≠ .unset

/-- Both sides as they are kept, whatever the kind. -/
def sides (b : Bound) : Float × Float :=
  (b.lower, b.upper)

/-- The range that a backend receives: an unset bound constrains nothing, and a one-sided one has
no other side. -/
def range (b : Bound) : Float × Float :=
  match b.kind with
  | .unset => (Number.negInfinity, Number.infinity)
  | .lower => (b.lower, Number.infinity)
  | .upper => (Number.negInfinity, b.upper)
  | .fixed => (b.lower, b.lower)
  | .double => (b.lower, b.upper)

/-- The one side that matters: the upper one of an upper bound, else the lower one. -/
def single (b : Bound) : Float :=
  match b.kind with
  | .upper => b.upper
  | .fixed | .lower | .double | .unset => b.lower

/-- Why asking for a single side is a mistake, if it is one. -/
def singleWarning? (b : Bound) : Option String :=
  match b.kind with
  | .unset => some "singleBound() called on a bound with no kind"
  | .double => some "singleBound() called on a double bound; use doubleBounds() instead"
  | .fixed | .lower | .upper => none

def text (b : Bound) : String :=
  match b.kind with
  | .unset => "<Bound none>"
  | kind => "<Bound " ++ kind.label ++ " [" ++ Number.text b.lower ++ ", " ++ Number.text b.upper
      ++ "]>"

/-- Writes a shape into the bound. A fixed bound takes the lower side for both, and a one-sided one
is left open on its other side, whatever was there. -/
def write (b : Bound) (kind : BoundKind) (lower upper : Float) : Bound :=
  match kind with
  | .fixed => { b with kind, lower, upper := lower }
  | .lower => { b with kind, lower, upper := Number.infinity }
  | .upper => { b with kind, lower := Number.negInfinity, upper }
  | .unset | .double => { b with kind, lower, upper }

/-- The two sides of a fixed bound may differ by this much. -/
def fixedTolerance : Float := 1e-10

/-- Setting a bound that is set already is allowed, and worth a warning. -/
def overwriteNote (b : Bound) : List String :=
  if b.isSet then ["overwriting bound(s) already set as " ++ b.kind.label] else []

/-- A fixed bound whose two sides differ is stored with the lower one, and worth a warning. -/
def mismatchNote (kind : BoundKind) (lower upper : Float) : List String :=
  if kind = .fixed ∧ fixedTolerance < (lower - upper).abs then
    ["lower/upper bounds must be equal for FIXED bounds (got " ++ Number.text lower ++ ", "
      ++ Number.text upper ++ "); using " ++ Number.text lower]
  else
    []

/-- The receipt for an input that was stored with these remarks. -/
def receiptOf (notes : List String) : Receipt :=
  if notes.isEmpty then .stored else .storedWithWarning ("; ".intercalate notes)

/-- Gives the bound a shape, its two sides known as numbers. A double bound whose sides are the
wrong way round is dropped. -/
def setSides (b : Bound) (kind : BoundKind) (lower upper : Float) : Bound × Receipt :=
  if kind = .double ∧ upper < lower then
    (b, .dropped ("double bound with lower " ++ Number.text lower ++ " > upper "
      ++ Number.text upper ++ " ignored"))
  else
    (b.write kind lower upper, receiptOf (b.overwriteNote ++ mismatchNote kind lower upper))

/-- Gives the bound a shape. Only the four shapes that constrain something can be given; the
sides are read as numbers first, also the one that the shape does not use. -/
def set (b : Bound) (kind : Choice BoundKind) (lower upper : Value) :
    Except Failure (Bound × Receipt) :=
  match kind with
  | .other v => v.whenWritable (b, .dropped ("unknown bound kind " ++ v.literal))
  | .member .unset => .ok (b, .dropped "no FREE bound(s): NONE is not a settable kind")
  | .member kind => do
    let l ← lower.toFloat
    let u ← upper.toFloat
    return b.setSides kind l u

end Bound

end LinearDispatch
