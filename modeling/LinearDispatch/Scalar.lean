import LinearDispatch.Number.Text

/-!
# Scalars

A number as a caller may hand it over: a truth value, an integer of any size or a binary64
number. Truth values count as 0 and 1. Comparing is exact across the kinds; only turning an
integer into a binary64 number rounds.
-/

namespace LinearDispatch

/-- A truth value, an integer or a binary64 number. -/
inductive Scalar where
  | bool (b : Bool)
  | int (n : Int)
  | real (x : Float)
deriving DecidableEq

namespace Scalar

instance : Inhabited Scalar := ⟨.int 0⟩

/-- The integer that a scalar without a fraction part stands for. -/
def whole? : Scalar → Option Int
  | bool b => some (if b then 1 else 0)
  | int n => some n
  | real _ => none

/-- The order of two scalars; a number that is none has no place in it. -/
def order (a b : Scalar) : Option Ordering :=
  match a, b with
  | real x, real y =>
    if x < y then some .lt else if y < x then some .gt else if x == y then some .eq else none
  | real x, bool n => (Number.compareInt (if n then 1 else 0) x).map Ordering.swap
  | real x, int n => (Number.compareInt n x).map Ordering.swap
  | bool n, real y => Number.compareInt (if n then 1 else 0) y
  | int n, real y => Number.compareInt n y
  | bool m, bool n => some (compare (if m then 1 else 0) (if n then 1 else 0 : Int))
  | bool m, int n => some (compare (if m then 1 else 0) n)
  | int m, bool n => some (compare m (if n then 1 else 0))
  | int m, int n => some (compare m n)

def lt (a b : Scalar) : Bool :=
  a.order b == some .lt

/-- `a` and `b` are the same number. -/
def same (a b : Scalar) : Bool :=
  a.order b == some .eq

/-- The scalar with the other sign; a truth value counts as the integer that it is. -/
def neg : Scalar → Scalar
  | bool b => int (if b then -1 else 0)
  | int n => int (-n)
  | real x => real (-x)

/-- The nearest binary64 number, unless the integer is too large to have one. -/
def toFloat? : Scalar → Option Float
  | bool b => some (if b then 1.0 else 0.0)
  | int n => Number.ofInt? n
  | real x => some x

/-- Everything but zero counts as true, a number that is none included. -/
def isTrue : Scalar → Bool
  | bool b => b
  | int n => n != 0
  | real x => !(x == 0.0)

def text : Scalar → String
  | bool b => if b then "True" else "False"
  | int n => toString n
  | real x => Number.text x

/-- The scalar has a text. -/
def isWritable : Scalar → Bool
  | int n => Number.isWritable n
  | bool _ | real _ => true

def typeName : Scalar → String
  | bool _ => "bool"
  | int _ => "int"
  | real _ => "float"

end Scalar

end LinearDispatch
