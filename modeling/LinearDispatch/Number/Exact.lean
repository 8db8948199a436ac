/-!
# Binary64 numbers as exact values

A finite binary64 number is a sign, a natural mantissa and a power of two. Everything here is
done on those three in whole-number arithmetic, so no step rounds: comparing with an integer of
any size, cutting off the fraction, and deciding whether an integer has a binary64 neighbour.
-/

namespace LinearDispatch.Number

open Float.Model (UnpackedFloat)
open Float.Model.UnpackedFloat (Sign)

/-- Sign, mantissa and exponent of a binary64 number, or what else it is. -/
def unpack (x : Float) : UnpackedFloat :=
  x.toModel.unpack

/-- Above every finite number. -/
def infinity : Float := Float.ofBits 0x7FF0000000000000

def negInfinity : Float := Float.ofBits 0xFFF0000000000000

def notANumber : Float := Float.ofBits 0x7FF8000000000000

/-- A power of two, as a natural. -/
def twoTo (k : Nat) : Nat := Nat.pow 2 k

/-- The order of `n` and the finite number `sign · mantissa · 2 ^ exponent`. -/
def compareWhole (n : Int) (sign : Sign) (mantissa : Nat) (exponent : Int) : Ordering :=
  let signed : Int := sign.apply mantissa
  if 0 ≤ exponent then
    compare n (signed * twoTo exponent.toNat)
  else
    compare (n * twoTo (-exponent).toNat) signed

/-- The order of an integer and a binary64 number, exact for integers of any size; a number that
is none has no place in the order. -/
def compareInt (n : Int) (x : Float) : Option Ordering :=
  match unpack x with
  | .notANumber => none
  | .infinity .positive => some .lt
  | .infinity .negative => some .gt
  | .zero _ => some (compare n 0)
  | .finite sign mantissa exponent _ => some (compareWhole n sign mantissa exponent)

/-- The whole part of a finite number, its fraction cut off; nothing else has one. -/
def truncate? (x : Float) : Option Int :=
  match unpack x with
  | .notANumber | .infinity _ => none
  | .zero _ => some 0
  | .finite sign mantissa exponent _ =>
    if 0 ≤ exponent then
      some (sign.apply (mantissa * twoTo exponent.toNat : Nat))
    else
      some (sign.apply (mantissa / twoTo (-exponent).toNat : Nat))

/-- The binary64 number nearest to an integer, a half going to the even neighbour; an integer
that would round past the largest finite number has none. -/
def ofInt? (n : Int) : Option Float :=
  let x := Float.ofInt n
  if x.isInf then none else some x

end LinearDispatch.Number
