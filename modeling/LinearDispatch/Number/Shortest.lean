import LinearDispatch.Number.Exact

/-!
# The shortest decimal that reads back

A positive finite binary64 number `mantissa · 2 ^ exponent` is the rounding of a whole interval
of reals. The shortest decimal is the one with the fewest digits inside that interval, and among
those the nearest to the number. On the grid of multiples of `10 ^ place` only the two
neighbours of the number can win, so each grid is decided by two comparisons of naturals.
-/

namespace LinearDispatch.Number

/-- A positive decimal number `digits · 10 ^ place`. -/
structure Decimal where
  digits : Nat
  place : Int
deriving DecidableEq

/-- A power of ten, as a natural. -/
def tenTo (k : Nat) : Nat := Nat.pow 10 k

/-- The number, its rounding interval and one grid in a common unit, all of them naturals. -/
structure GridScale where
  value : Nat
  low : Nat
  high : Nat
  /-- the distance of two neighbours on the grid -/
  step : Nat
  /-- an even mantissa owns the two ends of its interval -/
  closed : Bool

/-- The scale of `mantissa · 2 ^ exponent` and the grid of multiples of `10 ^ place`. The
interval reaches half a unit of the mantissa to both sides, and a quarter below a power of
two. -/
def GridScale.of (mantissa : Nat) (exponent place : Int) : GridScale :=
  let quarter := twoTo (exponent - 2).toNat * tenTo (-place).toNat
  let below := if mantissa = twoTo 52 ∧ exponent ≠ -1074 then 1 else 2
  { value := 4 * mantissa * quarter
    low := (4 * mantissa - below) * quarter
    high := (4 * mantissa + 2) * quarter
    step := tenTo place.toNat * twoTo (2 - exponent).toNat
    closed := mantissa % 2 = 0 }

/-- The point `count · step` lies in the interval. -/
def GridScale.holds (g : GridScale) (count : Nat) : Bool :=
  if g.closed then
    g.low ≤ count * g.step && count * g.step ≤ g.high
  else
    g.low < count * g.step && count * g.step < g.high

/-- The grid point in the interval that is nearest to the number, an exact tie going to the
even count. -/
def GridScale.nearest? (g : GridScale) : Option Nat :=
  let lower := g.value / g.step
  let upper := lower + 1
  match g.holds lower, g.holds upper with
  | true, true =>
    match compare (g.value - lower * g.step) (upper * g.step - g.value) with
    | .lt => some lower
    | .gt => some upper
    | .eq => some (if lower % 2 = 0 then lower else upper)
  | true, false => some lower
  | false, true => some upper
  | false, false => none

def digitCount (n : Nat) : Nat :=
  (Nat.toDigits 10 n).length

/-- The place of the leading digit: the largest `p` with `10 ^ p ≤ mantissa · 2 ^ exponent`. -/
def leadingPlace (mantissa : Nat) (exponent : Int) : Int :=
  let top := mantissa * twoTo exponent.toNat
  let bottom := twoTo (-exponent).toNat
  let guess : Int := digitCount top - digitCount bottom
  if bottom * tenTo guess.toNat ≤ top * tenTo (-guess).toNat then guess else guess - 1

/-- The same decimal without zeros at the end of its digits. -/
def Decimal.trim : Nat → Decimal → Decimal
  | 0, d => d
  | fuel + 1, d =>
    if d.digits % 10 = 0 then Decimal.trim fuel ⟨d.digits / 10, d.place + 1⟩ else d

def mostDigits : Nat := 17

/-- The decimal with the fewest digits that rounds to `mantissa · 2 ^ exponent`, the nearest of
those. -/
def shortest (mantissa : Nat) (exponent : Int) : Decimal :=
  let lead := leadingPlace mantissa exponent
  let found := (List.range mostDigits).findSome? fun (i : Nat) =>
    ((GridScale.of mantissa exponent (lead - i)).nearest?).map fun n => Decimal.mk n (lead - i)
  (found.getD ⟨mantissa, exponent⟩).trim mostDigits

end LinearDispatch.Number
