import LinearDispatch.Number.Shortest

/-!
# The text of a number

Numbers are written with the fewest digits that read back. The choices of the format that the
digits leave open are one record, `layout`. An integer is written with all of its digits, unless
there are more than `maxDigits` of them: such an integer is not written at all.
-/

namespace LinearDispatch.Number

open Float.Model.UnpackedFloat (Sign)

structure Layout where
  /-- the smallest leading place written without an exponent -/
  firstPositional : Int
  /-- the largest leading place written without an exponent -/
  lastPositional : Int
  /-- the least number of digits of a written exponent -/
  exponentWidth : Nat
  infinite : String
  undefined : String

/-- Leading places from 10⁻⁴ to 10¹⁵ are written out, an exponent has two digits at least and
always a sign. -/
def layout : Layout := ⟨-4, 15, 2, "inf", "nan"⟩

/-- Decimal digits of a natural, zeros in front up to `width`. -/
def padded (width n : Nat) : String :=
  let ds := Nat.toDigits 10 n
  String.ofList (List.replicate (width - ds.length) '0' ++ ds)

/-- A decimal written out: digits, a point, and at least one digit after it. -/
def positional (d : Decimal) : String :=
  let ds := Nat.toDigits 10 d.digits
  if 0 ≤ d.place then
    String.ofList (ds ++ List.replicate d.place.toNat '0') ++ ".0"
  else
    let behind := (-d.place).toNat
    if behind < ds.length then
      String.ofList (ds.take (ds.length - behind)) ++ "." ++
        String.ofList (ds.drop (ds.length - behind))
    else
      "0." ++ String.ofList (List.replicate (behind - ds.length) '0' ++ ds)

/-- A decimal with one digit before the point (and no point after a single digit) and the
exponent of ten behind it. -/
def scientific (d : Decimal) (lead : Int) : String :=
  let ds := Nat.toDigits 10 d.digits
  let fraction := if ds.length ≤ 1 then "" else "." ++ String.ofList (ds.drop 1)
  let sign := if lead < 0 then "-" else "+"
  String.ofList (ds.take 1) ++ fraction ++ "e" ++ sign ++ padded layout.exponentWidth lead.natAbs

/-- A positive decimal in the form its size asks for. -/
def decimalText (d : Decimal) : String :=
  let lead : Int := d.place + digitCount d.digits - 1
  if layout.firstPositional ≤ lead ∧ lead ≤ layout.lastPositional then
    positional d
  else
    scientific d lead

/-- The sign that stands before a text; a positive number has none. -/
def signText : Sign → String
  | .positive => ""
  | .negative => "-"

/-- The text of a number: the fewest digits that read back as the same number. -/
def text (x : Float) : String :=
  match unpack x with
  | .notANumber => layout.undefined
  | .infinity sign => signText sign ++ layout.infinite
  | .zero sign => signText sign ++ "0.0"
  | .finite sign mantissa exponent _ => signText sign ++ decimalText (shortest mantissa exponent)

/-- The digits that an integer may have where it is read from a text or written as one. -/
def maxDigits : Nat := 4300

/-- The integer can be written as a text. -/
def isWritable (n : Int) : Bool :=
  n.natAbs < Nat.pow 10 maxDigits

/-! Written, then read: the ends of the positional range, and the numbers that are special. -/

example : text 0.1 = "0.1" := by decide +kernel
example : text 9999999999999998.0 = "9999999999999998.0" := by decide +kernel
example : text 1e16 = "1e+16" := by decide +kernel
example : text 0.0001 = "0.0001" := by decide +kernel
example : text 0.00001 = "1e-05" := by decide +kernel
example : text 1.5e-10 = "1.5e-10" := by decide +kernel
example : text (-0.0) = "-0.0" := by decide +kernel
example : text negInfinity = "-inf" := by decide +kernel
example : text notANumber = "nan" := by decide +kernel
example : isWritable (1 - 10 ^ 4300) ∧ ¬isWritable (-10 ^ 4300) := by decide +kernel

end LinearDispatch.Number
