import LinearDispatch.Number.Exact
import LinearDispatch.Text.Blank

/-!
# Reading a number

The texts that stand for a number: an optional sign, then digits with at most one point and an
optional exponent, or one of the words for infinity and for a number that is none. Blanks
around the number are skipped, digits of every script count, and an underscore may stand between
two digits.
-/

namespace LinearDispatch.Number

/-- The zero digit of each script that writes decimal numbers; nine more digits follow it. -/
def zeroDigits : List Nat :=
  [48, 1632, 1776, 1984, 2406, 2534, 2662, 2790, 2918, 3046, 3174, 3302, 3430, 3558, 3664, 3792,
   3872, 4160, 4240, 6112, 6160, 6470, 6608, 6784, 6800, 6992, 7088, 7232, 7248, 42528, 43216,
   43264, 43472, 43504, 43600, 44016, 65296, 66720, 68912, 69734, 69872, 69942, 70096, 70384,
   70736, 70864, 71248, 71360, 71472, 71904, 72016, 72784, 73040, 73120, 92768, 92864, 93008,
   120782, 120792, 120802, 120812, 120822, 123200, 123632, 125264, 130032]

def digit? (c : Char) : Option Nat :=
  (zeroDigits.find? fun z => z ≤ c.toNat && c.toNat < z + 10).map (c.toNat - ·)

/-- Blanks that may surround a number: all but the four separators of ASCII. -/
def isMargin (c : Char) : Bool :=
  Text.isBlank c && !(28 ≤ c.toNat && c.toNat ≤ 31)

/-- The digits that follow a digit, an underscore between two of them skipped, and what comes
behind them. -/
def moreDigits : List Char → List Nat × List Char
  | [] => ([], [])
  | '_' :: c :: rest =>
    match digit? c with
    | some d => let (ds, behind) := moreDigits rest; (d :: ds, behind)
    | none => ([], '_' :: c :: rest)
  | c :: rest =>
    match digit? c with
    | some d => let (ds, behind) := moreDigits rest; (d :: ds, behind)
    | none => ([], c :: rest)

/-- The digits at the front of a text; the first character has to be one. -/
def leadingDigits : List Char → List Nat × List Char
  | [] => ([], [])
  | c :: rest =>
    match digit? c with
    | some d => let (ds, behind) := moreDigits rest; (d :: ds, behind)
    | none => ([], c :: rest)

def ofDigits (ds : List Nat) : Nat :=
  ds.foldl (fun n d => 10 * n + d) 0

/-- A minus sign, and what follows an optional sign. -/
def signOf : List Char → Bool × List Char
  | '+' :: rest => (false, rest)
  | '-' :: rest => (true, rest)
  | cs => (false, cs)

def fractionDigits : List Char → List Nat × List Char
  | '.' :: rest => leadingDigits rest
  | cs => ([], cs)

/-- The exponent that ends a number: nothing, or a mark with an optional sign and digits. -/
def exponent? : List Char → Option Int
  | [] => some 0
  | mark :: rest =>
    if mark = 'e' ∨ mark = 'E' then
      let (negative, digits) := signOf rest
      match leadingDigits digits with
      | (d :: ds, []) => some (if negative then -(ofDigits (d :: ds) : Int) else ofDigits (d :: ds))
      | _ => none
    else
      none

/-- The binary64 number nearest to `mantissa · 10 ^ exponent`. -/
def ofDecimal (mantissa : Nat) (exponent : Int) : Float :=
  Float.ofScientific mantissa (decide (exponent < 0)) exponent.natAbs

/-- The value of an unsigned decimal number; some digit has to stand before or behind the
point. -/
def decimal? (cs : List Char) : Option Float :=
  let (whole, rest) := leadingDigits cs
  let (fraction, rest) := fractionDigits rest
  if whole.isEmpty && fraction.isEmpty then
    none
  else
    (exponent? rest).map fun e => ofDecimal (ofDigits (whole ++ fraction)) (e - fraction.length)

/-- The value of an unsigned number or of one of the words, in any case. -/
def unsigned? (cs : List Char) : Option Float :=
  let word := String.ofList (cs.map Char.toLower)
  if word = "inf" ∨ word = "infinity" then some infinity
  else if word = "nan" then some notANumber
  else decimal? cs

def trimMargins (cs : List Char) : List Char :=
  ((cs.dropWhile isMargin).reverse.dropWhile isMargin).reverse

def read? (s : String) : Option Float :=
  let (negative, rest) := signOf (trimMargins s.toList)
  (unsigned? rest).map fun x => if negative then -x else x

def readInt? (s : String) : Option Int :=
  let (negative, rest) := signOf (trimMargins s.toList)
  match leadingDigits rest with
  | (d :: ds, []) => some (if negative then -(ofDigits (d :: ds) : Int) else ofDigits (d :: ds))
  | _ => none

/-- How many digits a text of an integer starts with. An underscore that separates no digits makes
it no such text. -/
def leadingDigitCount (s : String) : Nat :=
  match leadingDigits (signOf (trimMargins s.toList)).2 with
  | (_, '_' :: _) => 0
  | (digits, _) => digits.length

/-! What is read and what is not. -/

example : read? " 1_0.5e-1 " = some 1.05 := by decide +kernel
example : read? "-Infinity" = some negInfinity := by decide +kernel
example : read? "١٢" = some 12.0 := by decide +kernel
example : read? "1__0" = none := by decide +kernel
example : read? "1_.5" = none := by decide +kernel
example : read? "." = none := by decide +kernel
example : read? "0x10" = none := by decide +kernel
example : readInt? "-1_2 " = some (-12) := by decide +kernel
example : readInt? "1.0" = none := by decide +kernel
example : leadingDigitCount " -0_12x" = 3 ∧ leadingDigitCount "1__0" = 0 := by decide +kernel

end LinearDispatch.Number
