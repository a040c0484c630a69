import PanelBoard.Text.Digit

/-!
# Double-precision numbers

A number of the binary64 format as an exact value. Reading a decimal numeral
rounds to the nearest number, ties to the even one; writing gives the fewest
digits that read back, always positional.
-/

namespace PanelBoard.Number

open PanelBoard.Text

/-- A binary64 number. A finite one is `mantissa * 2 ^ exponent`, where the
mantissa is below `2 ^ 53` and the exponent at least -1074. -/
inductive Binary64 where
  | finite (isNegative : Bool) (mantissa : Nat) (exponent : Int)
  | infinite (isNegative : Bool)
  | nan
  deriving Repr, DecidableEq

namespace Binary64

/-- The least exponent. -/
def minExponent : Int := -1074

/-- The greatest exponent. -/
def maxExponent : Int := 971

/-- Two to the power of the number of bits of a mantissa. -/
def mantissaLimit : Nat := Nat.pow 2 53

/-- The quotient rounded to the nearest number, ties to the even one. -/
def divideRounded (numerator denominator : Nat) : Nat :=
  let quotient := numerator / denominator
  let twice := 2 * (numerator % denominator)
  if twice < denominator then quotient
  else if denominator < twice then quotient + 1
  else quotient + quotient % 2

/-- A fraction divided by `2 ^ exponent`, as a fraction. -/
def scaleBy (exponent : Int) (numerator denominator : Nat) : Nat × Nat :=
  if 0 ≤ exponent then (numerator, denominator * Nat.pow 2 exponent.toNat)
  else (numerator * Nat.pow 2 (-exponent).toNat, denominator)

/-- The number nearest to a positive fraction. -/
def ofFraction (isNegative : Bool) (numerator denominator : Nat) : Binary64 :=
  let estimate : Int := numerator.log2 - denominator.log2 - 53
  let start := max estimate minExponent
  let (n, d) := scaleBy start numerator denominator
  let exponent := if mantissaLimit ≤ n / d then start + 1 else start
  let (n, d) := scaleBy exponent numerator denominator
  let rounded := divideRounded n d
  let (mantissa, exponent) :=
    if rounded = mantissaLimit then (rounded / 2, exponent + 1) else (rounded, exponent)
  if maxExponent < exponent then .infinite isNegative
  else .finite isNegative mantissa exponent

/-- The number nearest to `digits * 10 ^ exponent`. Exponents far outside the
format need no arithmetic: they give zero or infinity. -/
def ofDecimal (isNegative : Bool) (digits : List Char) (exponent : Int) : Binary64 :=
  let value := (numeral? 10 digits).getD 0
  let magnitude : Int := (decimal value).length + exponent
  if value = 0 || magnitude < -400 then .finite isNegative 0 minExponent
  else if 400 < magnitude then .infinite isNegative
  else if 0 ≤ exponent then ofFraction isNegative (value * Nat.pow 10 exponent.toNat) 1
  else ofFraction isNegative value (Nat.pow 10 (-exponent).toNat)

/-! ## Shortest decimal -/

/-- A positive fraction. -/
structure Fraction where
  numerator : Nat
  denominator : Nat

/-- The fraction `count * 2 ^ exponent`. -/
def Fraction.ofBinary (count : Nat) (exponent : Int) : Fraction :=
  if 0 ≤ exponent then ⟨count * Nat.pow 2 exponent.toNat, 1⟩
  else ⟨count, Nat.pow 2 (-exponent).toNat⟩

/-- The fraction `count * 10 ^ exponent`. -/
def Fraction.ofDecimal (count : Nat) (exponent : Int) : Fraction :=
  if 0 ≤ exponent then ⟨count * Nat.pow 10 exponent.toNat, 1⟩
  else ⟨count, Nat.pow 10 (-exponent).toNat⟩

/-- Is the first fraction less than the second? -/
def Fraction.less (a b : Fraction) : Bool :=
  a.numerator * b.denominator < b.numerator * a.denominator

/-- The distance of two fractions. -/
def Fraction.distance (a b : Fraction) : Fraction :=
  let x := a.numerator * b.denominator
  let y := b.numerator * a.denominator
  ⟨(x - y) + (y - x), a.denominator * b.denominator⟩

/-- The reals that round to a number: the bounds, and whether they belong to it. -/
structure Interval where
  low : Fraction
  high : Fraction
  isClosed : Bool

/-- Is a fraction in the interval? -/
def Interval.contains (interval : Interval) (value : Fraction) : Bool :=
  if interval.isClosed then !value.less interval.low && !interval.high.less value
  else interval.low.less value && value.less interval.high

/-- The interval of a positive number. Below a power of two the neighbours are
nearer, so the lower bound is half as far away there. -/
def interval (mantissa : Nat) (exponent : Int) : Interval :=
  let isPowerOfTwo := mantissa = mantissaLimit / 2 && minExponent < exponent
  { low := if isPowerOfTwo then .ofBinary (4 * mantissa - 1) (exponent - 2)
           else .ofBinary (2 * mantissa - 1) (exponent - 1)
    high := .ofBinary (2 * mantissa + 1) (exponent - 1)
    isClosed := mantissa % 2 = 0 }

/-- Of the two neighbours of a value on the grid of multiples of
`10 ^ exponent`, the nearer one that lies in the interval. Of two equally near
ones the greater is taken. -/
def nearestOnGrid? (value : Fraction) (bounds : Interval) (exponent : Int) : Option Nat :=
  let unit := Fraction.ofDecimal 1 exponent
  let below := value.numerator * unit.denominator / (value.denominator * unit.numerator)
  let fits (count : Nat) := bounds.contains (.ofDecimal count exponent)
  match fits below && below != 0, fits (below + 1) with
  | false, false => none
  | true, false => some below
  | false, true => some (below + 1)
  | true, true =>
    let farBelow := value.distance (.ofDecimal below exponent)
    let farAbove := value.distance (.ofDecimal (below + 1) exponent)
    some (if farBelow.less farAbove then below else below + 1)

/-- Try finer and finer grids until one has a point in the interval. -/
def shortestFrom (value : Fraction) (bounds : Interval) : Nat → Int → Nat × Int
  | 0, exponent => ((nearestOnGrid? value bounds exponent).getD 0, exponent)
  | tries + 1, exponent =>
    match nearestOnGrid? value bounds exponent with
    | some count => (count, exponent)
    | none => shortestFrom value bounds tries (exponent - 1)

/-- The shortest decimal that reads back as a positive number, as
`count * 10 ^ exponent`. No grid coarser than `10 ^ 309` has a point, and
seventeen digits always do. -/
def shortest (mantissa : Nat) (exponent : Int) : Nat × Int :=
  shortestFrom (.ofBinary mantissa exponent) (interval mantissa exponent) 640 309

/-- A decimal without exponent. A whole number ends in `.0`. -/
def positional (count : Nat) (exponent : Int) : List Char :=
  let digits := decimal count
  if 0 ≤ exponent then digits ++ List.replicate exponent.toNat '0' ++ ['.', '0']
  else
    let places := (-exponent).toNat
    let padded := List.replicate (places + 1 - digits.length) '0' ++ digits
    let whole := padded.length - places
    padded.take whole ++ '.' :: padded.drop whole

/-- The text of a number. -/
def text : Binary64 → String
  | .nan => "NaN"
  | .infinite isNegative => if isNegative then "-inf" else "inf"
  | .finite isNegative mantissa exponent =>
    let digits :=
      if mantissa = 0 then ['0', '.', '0']
      else
        let (count, place) := shortest mantissa exponent
        positional count place
    String.ofList (if isNegative then '-' :: digits else digits)

end Binary64

end PanelBoard.Number
