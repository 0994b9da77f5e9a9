/-!
The fewest decimal digits that still name a binary floating-point number.

A number of the format binary64 is the nearest one to every real in an interval around it. A
decimal names the number if it lies in that interval. The search goes over the decimal grids with
one digit, two digits and so on; the first grid with a point in the interval gives the answer, and
of two points the nearer one. All arithmetic is on natural numbers.
-/

set_option autoImplicit false

namespace RelayCheck.Decimal

/-- The number `digits * 10 ^ exponent`. -/
structure Scaled where
  digits : Nat
  exponent : Int
deriving DecidableEq, Repr

structure Ratio where
  numerator : Nat
  denominator : Nat
deriving DecidableEq, Repr

def Ratio.ofBinary (number : Nat) (exponent : Int) : Ratio :=
  ⟨number * Nat.pow 2 exponent.toNat, Nat.pow 2 (-exponent).toNat⟩

def Ratio.unscale (ratio : Ratio) (exponent : Int) : Ratio :=
  ⟨ratio.numerator * Nat.pow 10 (-exponent).toNat,
    ratio.denominator * Nat.pow 10 exponent.toNat⟩

/-- The reals that round to one number of binary64, with that number. -/
structure Interval where
  low : Ratio
  value : Ratio
  high : Ratio
  /-- Whether the two ends round to the number as well. -/
  closed : Bool
deriving DecidableEq, Repr

/-- The interval of `mantissa * 2 ^ exponent`. It reaches half way to the neighbours; below a power
of two (`narrow`) the neighbour is twice as close. The ends belong to the even mantissa. -/
def Interval.around (mantissa : Nat) (exponent : Int) (narrow : Bool) : Interval :=
  { low := .ofBinary (4 * mantissa - if narrow then 1 else 2) (exponent - 2)
    value := .ofBinary (4 * mantissa) (exponent - 2)
    high := .ofBinary (4 * mantissa + 2) (exponent - 2)
    closed := mantissa % 2 == 0 }

/-- Tests whether `digits * 10 ^ exponent` lies in the interval. -/
def Interval.has (interval : Interval) (digits : Nat) (exponent : Int) : Bool :=
  let low := interval.low.unscale exponent
  let high := interval.high.unscale exponent
  let point := digits * low.denominator
  let ceiling := digits * high.denominator
  if interval.closed then low.numerator ≤ point && ceiling ≤ high.numerator
  else low.numerator < point && ceiling < high.numerator

/-- The point of the grid `10 ^ exponent` that lies in the interval, the nearer one if its value
has two neighbours there, and the even one if they are equally near. -/
def Interval.nearest? (interval : Interval) (exponent : Int) : Option Nat :=
  let value := interval.value.unscale exponent
  let below := value.numerator / value.denominator
  match interval.has below exponent, interval.has (below + 1) exponent with
  | false, false => none
  | true, false => some below
  | false, true => some (below + 1)
  | true, true =>
    let twice := 2 * value.numerator
    let middle := (2 * below + 1) * value.denominator
    if twice < middle then some below
    else if middle < twice then some (below + 1)
    else if below % 2 == 0 then some below else some (below + 1)

/-- The decimal exponent of the first digit of a fraction of at least one. `fuel` bounds it. -/
def magnitudeUp (fuel : Nat) (numerator denominator : Nat) : Nat :=
  match fuel with
  | 0 => 0
  | fuel + 1 =>
    if numerator < 10 * denominator then 0
    else magnitudeUp fuel numerator (10 * denominator) + 1

/-- How many places after the point the first digit of a fraction below one stands. `fuel` bounds
it. -/
def magnitudeDown (fuel : Nat) (numerator denominator : Nat) : Nat :=
  match fuel with
  | 0 => 0
  | fuel + 1 =>
    if denominator ≤ numerator then 0
    else magnitudeDown fuel (10 * numerator) denominator + 1

/-- The exponent of the power of ten at or below a positive fraction. No number of binary64 has
more than 309 digits before the point or its first digit more than 324 places after it. -/
def Ratio.magnitude (ratio : Ratio) : Int :=
  if ratio.denominator ≤ ratio.numerator then magnitudeUp 310 ratio.numerator ratio.denominator
  else - (magnitudeDown 325 ratio.numerator ratio.denominator : Int)

/-- Searches the grids with `count` digits and more, `left` of them. -/
def Interval.search (interval : Interval) (magnitude : Int) (count : Nat) : Nat → Scaled
  | 0 => ⟨0, 0⟩
  | left + 1 =>
    let exponent := magnitude + 1 - count
    match interval.nearest? exponent with
    | none => interval.search magnitude (count + 1) left
    | some digits =>
      if digits == Nat.pow 10 count then ⟨1, exponent + count⟩ else ⟨digits, exponent⟩

/-- The shortest decimal in the interval. Seventeen digits are enough for every number. -/
def Interval.shortest (interval : Interval) : Scaled :=
  interval.search interval.value.magnitude 1 17

def isNegative (bits : UInt64) : Bool :=
  bits >>> 63 == 1

/-- The shortest decimal for the size of a finite number of binary64, given by its bits. -/
def shortest (bits : UInt64) : Scaled :=
  let biased := ((bits >>> 52) &&& 0x7FF).toNat
  let fraction := (bits &&& 0xFFFFFFFFFFFFF).toNat
  if biased == 0 then
    if fraction == 0 then ⟨0, 0⟩ else (Interval.around fraction (-1074) false).shortest
  else
    (Interval.around (fraction + Nat.pow 2 52) ((biased : Int) - 1075)
      (fraction == 0 && 1 < biased)).shortest

end RelayCheck.Decimal
