import RelayCheck.Decimal.Shortest

/-!
Decimal numbers as text: positional or with an exponent.
-/

set_option autoImplicit false

namespace RelayCheck.Decimal

structure Style where
  /-- The least exponent of the first digit that is written positionally. -/
  leastPlain : Int
  /-- The greatest exponent of the first digit that is written positionally. -/
  greatestPlain : Int
deriving DecidableEq, Repr

def zeros (count : Nat) : List Char :=
  List.replicate count '0'

/-- A decimal in positional notation, with at least one place before and after the point. -/
def Scaled.plain (number : Scaled) : List Char :=
  let digits := Nat.toDigits 10 number.digits
  if 0 ≤ number.exponent then digits ++ zeros number.exponent.toNat ++ ['.', '0']
  else
    let places := (-number.exponent).toNat
    let padded := zeros (places + 1 - digits.length) ++ digits
    let whole := padded.length - places
    padded.take whole ++ '.' :: padded.drop whole

/-- A decimal as its first digit, its other digits after a point, and an exponent with a sign. -/
def Scaled.scientific (number : Scaled) : List Char :=
  let digits := Nat.toDigits 10 number.digits
  let exponent := number.exponent + digits.length - 1
  let mantissa :=
    match digits with
    | [] => []
    | [digit] => [digit]
    | digit :: rest => digit :: '.' :: rest
  let sign := if exponent < 0 then '-' else '+'
  mantissa ++ 'e' :: sign :: Nat.toDigits 10 exponent.natAbs

def Scaled.write (style : Style) (number : Scaled) : List Char :=
  let exponent := number.exponent + (Nat.toDigits 10 number.digits).length - 1
  if style.leastPlain ≤ exponent && exponent ≤ style.greatestPlain then number.plain
  else number.scientific

/-- A finite number of binary64 by its bits: its sign, if it has one, and its shortest decimal. -/
def writeBits (style : Style) (bits : UInt64) : List Char :=
  let size := (shortest bits).write style
  if isNegative bits then '-' :: size else size

end RelayCheck.Decimal
