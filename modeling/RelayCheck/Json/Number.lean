import RelayCheck.Decimal.Text

/-!
Numbers of JSON: whole ones as far as 64 bits reach, all others as binary64.
-/

set_option autoImplicit false

namespace RelayCheck.Json

/-- A number. Whole numbers that fit a signed or an unsigned word of 64 bits stay exact; every
other number is kept as the bits of a binary64. -/
inductive Number
  | whole (value : Int) (least : -9223372036854775808 ≤ value)
      (greatest : value < 18446744073709551616)
  | float (bits : UInt64)
deriving DecidableEq

/-- The whole number of that value, if 64 bits hold it. -/
def Number.ofInt? (value : Int) : Option Number :=
  if bounds : -9223372036854775808 ≤ value ∧ value < 18446744073709551616 then
    some (.whole value bounds.1 bounds.2)
  else none

/-- Numbers up to `10 ^ 15` and down to `10 ^ -5` are written positionally, others with an
exponent. -/
def Number.style : Decimal.Style := ⟨-5, 15⟩

def writeInt (value : Int) : List Char :=
  if value < 0 then '-' :: Nat.toDigits 10 value.natAbs else Nat.toDigits 10 value.natAbs

/-- The text of a binary64: the fewest digits that name it, and always a point or an exponent. -/
def writeFloat (bits : UInt64) : List Char :=
  Decimal.writeBits Number.style bits

def Number.write : Number → List Char
  | .whole value _ _ => writeInt value
  | .float bits => writeFloat bits

end RelayCheck.Json
