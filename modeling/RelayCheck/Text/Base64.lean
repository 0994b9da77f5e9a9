import RelayCheck.Bytes

/-!
Octets in base 64, three of them in four characters.
-/

set_option autoImplicit false

namespace RelayCheck.Text.Base64

def digit (number : Nat) : Char :=
  if number < 26 then Char.ofNat (number + 65)
  else if number < 52 then Char.ofNat (number + 71)
  else if number < 62 then Char.ofNat (number - 4)
  else if number == 62 then '+'
  else '/'

def isDigit (character : Char) : Bool :=
  character.isAlphanum || character == '+' || character == '/' || character == '='

/-- The characters for some octets. A last group of one or two octets is filled up with the
padding mark. -/
def encodeChars : Bytes → List Char
  | [] => []
  | [first] =>
    let number := first.toNat * 16
    [digit (number / 64), digit (number % 64), '=', '=']
  | [first, second] =>
    let number := (first.toNat * 256 + second.toNat) * 4
    [digit (number / 4096), digit (number / 64 % 64), digit (number % 64), '=']
  | first :: second :: third :: rest =>
    let number := (first.toNat * 256 + second.toNat) * 256 + third.toNat
    digit (number / 262144) :: digit (number / 4096 % 64) :: digit (number / 64 % 64)
      :: digit (number % 64) :: encodeChars rest

def encode (octets : Bytes) : String :=
  String.ofList (encodeChars octets)

end RelayCheck.Text.Base64
