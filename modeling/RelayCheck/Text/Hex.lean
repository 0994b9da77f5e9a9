import RelayCheck.Text.Quoted
import RelayCheck.Text.Utf8

/-!
Octets as pairs of hexadecimal digits.

Writing uses small letters. Reading takes either case and works on the octets of the text, so a
character outside ASCII is met as the first of its octets.
-/

set_option autoImplicit false

namespace RelayCheck.Text.Hex

/-- The two digits of an octet. -/
def pair (octet : UInt8) : List Char :=
  [Nat.digitChar (octet.toNat / 16), Nat.digitChar (octet.toNat % 16)]

/-- Octets in hexadecimal, two small digits for each. -/
def encode (octets : Bytes) : String :=
  String.ofList (octets.flatMap pair)

inductive Fault
  | oddLength
  /-- The octet at `position` is no digit. -/
  | notADigit (octet : UInt8) (position : Nat)
deriving DecidableEq, Repr

/-- The wording of a fault. An octet is shown as the character with its number. -/
def Fault.message : Fault → String
  | .oddLength => "Odd number of digits"
  | .notADigit octet position =>
    "Invalid character " ++ quotedChar (Char.ofNat octet.toNat) ++ s!" at position {position}"

/-- The value of the octet that stands for a digit. -/
def value? (octet : UInt8) : Option Nat :=
  if 0x30 ≤ octet && octet ≤ 0x39 then some (octet.toNat - 0x30)
  else if 0x41 ≤ octet && octet ≤ 0x46 then some (octet.toNat - 0x41 + 10)
  else if 0x61 ≤ octet && octet ≤ 0x66 then some (octet.toNat - 0x61 + 10)
  else none

/-- Reads pairs from `position` on. `done` are the octets read so far, last first. A digit that is
left alone at the end cannot occur in an even number of octets and counts as an odd length. -/
def decodeFrom (position : Nat) (done : Bytes) : Bytes → Except Fault Bytes
  | [] => .ok done.reverse
  | [_] => .error .oddLength
  | high :: low :: rest =>
    match value? high with
    | none => .error (.notADigit high position)
    | some upper =>
      match value? low with
      | none => .error (.notADigit low (position + 1))
      | some lower => decodeFrom (position + 2) (UInt8.ofNat (upper * 16 + lower) :: done) rest

/-- The octets that a text of hexadecimal digits stands for. The length is looked at first. -/
def decode (text : String) : Except Fault Bytes :=
  let octets := Utf8.encode text
  if octets.length % 2 == 1 then .error .oddLength
  else decodeFrom 0 [] octets

end RelayCheck.Text.Hex
