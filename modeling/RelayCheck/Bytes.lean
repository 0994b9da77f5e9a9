/-!
Runs of octets, and numbers written with the most significant octet first.
-/

set_option autoImplicit false

namespace RelayCheck

/-- A run of octets, first octet first. -/
abbrev Bytes := List UInt8

namespace Bytes

/-- A number in exactly `width` octets, most significant first; what does not fit is dropped. -/
def ofNat : Nat → Nat → Bytes
  | 0, _ => []
  | width + 1, number => ofNat width (number / 256) ++ [UInt8.ofNat number]

/-- The number that some octets stand for, most significant first. -/
def toNat (bytes : Bytes) : Nat :=
  bytes.foldl (fun number octet => number * 256 + octet.toNat) 0

@[simp]
theorem length_ofNat (width number : Nat) : (ofNat width number).length = width := by
  induction width generalizing number with
  | zero => rfl
  | succ width inductionHypothesis => simp [ofNat, inductionHypothesis]

@[simp]
theorem toNat_append_singleton (bytes : Bytes) (octet : UInt8) :
    toNat (bytes ++ [octet]) = toNat bytes * 256 + octet.toNat := by
  simp [toNat]

end Bytes

end RelayCheck
