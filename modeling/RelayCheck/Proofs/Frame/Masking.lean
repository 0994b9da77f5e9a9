import Mathlib.Data.List.Rotate
import RelayCheck.Frame.Basic

/-!
Masking.

Each octet of a payload is combined with the octet of the mask for its position, and the mask starts
anew after four positions. So what stands behind a part of a payload is masked like a payload of its
own, by the mask turned as far as that part reaches. Two masks one after the other act as one mask,
and a mask undoes itself.
-/

set_option autoImplicit false

namespace RelayCheck.Frame.Mask

/-- Two masks combined octet by octet. -/
instance : XorOp Mask where
  xor mask other :=
    ⟨mask.first ^^^ other.first, mask.second ^^^ other.second, mask.third ^^^ other.third,
      mask.fourth ^^^ other.fourth⟩

def clear : Mask :=
  ⟨0, 0, 0, 0⟩

/-- The mask after its first octet has been moved to the end `count` times. -/
def rotateLeft : Mask → Nat → Mask
  | mask, 0 => mask
  | ⟨first, second, third, fourth⟩, count + 1 => rotateLeft ⟨second, third, fourth, first⟩ count

theorem toBytes_inj {mask other : Mask} : mask.toBytes = other.toBytes ↔ mask = other := by
  constructor
  · intro same
    obtain ⟨first, second, third, fourth⟩ := mask
    simp only [toBytes, List.cons.injEq, and_true] at same
    obtain ⟨rfl, rfl, rfl, rfl⟩ := same
    rfl
  · intro same
    rw [same]

theorem getD_toBytes (mask : Mask) (position : Nat) :
    mask.toBytes.getD (position % 4) 0 = mask.octet position := by
  have bound := Nat.mod_lt position (by decide : 4 > 0)
  unfold Mask.octet
  match position % 4, bound with
  | 0, _ | 1, _ | 2, _ | 3, _ => rfl

/-! ## Turned masks -/

theorem toBytes_rotateLeft (mask : Mask) (count : Nat) :
    (mask.rotateLeft count).toBytes = mask.toBytes.rotate count := by
  -- Each turn hands on another mask, so the mask is not fixed along the way.
  induction count generalizing mask with
  | zero => exact (List.rotate_zero _).symm
  | succ count ih =>
    rw [rotateLeft, ih, toBytes, toBytes, List.rotate_cons_succ]
    rfl

theorem rotateLeft_mod (mask : Mask) (count : Nat) :
    mask.rotateLeft (count % 4) = mask.rotateLeft count := by
  rw [← toBytes_inj, toBytes_rotateLeft, toBytes_rotateLeft]
  exact List.rotate_mod mask.toBytes count

example : (⟨1, 2, 3, 4⟩ : Mask).rotateLeft 6 = ⟨3, 4, 1, 2⟩ := rfl

theorem octet_rotateLeft (mask : Mask) (count position : Nat) :
    (mask.rotateLeft count).octet position = mask.octet (position + count) := by
  have bound : position % 4 < mask.toBytes.length := Nat.mod_lt position (by decide)
  have length : mask.toBytes.length = 4 := rfl
  rw [← getD_toBytes, ← getD_toBytes, toBytes_rotateLeft, List.getD_eq_getElem?_getD,
    List.getElem?_rotate bound, length, Nat.mod_add_mod, List.getD_eq_getElem?_getD]

/-! ## Combined masks -/

theorem octet_xor (mask other : Mask) (position : Nat) :
    (mask ^^^ other).octet position = mask.octet position ^^^ other.octet position := by
  unfold octet
  match position % 4 with
  | 0 | 1 | 2 | _ + 3 => rfl

theorem octet_clear (position : Nat) : clear.octet position = 0 := by
  unfold octet
  match position % 4 with
  | 0 | 1 | 2 | _ + 3 => rfl

theorem xor_self (mask : Mask) : mask ^^^ mask = clear := by
  show Mask.mk _ _ _ _ = _
  rw [UInt8.xor_self, UInt8.xor_self, UInt8.xor_self, UInt8.xor_self]
  rfl

/-! ## Masked octets -/

theorem getElem?_apply (mask : Mask) (octets : Bytes) (position : Nat) :
    (mask.apply octets)[position]? = octets[position]?.map (· ^^^ mask.octet position) :=
  List.getElem?_mapIdx

theorem apply_append (mask : Mask) (leading following : Bytes) :
    mask.apply (leading ++ following) =
      mask.apply leading ++ (mask.rotateLeft leading.length).apply following := by
  simp only [apply, List.mapIdx_append, octet_rotateLeft]

theorem apply_xor (mask other : Mask) (octets : Bytes) :
    (mask ^^^ other).apply octets = other.apply (mask.apply octets) := by
  simp only [apply, List.mapIdx_mapIdx, Function.comp_def, octet_xor, UInt8.xor_assoc]

theorem apply_clear (octets : Bytes) : clear.apply octets = octets := by
  apply List.ext_getElem?
  intro position
  rw [getElem?_apply, octet_clear]
  simp

@[simp]
theorem apply_apply (mask : Mask) (octets : Bytes) : mask.apply (mask.apply octets) = octets := by
  rw [← apply_xor, xor_self, apply_clear]

/-- How masking acts: octet by octet, in parts, and with several masks. -/
theorem apply_laws (mask other : Mask) (octets leading following : Bytes) :
    (mask.apply octets).length = octets.length ∧
      mask.apply (mask.apply octets) = octets ∧
      mask.apply (leading ++ following) =
        mask.apply leading ++ (mask.rotateLeft (leading.length % 4)).apply following ∧
      other.apply (mask.apply octets) = (mask ^^^ other).apply octets ∧
      ∀ position : Nat, (mask.apply octets)[position]? =
        octets[position]?.map (· ^^^ mask.toBytes.getD (position % 4) 0) := by
  refine ⟨mask.length_apply octets, mask.apply_apply octets, ?parts, ?both, ?positions⟩
  case parts => rw [rotateLeft_mod, apply_append]
  case both => rw [apply_xor]
  case positions =>
    intro position
    rw [getElem?_apply, getD_toBytes]

end RelayCheck.Frame.Mask
