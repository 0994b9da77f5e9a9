import Mathlib.Data.Nat.Bitwise
import RelayCheck.Proofs.Frame.Feed

/-!
The wire format of frames, and the octets that are taken for one.

The format is told by the numbers that the octets stand for. A frame is found exactly where the
front of some octets has this format and the payload is within the limit. An opcode that is reserved
and a length beyond the limit are refused as soon as they are there, and everything else is still
incomplete.
-/

set_option autoImplicit false

namespace RelayCheck

theorem Bytes.toNat_lt (bytes : Bytes) : bytes.toNat < 256 ^ bytes.length := by
  induction bytes using List.reverseRecOn with
  | nil => decide
  | append_singleton bytes octet ih =>
    have small := octet.toNat_lt
    rw [toNat_append_singleton, List.length_append, List.length_singleton, Nat.pow_succ]
    omega

namespace Frame

/-! ## The format -/

/-- The code in the second octet and the field behind it give the length of a payload. A longer form
than needed is no fault. -/
inductive LengthField : Nat → Bytes → Nat → Prop
  | code {length : Nat} (short : length ≤ 125) : LengthField length [] length
  | two {field : Bytes} (width : field.length = 2) : LengthField 126 field field.toNat
  | eight {field : Bytes} (width : field.length = 8) : LengthField 127 field field.toNat

/-- The octets of a payload as they are sent. -/
def carried : Option Mask → Bytes → Bytes
  | none, payload => payload
  | some mask, payload =>
    payload.mapIdx fun position octet => octet ^^^ mask.toBytes.getD (position % 4) 0

/-- The octets are the frame and nothing else. The three bits between the highest one of the first
octet and the opcode are free. -/
inductive Format : Bytes → Frame → Prop
  | intro {first second : UInt8} {field : Bytes} {frame : Frame}
      (fin : first.toNat / 128 = frame.fin.toNat)
      (opcode : first.toNat % 16 = frame.opcode.toByte.toNat)
      (masked : second.toNat / 128 = frame.mask.isSome.toNat)
      (length : LengthField (second.toNat % 128) field frame.payload.length) :
      Format
        (first :: second :: (field ++ maskField frame.mask ++ carried frame.mask frame.payload))
        frame

/-- A frame within the limit takes the first `used` of the octets. -/
def Present (limit : Nat) (octets : Bytes) (frame : Frame) (used : Nat) : Prop :=
  used ≤ octets.length ∧ Format (octets.take used) frame ∧ frame.payload.length ≤ limit

/-- The first two octets are there, and the low half of the first one is no opcode. -/
def Reserved (octets : Bytes) (value : UInt8) : Prop :=
  ∃ first second rest, octets = first :: second :: rest ∧ value.toNat = first.toNat % 16 ∧
    ∀ opcode : Opcode, opcode.toByte ≠ value

/-- A payload of this length, which is over the limit, has been announced. -/
def Overlong (limit : Nat) (octets : Bytes) (length : Nat) : Prop :=
  limit < length ∧ ∃ first second field rest, octets = first :: second :: (field ++ rest) ∧
    (∃ opcode : Opcode, first.toNat % 16 = opcode.toByte.toNat) ∧
    LengthField (second.toNat % 128) field length

/-! ## Bits of an octet -/

theorem toNat_and_low (octet : UInt8) : (octet &&& 0x0F).toNat = octet.toNat % 16 := by
  rw [UInt8.toNat_and]
  exact Nat.and_two_pow_sub_one_eq_mod _ 4

theorem toNat_and_code (octet : UInt8) : (octet &&& 0x7F).toNat = octet.toNat % 128 := by
  rw [UInt8.toNat_and]
  exact Nat.and_two_pow_sub_one_eq_mod _ 7

theorem toNat_code_lt (octet : UInt8) : (octet &&& 0x7F).toNat < 128 := by
  rw [toNat_and_code]
  exact Nat.mod_lt _ (by decide)

theorem topBit_eq_iff (octet : UInt8) (bit : Bool) :
    (octet &&& 0x80 != 0) = bit ↔ octet.toNat / 128 = bit.toNat := by
  have each : ∀ value < 256, (UInt8.ofNat value &&& 0x80 != 0) = decide (128 ≤ value) := by
    decide +kernel
  have top := each octet.toNat octet.toNat_lt
  rw [UInt8.ofNat_toNat] at top
  have small := octet.toNat_lt
  rw [top]
  cases bit with
  | true =>
    rw [decide_eq_true_iff, Bool.toNat_true]
    omega
  | false =>
    rw [decide_eq_false_iff_not, Bool.toNat_false]
    omega

theorem Opcode.ofByte_eq_ok_iff {value : UInt8} {opcode : Opcode} :
    Opcode.ofByte value = .ok opcode ↔ value = opcode.toByte := by
  constructor
  · intro known
    unfold Opcode.ofByte at known
    split_ifs at known
    all_goals
      cases known
      assumption
  · intro same
    rw [same]
    exact Opcode.ofByte_toByte opcode

theorem Opcode.ofByte_eq_error_iff {value : UInt8} {why : FrameError} :
    Opcode.ofByte value = .error why ↔
      why = .reservedOpcode value ∧ ∀ opcode : Opcode, opcode.toByte ≠ value := by
  have reason : ∀ other, Opcode.ofByte value = .error other → other = .reservedOpcode value := by
    intro other unknown
    unfold Opcode.ofByte at unknown
    split_ifs at unknown
    cases unknown
    rfl
  constructor
  · intro unknown
    refine ⟨reason why unknown, fun opcode same => ?_⟩
    cases (Opcode.ofByte_eq_ok_iff.2 same.symm).symm.trans unknown
  · intro ⟨same, reserved⟩
    cases known : Opcode.ofByte value with
    | ok opcode => exact absurd (Opcode.ofByte_eq_ok_iff.1 known).symm (reserved opcode)
    | error other => rw [same, reason other known]

/-! ## The parts that are read -/

theorem lengthWidth_of_small {short : UInt8} (small : short.toNat ≤ 125) :
    lengthWidth short = 0 := by
  rw [lengthWidth, if_neg, if_neg]
  all_goals
    intro same
    rw [same] at small
    exact absurd small (by decide)

theorem lengthOf_of_small {short : UInt8} (small : short.toNat ≤ 125) (field : Bytes) :
    lengthOf short field = short.toNat := by
  rw [lengthOf, if_neg]
  intro wide
  rcases wide with same | same
  all_goals
    rw [same] at small
    exact absurd small (by decide)

theorem lengthField_iff {short : UInt8} (code : short.toNat < 128) {field : Bytes} {length : Nat} :
    LengthField short.toNat field length ↔
      field.length = lengthWidth short ∧ lengthOf short field = length := by
  constructor
  · intro announced
    generalize same : short.toNat = value at announced
    cases announced with
    | code small =>
      rw [← same] at small
      rw [lengthWidth_of_small small, lengthOf_of_small small, same]
      exact ⟨rfl, rfl⟩
    | two width =>
      obtain rfl : short = 126 := UInt8.toNat_inj.1 same
      exact ⟨width, rfl⟩
    | eight width =>
      obtain rfl : short = 127 := UInt8.toNat_inj.1 same
      exact ⟨width, rfl⟩
  · intro ⟨width, same⟩
    rw [← same]
    by_cases small : short.toNat ≤ 125
    · rw [lengthWidth_of_small small, List.length_eq_zero_iff] at width
      rw [width, lengthOf_of_small small]
      exact .code small
    · by_cases two : short.toNat = 126
      · obtain rfl : short = 126 := UInt8.toNat_inj.1 two
        exact .two width
      · have eight : short.toNat = 127 := by omega
        obtain rfl : short = 127 := UInt8.toNat_inj.1 eight
        exact .eight width

theorem carried_eq_unmask (mask : Option Mask) (payload : Bytes) :
    carried mask payload = unmask mask payload := by
  cases mask with
  | none => rfl
  | some mask => simp only [carried, unmask, Mask.apply, Mask.getD_toBytes]

theorem unmask_unmask (mask : Option Mask) (octets : Bytes) :
    unmask mask (unmask mask octets) = octets := by
  cases mask with
  | none => rfl
  | some mask => exact mask.apply_apply octets

theorem length_unmask (mask : Option Mask) (octets : Bytes) :
    (unmask mask octets).length = octets.length := by
  cases mask with
  | none => rfl
  | some mask => exact mask.length_apply octets

/-- Parts that are read one after the other are a frame in the format with a payload within the
limit. -/
theorem complete_iff {limit : Nat} {wire : Bytes} {frame : Frame} :
    Complete limit wire frame ↔ Format wire frame ∧ frame.payload.length ≤ limit := by
  constructor
  · intro complete
    cases complete with
    | @parts first second opcode field sent mask known width within masked size =>
      have low := Opcode.ofByte_eq_ok_iff.1 known
      have length := (lengthField_iff (toNat_code_lt second)).2 ⟨width, size.symm⟩
      rw [toNat_and_code] at length
      have format := @Format.intro first second field
        ⟨first &&& 0x80 != 0, opcode, mask, unmask mask sent⟩
        ((topBit_eq_iff first _).1 rfl) ((toNat_and_low first).symm.trans (congrArg _ low))
        ((topBit_eq_iff second _).1 masked) (by rw [length_unmask]; exact length)
      rw [carried_eq_unmask, unmask_unmask] at format
      refine ⟨format, ?_⟩
      rw [length_unmask, size]
      exact within
  · intro ⟨format, within⟩
    cases format with
    | @intro first second field _ fin opcode masked length =>
      have known : Opcode.ofByte (first &&& 0x0F) = .ok frame.opcode :=
        Opcode.ofByte_eq_ok_iff.2 (UInt8.toNat_inj.1 ((toNat_and_low first).trans opcode))
      rw [← toNat_and_code, lengthField_iff (toNat_code_lt second)] at length
      have size : (unmask frame.mask frame.payload).length = lengthOf (second &&& 0x7F) field := by
        rw [length_unmask, length.2]
      have complete := Complete.parts known length.1 (length.2 ▸ within)
        ((topBit_eq_iff second _).2 masked) size
      rw [unmask_unmask, (topBit_eq_iff first _).2 fin, ← carried_eq_unmask] at complete
      exact complete

/-! ## What is found -/

theorem present_iff {limit used : Nat} {octets : Bytes} {frame : Frame} :
    decode limit octets = .ok (some (frame, used)) ↔ Present limit octets frame used := by
  constructor
  · intro found
    obtain ⟨wire, rest, rfl, rfl, complete⟩ := complete_of_decode found
    refine ⟨by rw [List.length_append]; omega, ?_⟩
    rw [List.take_left]
    exact complete_iff.1 complete
  · intro ⟨enough, format, within⟩
    have found := decode_of_complete (complete_iff.2 ⟨format, within⟩) (octets.drop used)
    rw [List.take_append_drop, List.length_take, Nat.min_eq_left enough] at found
    exact found

theorem refused_iff {limit : Nat} {octets : Bytes} {why : FrameError} :
    decode limit octets = .error why ↔ Refused limit octets why := by
  constructor
  · exact refused_of_decode
  · exact decode_of_refused

theorem reserved_iff {limit : Nat} {octets : Bytes} {value : UInt8} :
    decode limit octets = .error (.reservedOpcode value) ↔ Reserved octets value := by
  rw [refused_iff]
  constructor
  · intro refused
    generalize same : FrameError.reservedOpcode value = why at refused
    cases refused with
    | @opcode first second rest _ unknown =>
      obtain ⟨rfl, unlike⟩ := Opcode.ofByte_eq_error_iff.1 unknown
      cases same
      exact ⟨first, second, rest, rfl, toNat_and_low first, unlike⟩
    | length => cases same
  · intro ⟨first, second, rest, split, low, unlike⟩
    obtain rfl : value = first &&& 0x0F := UInt8.toNat_inj.1 (low.trans (toNat_and_low first).symm)
    rw [split]
    exact .opcode (Opcode.ofByte_eq_error_iff.2 ⟨rfl, unlike⟩)

theorem overlong_iff {limit length bound : Nat} {octets : Bytes} :
    decode limit octets = .error (.payloadTooLarge length bound) ↔
      bound = limit ∧ Overlong limit octets length := by
  rw [refused_iff]
  constructor
  · intro refused
    generalize same : FrameError.payloadTooLarge length bound = why at refused
    cases refused with
    | opcode unknown => cases same.trans (Opcode.ofByte_eq_error_iff.1 unknown).1
    | @length first second opcode field rest known width long =>
      cases same
      have low := Opcode.ofByte_eq_ok_iff.1 known
      have announced := (lengthField_iff (toNat_code_lt second)).2 ⟨width, rfl⟩
      rw [toNat_and_code] at announced
      refine ⟨rfl, long, first, second, field, rest, rfl, ⟨opcode, ?_⟩, announced⟩
      rw [← toNat_and_low, low]
  · intro ⟨same, long, first, second, field, rest, split, ⟨opcode, low⟩, announced⟩
    have known : Opcode.ofByte (first &&& 0x0F) = .ok opcode :=
      Opcode.ofByte_eq_ok_iff.2 (UInt8.toNat_inj.1 ((toNat_and_low first).trans low))
    rw [← toNat_and_code, lengthField_iff (toNat_code_lt second)] at announced
    obtain ⟨width, rfl⟩ := announced
    rw [same, split]
    exact .length known width long

theorem decode_ne_invalidUtf8 (limit : Nat) (octets : Bytes) :
    decode limit octets ≠ .error .invalidUtf8 := by
  intro failed
  have refused := refused_of_decode failed
  generalize same : FrameError.invalidUtf8 = why at refused
  cases refused with
  | opcode unknown => cases same.trans (Opcode.ofByte_eq_error_iff.1 unknown).1
  | length => cases same

theorem LengthField.length_le {code length : Nat} {field : Bytes}
    (announced : LengthField code field length) : length ≤ unlimited := by
  cases announced with
  | code short => exact Nat.le_trans short (by decide)
  | two width =>
    have bound := Bytes.toNat_lt field
    rw [width] at bound
    exact Nat.le_trans (Nat.le_of_lt_succ bound) (by decide)
  | eight width =>
    have bound := Bytes.toNat_lt field
    rw [width] at bound
    exact Nat.le_of_lt_succ bound

/-- The decoder takes a frame exactly where the wire format has one within the limit, and says how
many octets it is. It refuses a reserved opcode once there are two octets, and a length over the
limit once its field is there, whatever follows. In all other cases it waits. Where the limit is the
greatest length that eight octets announce, it refuses none. -/
theorem decode_settles (limit : Nat) (octets : Bytes) :
    (∀ frame used, decode limit octets = .ok (some (frame, used)) ↔
      Present limit octets frame used) ∧
    (∀ value, decode limit octets = .error (.reservedOpcode value) ↔ Reserved octets value) ∧
    (∀ length bound, decode limit octets = .error (.payloadTooLarge length bound) ↔
      bound = limit ∧ Overlong limit octets length) ∧
    (decode limit octets = .ok none ↔ (∀ frame used, ¬ Present limit octets frame used) ∧
      (∀ value, ¬ Reserved octets value) ∧ ∀ length, ¬ Overlong limit octets length) ∧
    unlimited = 2 ^ 64 - 1 ∧ ∀ length, ¬ Overlong unlimited octets length := by
  refine ⟨fun _ _ => present_iff, fun _ => reserved_iff, fun _ _ => overlong_iff, ?missing, rfl,
    ?wide⟩
  case missing =>
    constructor
    · intro missing
      refine ⟨fun frame used present => ?_, fun value reserved => ?_, fun length overlong => ?_⟩
      · cases missing.symm.trans (present_iff.2 present)
      · cases missing.symm.trans (reserved_iff.2 reserved)
      · cases missing.symm.trans (overlong_iff.2 ⟨rfl, overlong⟩)
    · intro ⟨absent, unreserved, short⟩
      match found : decode limit octets with
      | .ok none => rfl
      | .ok (some (frame, used)) => exact absurd (present_iff.1 found) (absent frame used)
      | .error (.reservedOpcode value) => exact absurd (reserved_iff.1 found) (unreserved value)
      | .error (.payloadTooLarge length bound) =>
        exact absurd (overlong_iff.1 found).2 (short length)
      | .error .invalidUtf8 => exact absurd found (decode_ne_invalidUtf8 limit octets)
  case wide =>
    intro length overlong
    obtain ⟨long, _, _, _, _, _, _, announced⟩ := overlong
    exact absurd announced.length_le (Nat.not_le.2 long)

end Frame

end RelayCheck
