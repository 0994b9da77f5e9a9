import RelayCheck.Text.Utf8

/-!
WebSocket frames.
-/

set_option autoImplicit false

namespace RelayCheck.Frame

inductive FrameError
  | payloadTooLarge (length limit : Nat)
  | reservedOpcode (value : UInt8)
  | invalidUtf8
deriving DecidableEq, Repr

/-- The wording of an error. Opcodes are given in hexadecimal. -/
def FrameError.message : FrameError → String
  | .payloadTooLarge length limit =>
    s!"Payload of {length} bytes exceeds the {limit} byte frame limit"
  | .reservedOpcode value => "Reserved opcode: 0x" ++ String.ofList (Nat.toDigits 16 value.toNat)
  | .invalidUtf8 => "Text frame is not valid UTF-8"

inductive Opcode
  | continuation
  | text
  | binary
  | close
  | ping
  | pong
deriving DecidableEq, Repr

namespace Opcode

def toByte : Opcode → UInt8
  | .continuation => 0
  | .text => 1
  | .binary => 2
  | .close => 8
  | .ping => 9
  | .pong => 10

def ofByte (value : UInt8) : Except FrameError Opcode :=
  if value = 0 then .ok .continuation
  else if value = 1 then .ok .text
  else if value = 2 then .ok .binary
  else if value = 8 then .ok .close
  else if value = 9 then .ok .ping
  else if value = 10 then .ok .pong
  else .error (.reservedOpcode value)

@[simp]
theorem ofByte_toByte (opcode : Opcode) : ofByte opcode.toByte = .ok opcode := by
  cases opcode <;> rfl

end Opcode

/-- The four octets with which a payload is masked. -/
structure Mask where
  first : UInt8
  second : UInt8
  third : UInt8
  fourth : UInt8
deriving DecidableEq, Repr

namespace Mask

def toBytes (mask : Mask) : Bytes :=
  [mask.first, mask.second, mask.third, mask.fourth]

/-- The octet of a mask for a position in the payload. -/
def octet (mask : Mask) (position : Nat) : UInt8 :=
  match position % 4 with
  | 0 => mask.first
  | 1 => mask.second
  | 2 => mask.third
  | _ => mask.fourth

/-- Some octets, each combined with the octet of the mask for its position. -/
def apply (mask : Mask) (octets : Bytes) : Bytes :=
  octets.mapIdx fun position octet => octet ^^^ mask.octet position

@[simp]
theorem length_apply (mask : Mask) (octets : Bytes) :
    (mask.apply octets).length = octets.length := by
  simp [apply]

end Mask

end RelayCheck.Frame

namespace RelayCheck

/-- A frame with its payload as it was before masking. -/
structure Frame where
  /-- Whether the frame is the last one of its message. -/
  fin : Bool
  opcode : Frame.Opcode
  mask : Option Frame.Mask
  payload : Bytes
deriving DecidableEq, Repr

def Frame.text (frame : Frame) : Except Frame.FrameError String :=
  match Text.Utf8.decode? frame.payload with
  | some text => .ok text
  | none => .error .invalidUtf8

end RelayCheck
