import RelayCheck.Frame.Wire
import RelayCheck.Message.Relay
import RelayCheck.Probe.Error

/-!
What comes back from a relay.
-/

set_option autoImplicit false

namespace RelayCheck.Probe

open Message (RelayMessage)

/-- The longest payload that is accepted from a relay. -/
def maxReplyPayload : Nat := 1048576

inductive Reply
  | message (content : RelayMessage)
  | raw (opcode : Frame.Opcode) (payload : Bytes)
deriving DecidableEq

namespace Reply

/-- The message in a frame, if it is a text frame and holds one. -/
def messageOf? (frame : Frame) : Option RelayMessage :=
  match frame.opcode, frame.text with
  | .text, .ok text => (RelayMessage.ofText text).toOption
  | _, _ => none

def ofFrame (frame : Frame) : Reply :=
  match messageOf? frame with
  | some content => .message content
  | none => .raw frame.opcode frame.payload

/-- The replies at the front of a buffer, and what is left of it. If a frame is refused there are
none, and the buffer is to be kept as it is. -/
def drain (buffer : Bytes) : Except ProbeError (List Reply × Bytes) :=
  match Frame.readAll maxReplyPayload buffer with
  | (_, some why, _) => .error (.protocol why.message)
  | (frames, none, rest) => .ok (frames.map ofFrame, rest)

/-- Drains a buffer of which the octets `ahead` are still to be looked at, after the replies already
`done`, last first. What has been looked at is cut off only once there is no further frame, so all
of the buffer is left if a frame is refused. -/
def drainFrom (buffer ahead : Bytes) (done : List Reply) :
    Except ProbeError (List Reply) × Bytes :=
  match _found : Frame.read maxReplyPayload ahead with
  | .error why => (.error (.protocol why.message), buffer)
  | .ok none => (.ok done.reverse, ahead)
  | .ok (some (frame, rest)) => drainFrom buffer rest (ofFrame frame :: done)
termination_by ahead.length
decreasing_by exact Frame.length_lt_of_read _found

/-- The replies at the front of a buffer, or why there are none, and the buffer as it is left. -/
def drainBuffer (buffer : Bytes) : Except ProbeError (List Reply) × Bytes :=
  drainFrom buffer buffer []

end Reply

end RelayCheck.Probe
