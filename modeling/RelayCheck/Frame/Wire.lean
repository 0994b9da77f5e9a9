import RelayCheck.Frame.Basic

/-!
Frames as octets.

A frame is an octet with the opcode, an octet with the length of the payload or the width of the
length that follows, that length, the mask if there is one, and the payload.
-/

set_option autoImplicit false

namespace RelayCheck.Frame

/-- The longest payload that is written. -/
def maxPayload : Nat := 65535

/-- The longest payload whose length stands in the second octet itself. -/
def maxShort : Nat := 125

/-- The octets of a length in a masked frame, in the shorter of two forms. -/
def maskedLength (length : Nat) : Bytes :=
  if length ≤ maxShort then [0x80 ||| UInt8.ofNat length]
  else (0x80 ||| 126) :: Bytes.ofNat 2 length

/-- A text as a masked frame of its own. -/
def encode (text : String) (mask : Mask) : Except FrameError Bytes :=
  let payload := Text.Utf8.encode text
  if maxPayload < payload.length then .error (.payloadTooLarge payload.length maxPayload)
  else
    .ok ((0x80 ||| Opcode.text.toByte) :: maskedLength payload.length ++ mask.toBytes
      ++ mask.apply payload)

/-- The next `count` octets and what follows them, if there are that many. -/
def split? (count : Nat) (octets : Bytes) : Option (Bytes × Bytes) :=
  let front := octets.take count
  if front.length < count then none else some (front, octets.drop count)

/-- The number of octets of the length after the second octet. -/
def lengthWidth (short : UInt8) : Nat :=
  if short = 126 then 2 else if short = 127 then 8 else 0

/-- The length of a payload, from the second octet and what follows it; then the rest. -/
def readLength? (short : UInt8) (rest : Bytes) : Option (Nat × Bytes) :=
  if short = 126 ∨ short = 127 then
    (split? (lengthWidth short) rest).map fun parts => (parts.1.toNat, parts.2)
  else some (short.toNat, rest)

/-- The mask at the front, if the frame is masked; then the rest. -/
def readMask? (masked : Bool) (rest : Bytes) : Option (Option Mask × Bytes) :=
  if masked then
    match rest with
    | first :: second :: third :: fourth :: rest => some (some ⟨first, second, third, fourth⟩, rest)
    | _ => none
  else some (none, rest)

def unmask : Option Mask → Bytes → Bytes
  | none, octets => octets
  | some mask, octets => mask.apply octets

/-- The frame at the front of some octets, and the octets after it; nothing if it has not arrived
in full. Its opcode is looked at as soon as there are two octets, and its length as soon as it is
known. -/
def read (limit : Nat) : Bytes → Except FrameError (Option (Frame × Bytes))
  | first :: second :: afterHead => do
    let opcode ← Opcode.ofByte (first &&& 0x0F)
    match readLength? (second &&& 0x7F) afterHead with
    | none => return none
    | some (length, afterLength) =>
      if limit < length then .error (.payloadTooLarge length limit)
      else
        match readMask? (second &&& 0x80 != 0) afterLength with
        | none => return none
        | some (mask, afterMask) =>
          match split? length afterMask with
          | none => return none
          | some (payload, rest) =>
            return some (⟨first &&& 0x80 != 0, opcode, mask, unmask mask payload⟩, rest)
  | _ => .ok none

/-- The frame at the front of some octets and how many octets it takes. -/
def decode (limit : Nat) (octets : Bytes) : Except FrameError (Option (Frame × Nat)) := do
  match ← read limit octets with
  | none => return none
  | some (frame, rest) => return some (frame, octets.length - rest.length)

/-- The longest payload that a length of eight octets can announce. -/
def unlimited : Nat := 18446744073709551615

theorem length_le_of_split? {count : Nat} {octets : Bytes} {parts : Bytes × Bytes}
    (found : split? count octets = some parts) : parts.2.length ≤ octets.length := by
  simp only [split?] at found
  split at found
  · simp at found
  · simp only [Option.some.injEq] at found
    simp [← found]

theorem length_le_of_readLength? {short : UInt8} {rest : Bytes} {parts : Nat × Bytes}
    (found : readLength? short rest = some parts) : parts.2.length ≤ rest.length := by
  unfold readLength? at found
  split at found
  · obtain ⟨halves, split, rfl⟩ := Option.map_eq_some_iff.1 found
    exact length_le_of_split? split
  · simp only [Option.some.injEq] at found
    simp [← found]

theorem length_le_of_readMask? {masked : Bool} {rest : Bytes} {parts : Option Mask × Bytes}
    (found : readMask? masked rest = some parts) : parts.2.length ≤ rest.length := by
  unfold readMask? at found
  split at found
  · split at found
    · simp only [Option.some.injEq] at found
      simp only [← found, List.length_cons]
      omega
    · simp at found
  · simp only [Option.some.injEq] at found
    simp [← found]

/-- A frame takes at least its first two octets. -/
theorem length_lt_of_read {limit : Nat} {octets rest : Bytes} {frame : Frame}
    (found : read limit octets = .ok (some (frame, rest))) : rest.length < octets.length := by
  unfold read at found
  split at found
  · next first second afterHead =>
    cases known : Opcode.ofByte (first &&& 0x0F) with
    | error why => simp [known, bind, Except.bind] at found
    | ok opcode =>
      simp only [known, bind, Except.bind] at found
      split at found
      · simp [pure, Except.pure] at found
      · next length afterLength lengthRead =>
        split at found
        · simp at found
        · split at found
          · simp [pure, Except.pure] at found
          · next mask afterMask maskRead =>
            split at found
            · simp [pure, Except.pure] at found
            · next payload after payloadRead =>
              simp only [pure, Except.pure, Except.ok.injEq, Option.some.injEq,
                Prod.mk.injEq] at found
              have lengthShorter := length_le_of_readLength? lengthRead
              have maskShorter := length_le_of_readMask? maskRead
              have payloadShorter := length_le_of_split? payloadRead
              simp only at lengthShorter maskShorter payloadShorter
              simp only [← found.2, List.length_cons]
              omega
  · simp at found

/-- All frames at the front of some octets after those already `done`, last first; then the error
that the next one is, if it is one, and the octets that are left. -/
def readAllFrom (limit : Nat) (done : List Frame) (octets : Bytes) :
    List Frame × Option FrameError × Bytes :=
  match _found : read limit octets with
  | .error why => (done.reverse, some why, octets)
  | .ok none => (done.reverse, none, octets)
  | .ok (some (frame, rest)) => readAllFrom limit (frame :: done) rest
termination_by octets.length
decreasing_by exact length_lt_of_read _found

/-- All frames at the front of some octets, the error that the next one is, if it is one, and the
octets that are left. -/
def readAll (limit : Nat) (octets : Bytes) : List Frame × Option FrameError × Bytes :=
  readAllFrom limit [] octets

end RelayCheck.Frame
