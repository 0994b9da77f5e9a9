import RelayCheck.Frame.Wire
import RelayCheck.Proofs.Frame.Masking
import RelayCheck.Proofs.Text.Utf8

/-!
Frames come back from what is written for them.

What is written is a head, a length in one of two forms, a mask and a masked payload. Each part is
taken off by its reader, whatever follows, so a frame in front of others is read as well.
-/

set_option autoImplicit false

namespace RelayCheck

namespace Bytes

/-- A number that two octets hold is read from the two octets it is written in. -/
theorem toNat_ofNat_two {number : Nat} (small : number < 65536) :
    toNat (ofNat 2 number) = number := by
  simp only [ofNat, toNat_append_singleton, UInt8.toNat_ofNat']
  have low : number / 256 % 256 = number / 256 := Nat.mod_eq_of_lt (by omega)
  show (0 * 256 + number / 256 % 256) * 256 + number % 256 = number
  omega

end Bytes

namespace Frame

theorem split?_append (front rest : Bytes) :
    split? front.length (front ++ rest) = some (front, rest) := by
  simp [split?]

theorem readMask?_append (mask : Mask) (rest : Bytes) :
    readMask? true (mask.toBytes ++ rest) = some (some mask, rest) := rfl

theorem shortOctet {length : Nat} (short : length < 126) :
    (0x80 ||| UInt8.ofNat length) &&& 0x7F = UInt8.ofNat length ∧
      ((0x80 ||| UInt8.ofNat length) &&& 0x80 != 0) = true ∧
      (UInt8.ofNat length).toNat = length ∧
      ¬ (UInt8.ofNat length = 126 ∨ UInt8.ofNat length = 127) := by
  revert length
  decide

/-- A length that was written is read, and it says that a mask follows. -/
theorem readLength?_maskedLength {length : Nat} (bounded : length ≤ maxPayload) (rest : Bytes) :
    ∃ second others, maskedLength length ++ rest = second :: others ∧
      (second &&& 0x80 != 0) = true ∧
      readLength? (second &&& 0x7F) others = some (length, rest) := by
  unfold maskedLength
  split
  · next short =>
    obtain ⟨bits, masked, value, plain⟩ := shortOctet (Nat.lt_succ_of_le short)
    refine ⟨_, _, rfl, masked, ?_⟩
    rw [bits, readLength?, if_neg plain, value]
    rfl
  · refine ⟨_, _, rfl, by decide, ?_⟩
    have front : split? 2 (Bytes.ofNat 2 length ++ rest) = some (Bytes.ofNat 2 length, rest) := by
      have found := split?_append (Bytes.ofNat 2 length) rest
      rwa [Bytes.length_ofNat] at found
    have value := Bytes.toNat_ofNat_two (Nat.lt_succ_of_le bounded)
    have wide : (0x80 ||| 126 : UInt8) &&& 0x7F = 126 := rfl
    rw [wide, readLength?, if_pos (.inl rfl)]
    show (split? 2 (Bytes.ofNat 2 length ++ rest)).map _ = _
    rw [front, Option.map_some, value]

/-- The frame that a text is written as. -/
def ofText (text : String) (mask : Mask) : Frame :=
  ⟨true, .text, some mask, Text.Utf8.encode text⟩

@[simp]
theorem text_ofText (text : String) (mask : Mask) : (ofText text mask).text = .ok text := by
  simp [ofText, Frame.text]

def Fits (text : String) : Prop :=
  (Text.Utf8.encode text).length ≤ maxPayload

theorem encode_of_fits {text : String} (fits : Fits text) (mask : Mask) :
    encode text mask =
      .ok ((0x80 ||| Opcode.text.toByte) :: maskedLength (Text.Utf8.encode text).length
        ++ mask.toBytes ++ mask.apply (Text.Utf8.encode text)) :=
  if_neg (Nat.not_lt.2 fits)

theorem encode_of_not_fits {text : String} (long : ¬ Fits text) (mask : Mask) :
    encode text mask = .error (.payloadTooLarge (Text.Utf8.encode text).length maxPayload) :=
  if_pos (Nat.not_le.1 long)

theorem fits_of_encode {text : String} {mask : Mask} {octets : Bytes}
    (written : encode text mask = .ok octets) : Fits text := by
  by_cases fits : Fits text
  · exact fits
  · exact nomatch (encode_of_not_fits fits mask).symm.trans written

/-- A text that has been written is read as a frame of its own, and what follows it is left. -/
theorem read_encode {limit : Nat} {text : String} {mask : Mask} {octets : Bytes}
    (written : encode text mask = .ok octets) (allowed : maxPayload ≤ limit) (rest : Bytes) :
    read limit (octets ++ rest) = .ok (some (ofText text mask, rest)) := by
  have fits := fits_of_encode written
  obtain rfl := Except.ok.inj ((encode_of_fits fits mask).symm.trans written)
  obtain ⟨second, others, front, masked, length⟩ := readLength?_maskedLength fits
    (mask.toBytes ++ (mask.apply (Text.Utf8.encode text) ++ rest))
  have payload := split?_append (mask.apply (Text.Utf8.encode text)) rest
  have opcode : Opcode.ofByte ((0x80 ||| Opcode.text.toByte) &&& 0x0F) = .ok .text := rfl
  have within : ¬ limit < (Text.Utf8.encode text).length :=
    Nat.not_lt.2 (Nat.le_trans fits allowed)
  rw [Mask.length_apply] at payload
  simp only [List.cons_append, List.append_assoc, front, read, opcode, bind, Except.bind, length,
    masked, readMask?_append, payload, unmask, Mask.apply_apply, within, ↓reduceIte]
  rfl

theorem decode_encode {limit : Nat} {text : String} {mask : Mask} {octets : Bytes}
    (written : encode text mask = .ok octets) (allowed : maxPayload ≤ limit) (rest : Bytes) :
    decode limit (octets ++ rest) = .ok (some (ofText text mask, octets.length)) := by
  rw [decode, read_encode written allowed]
  simp [bind, Except.bind, pure, Except.pure]

theorem length_drop_lt_of_decode {limit used : Nat} {octets : Bytes} {frame : Frame}
    (found : decode limit octets = .ok (some (frame, used))) :
    (octets.drop used).length < octets.length := by
  rw [decode] at found
  cases reading : read limit octets with
  | error why => rw [reading] at found; cases found
  | ok parts =>
    rw [reading] at found
    cases parts with
    | none => cases found
    | some parts =>
      have shorter := length_lt_of_read reading
      obtain ⟨-, rfl⟩ := Prod.mk.inj (Option.some.inj (Except.ok.inj found))
      rw [List.length_drop]
      omega

end Frame

end RelayCheck
