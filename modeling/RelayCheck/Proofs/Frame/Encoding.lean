import RelayCheck.Proofs.Frame.Format
import RelayCheck.Proofs.Frame.Sequence

/-!
What is written for a text is one of the frames that are read as it.

Frames with one text and one mask can differ in the free bits of the first octet and in the form of
the length. The writer sets none of the former and takes the shortest of the latter.
-/

set_option autoImplicit false

namespace RelayCheck

theorem Bytes.ofNat_toNat_two {field : Bytes} (width : field.length = 2) :
    Bytes.ofNat 2 field.toNat = field := by
  match field, width with
  | [high, low], _ =>
    have highBound := high.toNat_lt
    have lowBound := low.toNat_lt
    have value : Bytes.toNat [high, low] = high.toNat * 256 + low.toNat := by
      simp [Bytes.toNat]
    have first : (high.toNat * 256 + low.toNat) / 256 = high.toNat := by omega
    have second : UInt8.ofNat (high.toNat * 256 + low.toNat) = low := by
      rw [← UInt8.toNat_inj, UInt8.toNat_ofNat']
      omega
    rw [value, Bytes.ofNat, Bytes.ofNat, Bytes.ofNat, first, second, UInt8.ofNat_toNat]
    rfl

namespace Frame

/-- The code of the shortest form of a length that two octets hold. -/
def shortestCode (length : Nat) : Nat :=
  if length ≤ 125 then length else 126

theorem toNat_or_top {length : Nat} (short : length ≤ 125) :
    (0x80 ||| UInt8.ofNat length).toNat = 128 + length := by
  have each : ∀ value < 126, (0x80 ||| UInt8.ofNat value).toNat = 128 + value := by decide
  exact each length (Nat.lt_succ_of_le short)

theorem cons_eq_maskedLength_iff {second : UInt8} {field : Bytes} {length : Nat}
    (masked : second.toNat / 128 = 1) (announced : LengthField (second.toNat % 128) field length) :
    second :: field = maskedLength length ↔ second.toNat % 128 = shortestCode length := by
  unfold maskedLength shortestCode maxShort
  by_cases short : length ≤ 125
  · rw [if_pos short, if_pos short]
    constructor
    · intro same
      rw [(List.cons.inj same).1, toNat_or_top short]
      omega
    · intro code
      have octet : second = 0x80 ||| UInt8.ofNat length := by
        rw [← UInt8.toNat_inj, toNat_or_top short]
        omega
      generalize second.toNat % 128 = value at announced code
      cases announced with
      | code => rw [octet]
      | two | eight => omega
  · rw [if_neg short, if_neg short]
    constructor
    · intro same
      rw [(List.cons.inj same).1]
      rfl
    · intro code
      have octet : second = 0x80 ||| 126 := by
        rw [← UInt8.toNat_inj]
        show second.toNat = 254
        omega
      generalize second.toNat % 128 = value at announced code
      cases announced with
      | code | eight => omega
      | two width => rw [octet, Bytes.ofNat_toNat_two width]

/-- The octets of a frame are written for its text exactly if the first one is nothing but the bit
for the last frame and the opcode, and the length has its shortest form. -/
theorem encode_eq_ok_iff {wire : Bytes} {frame : Frame} (format : Format wire frame)
    {text : String} {mask : Mask} (masked : frame.mask = some mask)
    (said : frame.payload = Text.Utf8.encode text) (fits : Fits text) :
    encode text mask = .ok wire ↔
      wire[0]? = some 0x81 ∧
        wire[1]?.map (·.toNat % 128) = some (shortestCode frame.payload.length) := by
  cases format with
  | @intro first second field _ _ _ isMasked announced =>
    rw [masked] at isMasked
    rw [encode_of_fits fits, ← said, masked, carried_eq_unmask, Except.ok.injEq,
      List.getElem?_cons_zero, List.getElem?_cons_succ, List.getElem?_cons_zero, Option.map_some,
      Option.some.injEq, Option.some.injEq, ← cons_eq_maskedLength_iff isMasked announced]
    constructor
    · intro same
      simp only [List.cons_append, List.append_assoc] at same
      obtain ⟨opening, rest⟩ := List.cons.inj same
      rw [← List.cons_append] at rest
      exact ⟨opening.symm, (List.append_cancel_right rest).symm⟩
    · intro ⟨opening, length⟩
      rw [opening, ← length, List.cons_append, List.cons_append, List.cons_append]
      rfl

theorem text_eq_ok_iff {frame : Frame} {text : String} :
    frame.text = .ok text ↔ frame.payload = Text.Utf8.encode text := by
  rw [← Text.Utf8.decode?_eq_some_iff, Frame.text]
  cases Text.Utf8.decode? frame.payload <;> simp

/-- A text is written unless it has more than 65535 octets, and then it is read back from what is
written, whatever follows. Octets that are read as a frame with the text and the mask are written
for them exactly if the first is `0x81` and the length has its shortest form. -/
theorem encode_inverts (text : String) (mask : Mask) :
    (∀ why, encode text mask = .error why ↔
      65535 < (Text.Utf8.encode text).length ∧
        why = .payloadTooLarge (Text.Utf8.encode text).length 65535) ∧
    ((Text.Utf8.encode text).length ≤ 65535 →
      ∃ octets, encode text mask = .ok octets ∧
        ∀ rest, ∃ frame, decode unlimited (octets ++ rest) = .ok (some (frame, octets.length)) ∧
          frame.fin = true ∧ frame.opcode = .text ∧ frame.mask = some mask ∧
          frame.text = .ok text) ∧
    (∀ octets frame used, decode unlimited octets = .ok (some (frame, used)) →
      frame.fin = true → frame.opcode = .text → frame.mask = some mask → frame.text = .ok text →
      frame.payload.length ≤ 65535 →
      (encode text mask = .ok (octets.take used) ↔
        octets[0]? = some 0x81 ∧ octets[1]?.map (·.toNat % 128) =
          some (if frame.payload.length ≤ 125 then frame.payload.length else 126))) := by
  refine ⟨fun why => ?refused, fun fits => ?written, ?image⟩
  case refused =>
    by_cases fits : Fits text
    · rw [encode_of_fits fits]
      constructor
      · intro failed
        cases failed
      · intro ⟨long, _⟩
        exact absurd fits (Nat.not_le.2 long)
    · rw [encode_of_not_fits fits, Except.error.injEq]
      constructor
      · intro same
        exact ⟨Nat.lt_of_not_le fits, same.symm⟩
      · intro ⟨_, same⟩
        exact same.symm
  case written =>
    refine ⟨_, encode_of_fits fits mask, fun rest => ⟨ofText text mask, ?_, rfl, rfl, rfl, ?_⟩⟩
    · exact decode_encode (encode_of_fits fits mask) (by decide) rest
    · exact text_ofText text mask
  case image =>
    intro octets frame used found _ _ masked said fits
    obtain ⟨enough, format, -⟩ := present_iff.1 found
    have payload := text_eq_ok_iff.1 said
    have bounded : Fits text := by
      rw [Fits, ← payload]
      exact fits
    obtain ⟨wire, rest, rfl, rfl, complete⟩ := complete_of_decode found
    have two := complete.two_le_length
    rw [List.take_left] at format ⊢
    rw [encode_eq_ok_iff format masked payload bounded, List.getElem?_append_left (by omega),
      List.getElem?_append_left (by omega)]
    rfl

/-- A length of two octets where one would do. -/
theorem encode_inverts_hi :
    decode unlimited [0x81, 0xFE, 0x00, 0x02, 1, 2, 3, 4, 0x69, 0x6B, 0x88] =
        .ok (some (⟨true, .text, some ⟨1, 2, 3, 4⟩, [0x68, 0x69]⟩, 10)) ∧
      (encode "hi" ⟨1, 2, 3, 4⟩ ≠ .ok [0x81, 0xFE, 0x00, 0x02, 1, 2, 3, 4, 0x69, 0x6B]) ∧
      ∃ octets, encode "hi" ⟨1, 2, 3, 4⟩ = .ok octets ∧
        ∃ frame, decode unlimited (octets ++ [0x88]) = .ok (some (frame, octets.length)) ∧
          frame.text = .ok "hi" := by
  have found : decode unlimited [0x81, 0xFE, 0x00, 0x02, 1, 2, 3, 4, 0x69, 0x6B, 0x88] =
      .ok (some (⟨true, .text, some ⟨1, 2, 3, 4⟩, [0x68, 0x69]⟩, 10)) := by
    decide +kernel
  obtain ⟨-, written, image⟩ := encode_inverts "hi" ⟨1, 2, 3, 4⟩
  refine ⟨found, fun same => ?_, ?_⟩
  · have shortest := (image _ _ _ found rfl rfl rfl rfl (by decide)).1 same
    exact absurd shortest.2 (by decide)
  · obtain ⟨octets, sent, back⟩ := written (by decide)
    obtain ⟨frame, present, -, -, -, said⟩ := back [0x88]
    exact ⟨octets, sent, frame, present, said⟩

end Frame

end RelayCheck
