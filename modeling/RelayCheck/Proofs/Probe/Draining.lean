import RelayCheck.Proofs.Frame.Encoding
import RelayCheck.Proofs.Message.Relay
import RelayCheck.Proofs.Probe.Reply

/-!
Buffers that are drained.

The frames at the front of a buffer are answered for one by one, and then the buffer is cut behind
the last of them. If they end at octets that never become a frame, the buffer is not cut, however
many frames stand in front of these octets.
-/

set_option autoImplicit false

namespace RelayCheck

/-! ## Frames and their octets -/

namespace Frame

theorem read_of_missing {limit : Nat} {octets : Bytes} (absent : decode limit octets = .ok none) :
    read limit octets = .ok none := by
  rw [decode] at absent
  cases found : read limit octets with
  | error why =>
    rw [found] at absent
    cases absent
  | ok front =>
    rw [found] at absent
    cases front with
    | none => rfl
    | some parts => cases absent

/-- The octets of a sequence are those of its frames one after the other, and then the rest. -/
theorem Sequence.iff_wires {limit : Nat} {octets rest : Bytes} {frames : List Frame} :
    Sequence limit octets frames rest ↔ ∃ wires : List Bytes,
      octets = wires.flatten ++ rest ∧ List.Forall₂ (Complete limit) wires frames := by
  constructor
  · intro sequence
    induction sequence with
    | nil => exact ⟨[], rfl, .nil⟩
    | @cons wire _ _ _ _ complete _ ih =>
      obtain ⟨wires, rfl, each⟩ := ih
      exact ⟨wire :: wires, (List.append_assoc ..).symm, .cons complete each⟩
  · intro split
    obtain ⟨wires, rfl, each⟩ := split
    induction each with
    | nil => exact .nil
    | cons complete _ ih =>
      rw [List.flatten_cons, List.append_assoc]
      exact .cons complete ih

end Frame

namespace Probe.Reply

open RelayCheck.Frame (Complete Format FrameError Refused Sequence)
open Message (RelayMessage)

/-! ## What a frame is answered for with -/

/-- The frame holds the message: it is a text frame with a text that is read as it. -/
def Holds (frame : Frame) (content : RelayMessage) : Prop :=
  frame.opcode = .text ∧ ∃ text, frame.payload = Text.Utf8.encode text ∧
    RelayMessage.ofText text = .ok content

/-- The reply that a frame is: the message that it holds, and the frame itself if it holds none. -/
inductive Stands (frame : Frame) : Reply → Prop
  | message {content : RelayMessage} (holds : Holds frame content) :
      Stands frame (.message content)
  | raw (empty : ∀ content, ¬ Holds frame content) :
      Stands frame (.raw frame.opcode frame.payload)

theorem messageOf?_eq_some_iff {frame : Frame} {content : RelayMessage} :
    messageOf? frame = some content ↔ Holds frame content := by
  rw [messageOf?, Holds]
  constructor
  · intro found
    split at found
    · next text typed said =>
      refine ⟨typed, text, Frame.text_eq_ok_iff.1 said, ?_⟩
      cases read : RelayMessage.ofText text with
      | error why =>
        rw [read] at found
        cases found
      | ok other =>
        rw [read] at found
        exact congrArg Except.ok (Option.some.inj found)
    · cases found
  · intro ⟨typed, text, payload, read⟩
    rw [typed, Frame.text_eq_ok_iff.2 payload]
    dsimp only
    rw [read]
    rfl

theorem holds_of_text {fin : Bool} {mask : Option Frame.Mask} {text : String}
    {content : RelayMessage} (read : RelayMessage.ofText text = .ok content) :
    Holds ⟨fin, .text, mask, Text.Utf8.encode text⟩ content :=
  ⟨rfl, text, rfl, read⟩

theorem Holds.unique {frame : Frame} {content other : RelayMessage}
    (holds : Holds frame content) (also : Holds frame other) : content = other :=
  Option.some.inj
    ((messageOf?_eq_some_iff.2 holds).symm.trans (messageOf?_eq_some_iff.2 also))

theorem stands_iff {frame : Frame} {reply : Reply} :
    Stands frame reply ↔ ofFrame frame = reply := by
  have stands : Stands frame (ofFrame frame) := by
    rw [ofFrame]
    cases found : messageOf? frame with
    | none =>
      refine .raw fun content holds => ?_
      cases found.symm.trans (messageOf?_eq_some_iff.2 holds)
    | some content => exact .message (messageOf?_eq_some_iff.1 found)
  constructor
  · intro also
    cases also with
    | message holds => rw [ofFrame, messageOf?_eq_some_iff.2 holds]
    | raw empty =>
      have none : messageOf? frame = none :=
        Option.eq_none_iff_forall_ne_some.2 fun content found =>
          empty content (messageOf?_eq_some_iff.1 found)
      rw [ofFrame, none]
  · intro same
    exact same ▸ stands

theorem forall₂_stands_iff {frames : List Frame} {replies : List Reply} :
    List.Forall₂ Stands frames replies ↔ frames.map ofFrame = replies := by
  have same : Stands = fun frame reply => ofFrame frame = reply :=
    funext₂ fun _ _ => propext stands_iff
  rw [same, ← List.forall₂_map_left_iff (f := ofFrame), List.forall₂_eq_eq_eq]

/-! ## The loop -/

theorem drainFrom_of_missing {ahead : Bytes}
    (absent : Frame.decode maxReplyPayload ahead = .ok none) (buffer : Bytes) (done : List Reply) :
    drainFrom buffer ahead done = (.ok done.reverse, ahead) := by
  have missing := Frame.read_of_missing absent
  rw [drainFrom]
  split <;> simp_all

theorem drainFrom_of_refused {ahead : Bytes} {why : FrameError}
    (refused : Refused maxReplyPayload ahead why) (buffer : Bytes) (done : List Reply) :
    drainFrom buffer ahead done = (.error (.protocol why.message), buffer) := by
  have failed := Frame.read_of_refused refused
  rw [drainFrom]
  split <;> simp_all

theorem drainFrom_of_complete {wire : Bytes} {frame : Frame}
    (complete : Complete maxReplyPayload wire frame) (buffer rest : Bytes) (done : List Reply) :
    drainFrom buffer (wire ++ rest) done = drainFrom buffer rest (ofFrame frame :: done) := by
  have found := Frame.read_of_complete complete rest
  rw [drainFrom]
  split <;> simp_all

/-- Frame after frame is taken from what is ahead, and the buffer stays as it is. -/
theorem drainFrom_of_sequence {ahead rest : Bytes} {frames : List Frame}
    (sequence : Sequence maxReplyPayload ahead frames rest) (buffer : Bytes) (done : List Reply) :
    drainFrom buffer ahead done =
      drainFrom buffer rest ((frames.map ofFrame).reverse ++ done) := by
  induction sequence generalizing done with
  | nil => rfl
  | cons complete _ ih =>
    rw [drainFrom_of_complete complete, ih, List.map_cons, List.reverse_cons, List.append_assoc,
      List.singleton_append]

/-! ## The whole buffer -/

theorem drainBuffer_of_missing {buffer rest : Bytes} {frames : List Frame}
    (sequence : Sequence maxReplyPayload buffer frames rest)
    (absent : Frame.decode maxReplyPayload rest = .ok none) :
    drainBuffer buffer = (.ok (frames.map ofFrame), rest) := by
  rw [drainBuffer, drainFrom_of_sequence sequence, drainFrom_of_missing absent, List.append_nil,
    List.reverse_reverse]

theorem drainBuffer_of_refused {buffer rest : Bytes} {frames : List Frame} {why : FrameError}
    (sequence : Sequence maxReplyPayload buffer frames rest)
    (refused : Refused maxReplyPayload rest why) :
    drainBuffer buffer = (.error (.protocol why.message), buffer) := by
  rw [drainBuffer, drainFrom_of_sequence sequence, drainFrom_of_refused refused]

/-- To drain a buffer in place tells and leaves what is drained from its octets. -/
theorem drain_eq_drainBuffer (buffer : Bytes) :
    drain buffer = (drainBuffer buffer).1.map fun replies => (replies, (drainBuffer buffer).2) := by
  obtain ⟨frames, why, rest, sequence, halts⟩ := Frame.exists_sequence maxReplyPayload buffer
  cases halts with
  | missing absent =>
    rw [drain_of_missing sequence absent, drainBuffer_of_missing sequence absent]
    rfl
  | refused refused =>
    rw [drain_of_refused sequence refused, drainBuffer_of_refused sequence refused]
    rfl

/-- A buffer begins with frames, of which the last one is followed by octets that are no frame in
full or never become one. In the one case it is answered for each frame in order, and what is left
is exactly the octets after the frames, from which nothing more is drained. In the other case the
error is told and the buffer is left as it was. -/
theorem drainBuffer_settles (buffer : Bytes) :
    (∃ frames rest, Sequence maxReplyPayload buffer frames rest ∧
      (Frame.decode maxReplyPayload rest = .ok none ∨
        ∃ why, Frame.decode maxReplyPayload rest = .error why)) ∧
    (∀ frames rest, Sequence maxReplyPayload buffer frames rest →
      (∃ wires : List Bytes, buffer = wires.flatten ++ rest ∧
        List.Forall₂ (fun wire frame => Format wire frame ∧ frame.payload.length ≤ 1048576)
          wires frames) ∧
      (Frame.decode maxReplyPayload rest = .ok none →
        (∃ replies, List.Forall₂ Stands frames replies ∧
          drainBuffer buffer = (.ok replies, rest)) ∧
        drainBuffer rest = (.ok [], rest)) ∧
      ∀ why, Frame.decode maxReplyPayload rest = .error why →
        drainBuffer buffer = (.error (.protocol why.message), buffer)) ∧
    drain buffer = (drainBuffer buffer).1.map fun replies => (replies, (drainBuffer buffer).2) := by
  refine ⟨?ends, fun frames rest sequence => ⟨?wires, fun absent => ⟨?drained, ?again⟩, ?refused⟩,
    drain_eq_drainBuffer buffer⟩
  case ends =>
    obtain ⟨frames, why, rest, sequence, halts⟩ := Frame.exists_sequence maxReplyPayload buffer
    refine ⟨frames, rest, sequence, ?_⟩
    cases halts with
    | missing absent => exact .inl absent
    | refused refused => exact .inr ⟨_, Frame.decode_of_refused refused⟩
  case wires =>
    obtain ⟨wires, split, each⟩ := Sequence.iff_wires.1 sequence
    exact ⟨wires, split, each.imp fun _ _ => Frame.complete_iff.1⟩
  case drained =>
    exact ⟨_, forall₂_stands_iff.2 rfl, drainBuffer_of_missing sequence absent⟩
  case again => exact drainBuffer_of_missing .nil absent
  case refused =>
    intro why failed
    exact drainBuffer_of_refused sequence (Frame.refused_of_decode failed)

/-- A text frame with a message, a ping, and a text frame whose payload is no text. -/
def mixedFrames : List Frame :=
  [⟨true, .text, none, Text.Utf8.encode "[\"EOSE\",\"x\"]"⟩, ⟨true, .ping, none, [0x61]⟩,
    ⟨false, .text, some ⟨1, 2, 3, 4⟩, [0xFF]⟩]

def mixedOctets : Bytes :=
  0x81 :: 0x0C :: Text.Utf8.encode "[\"EOSE\",\"x\"]" ++ [0x89, 0x01, 0x61] ++
    [0x01, 0x81, 1, 2, 3, 4, 0xFE]

theorem sequence_mixedOctets (more : Bytes) :
    Sequence maxReplyPayload (mixedOctets ++ more) mixedFrames more :=
  (Frame.readAll_eq_iff.1 (by decide +kernel :
    Frame.readAll maxReplyPayload mixedOctets = (mixedFrames, none, []))).1.append more

theorem stands_mixedFrames :
    List.Forall₂ Stands mixedFrames
      [.message (.eose "x"), .raw .ping [0x61], .raw .text [0xFF]] := by
  have written : (RelayMessage.eose "x").toText = "[\"EOSE\",\"x\"]" := by decide +kernel
  have read := @RelayMessage.Known.ofText_toText (.eose "x") trivial
  rw [written] at read
  refine .cons (.message (holds_of_text read)) (.cons (.raw ?ping) (.cons (.raw ?octet) .nil))
  case ping =>
    intro content holds
    cases holds.1
  case octet =>
    intro content ⟨_, text, payload, _⟩
    cases Text.Utf8.decode?_eq_some_iff.2 payload

theorem drainBuffer_settles_mixed :
    Sequence maxReplyPayload (mixedOctets ++ [0x81]) mixedFrames [0x81] ∧
      Frame.decode maxReplyPayload [0x81] = .ok none ∧
      drainBuffer (mixedOctets ++ [0x81]) =
        (.ok [.message (.eose "x"), .raw .ping [0x61], .raw .text [0xFF]], [0x81]) ∧
      drainBuffer [0x81] = (.ok [], [0x81]) ∧
      Sequence maxReplyPayload (mixedOctets ++ [0x83, 0x00]) mixedFrames [0x83, 0x00] ∧
      Frame.decode maxReplyPayload [0x83, 0x00] = .error (.reservedOpcode 3) ∧
      drainBuffer (mixedOctets ++ [0x83, 0x00]) =
        (.error (.protocol "Reserved opcode: 0x3"), mixedOctets ++ [0x83, 0x00]) := by
  have first := sequence_mixedOctets [0x81]
  have second := sequence_mixedOctets [0x83, 0x00]
  have wording : (FrameError.reservedOpcode 3).message = "Reserved opcode: 0x3" := by decide
  obtain ⟨-, drained, -⟩ := (drainBuffer_settles (mixedOctets ++ [0x81])).2.1 _ _ first
  obtain ⟨⟨replies, stand, told⟩, again⟩ := drained rfl
  have same := forall₂_stands_iff.1 stand
  rw [forall₂_stands_iff.1 stands_mixedFrames] at same
  obtain ⟨-, -, refused⟩ := (drainBuffer_settles (mixedOctets ++ [0x83, 0x00])).2.1 _ _ second
  refine ⟨first, rfl, same ▸ told, again, second, rfl, ?_⟩
  rw [← wording]
  exact refused _ rfl

end Probe.Reply

end RelayCheck
