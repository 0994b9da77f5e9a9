import RelayCheck.Probe.Report
import RelayCheck.Proofs.Probe.Draining

/-!
The verdict of a relay, from the octets that it sends.

A frame answers for an event if it is a text frame with a message of acceptance for just this
identifier. The verdict is the flag of the first such frame. All other frames are foreign to the
event, and neither hide the verdict nor change or make one, wherever they stand.
-/

set_option autoImplicit false

namespace RelayCheck.Probe

open RelayCheck.Frame (Complete Format Sequence)
open Message (Envelope RelayMessage)
open Json (Tree Value)

/-! ## Frames that a relay sends -/

/-- A frame as a relay sends it, masked or not, with a payload within the limit. -/
structure Sent where
  wire : Bytes
  frame : Frame
  format : Format wire frame
  within : frame.payload.length ≤ maxReplyPayload

namespace Sent

theorem complete (one : Sent) : Complete maxReplyPayload one.wire one.frame :=
  Frame.complete_iff.2 ⟨one.format, one.within⟩

/-- The octets of frames that are sent one after the other. -/
def octets (sent : List Sent) : Bytes :=
  sent.flatMap Sent.wire

theorem sequence_octets (sent : List Sent) :
    Sequence maxReplyPayload (octets sent) (sent.map Sent.frame) [] := by
  induction sent with
  | nil => exact .nil
  | cons first later ih =>
    rw [octets, List.flatMap_cons, List.map_cons]
    exact .cons first.complete ih

theorem drainBuffer_octets (sent : List Sent) :
    Reply.drainBuffer (octets sent) = (.ok ((sent.map Sent.frame).map Reply.ofFrame), []) :=
  Reply.drainBuffer_of_missing (sequence_octets sent) rfl

end Sent

/-! ## Frames that answer for an event -/

/-- The frame holds a message of acceptance for the event, with this flag. -/
def Answers (eventId : String) (accepted : Bool) (frame : Frame) : Prop :=
  ∃ message, Reply.Holds frame (.ok eventId accepted message)

/-- The frame has nothing to do with the event: it is no text frame, its payload is no text, the
text is not read as a message, or the message is not one of acceptance for the event. -/
inductive Foreign (eventId : String) (frame : Frame) : Prop
  | opcode (other : frame.opcode ≠ .text)
  | octets (garbled : ∀ text, frame.payload ≠ Text.Utf8.encode text)
  | text {text : String} {why : Note.NoteError} (payload : frame.payload = Text.Utf8.encode text)
      (refused : RelayMessage.ofText text = .error why)
  | message {content : RelayMessage} (holds : Reply.Holds frame content)
      (other : ∀ accepted message, content ≠ .ok eventId accepted message)

/-- Every frame is foreign to the event or answers for it. -/
theorem foreign_iff {eventId : String} {frame : Frame} :
    Foreign eventId frame ↔ ∀ accepted, ¬ Answers eventId accepted frame := by
  constructor
  · intro foreign accepted ⟨message, holds⟩
    have ⟨typed, text, payload, read⟩ := holds
    cases foreign with
    | opcode other => exact other typed
    | octets garbled => exact garbled text payload
    | text same refused =>
      rw [Text.Utf8.encode_inj.1 (same.symm.trans payload)] at refused
      cases refused.symm.trans read
    | message also other => exact other accepted message (also.unique holds)
  · intro silent
    by_cases typed : frame.opcode = .text
    · by_cases garbled : ∃ text, frame.payload = Text.Utf8.encode text
      · obtain ⟨text, payload⟩ := garbled
        cases read : RelayMessage.ofText text with
        | error why => exact .text payload read
        | ok content =>
          have holds : Reply.Holds frame content := ⟨typed, text, payload, read⟩
          refine .message holds fun accepted message same => ?_
          exact silent accepted ⟨message, same ▸ holds⟩
      · exact .octets (not_exists.1 garbled)
    · exact .opcode typed

/-- What is said with an answer for the event, with anything behind it. -/
def answerValue (eventId : String) (accepted : Bool) (further : List Value) : Value :=
  .array (.string "OK" :: .string eventId :: .bool accepted :: further)

/-- The answers for an event are text frames with a text of an array that begins with `"OK"`, the
identifier and the flag. -/
theorem answers_iff {eventId : String} {accepted : Bool} {frame : Frame} :
    Answers eventId accepted frame ↔
      frame.opcode = .text ∧ ∃ (text : String) (further : List Value),
        frame.payload = Text.Utf8.encode text ∧
        (answerValue eventId accepted further).WrittenAs text ∧
        (answerValue eventId accepted further).nesting ≤ Tree.depthLimit := by
  constructor
  · intro ⟨message, typed, text, payload, read⟩
    obtain ⟨further, written, shallow⟩ := RelayMessage.ofText_eq_acceptance_iff.1 ⟨message, read⟩
    exact ⟨typed, text, further, payload, written, shallow⟩
  · intro ⟨typed, text, further, payload, written, shallow⟩
    obtain ⟨message, read⟩ := RelayMessage.ofText_eq_acceptance_iff.2 ⟨further, written, shallow⟩
    exact ⟨message, typed, text, payload, read⟩

/-! ## The first answer -/

/-- What a frame says about the acceptance of an event. -/
def answer? (eventId : String) (frame : Frame) : Option Bool :=
  (Reply.messageOf? frame).bind (Report.verdict? eventId)

theorem verdict?_eq_some_iff {eventId : String} {content : RelayMessage} {accepted : Bool} :
    Report.verdict? eventId content = some accepted ↔
      ∃ message, content = .ok eventId accepted message := by
  cases content with
  | ok id flag message => simp [Report.verdict?]
  | notice | event | eose | closed | unknown => simp [Report.verdict?]

theorem answer?_eq_some_iff {eventId : String} {frame : Frame} {accepted : Bool} :
    answer? eventId frame = some accepted ↔ Answers eventId accepted frame := by
  rw [answer?, Option.bind_eq_some_iff]
  constructor
  · intro ⟨content, found, told⟩
    obtain ⟨message, rfl⟩ := verdict?_eq_some_iff.1 told
    exact ⟨message, Reply.messageOf?_eq_some_iff.1 found⟩
  · intro ⟨message, holds⟩
    exact ⟨_, Reply.messageOf?_eq_some_iff.2 holds, verdict?_eq_some_iff.2 ⟨message, rfl⟩⟩

theorem answer?_eq_none_iff {eventId : String} {frame : Frame} :
    answer? eventId frame = none ↔ Foreign eventId frame := by
  simp only [foreign_iff, Option.eq_none_iff_forall_ne_some, ne_eq, answer?_eq_some_iff]

theorem messagesOf_map_ofFrame (frames : List Frame) :
    Report.messagesOf (frames.map Reply.ofFrame) = frames.filterMap Reply.messageOf? := by
  rw [Report.messagesOf, List.filterMap_map]
  refine congrArg (List.filterMap · frames) (funext fun frame => ?_)
  rw [Function.comp_apply, Reply.ofFrame]
  cases Reply.messageOf? frame <;> rfl

/-- The verdict in a report on the event, after what is drained from a buffer has become its
response. -/
def Report.verdictOn (report : Report) (eventId : String) (buffer : Bytes) :
    Except ProbeError (Option Bool) :=
  (Reply.drainBuffer buffer).1.map fun replies =>
    Report.accepted { report with eventId := some eventId, outcome := .response replies }

theorem verdictOn_octets (report : Report) (eventId : String) (sent : List Sent) :
    report.verdictOn eventId (Sent.octets sent) =
      .ok (sent.findSome? fun one => answer? eventId one.frame) := by
  rw [Report.verdictOn, Sent.drainBuffer_octets]
  refine congrArg Except.ok ?_
  dsimp only [Report.accepted, Report.messages]
  rw [messagesOf_map_ofFrame, ← List.head?_filterMap, List.filterMap_filterMap,
    List.filterMap_map, List.head?_filterMap]
  rfl

/-- The first frame that answers for the event does it with this flag. -/
def FirstAnswer (eventId : String) (accepted : Bool) (sent : List Sent) : Prop :=
  ∃ before first later, sent = before ++ first :: later ∧ Answers eventId accepted first.frame ∧
    ∀ one ∈ before, Foreign eventId one.frame

theorem findSome?_answer?_eq_some_iff {eventId : String} {accepted : Bool} {sent : List Sent} :
    (sent.findSome? fun one => answer? eventId one.frame) = some accepted ↔
      FirstAnswer eventId accepted sent := by
  simp only [List.findSome?_eq_some_iff, answer?_eq_some_iff, answer?_eq_none_iff, FirstAnswer]

/-- The second list is put into the first one, a piece here and a piece there. -/
inductive Interspersed : List Sent → List Sent → List Sent → Prop
  | nil : Interspersed [] [] []
  | keep {one : Sent} {sent extra whole : List Sent} (later : Interspersed sent extra whole) :
      Interspersed (one :: sent) extra (one :: whole)
  | insert {one : Sent} {sent extra whole : List Sent} (later : Interspersed sent extra whole) :
      Interspersed sent (one :: extra) (one :: whole)

theorem Interspersed.findSome?_answer? {eventId : String} {sent extra whole : List Sent}
    (interspersed : Interspersed sent extra whole)
    (foreign : ∀ one ∈ extra, Foreign eventId one.frame) :
    (whole.findSome? fun one => answer? eventId one.frame) =
      sent.findSome? fun one => answer? eventId one.frame := by
  induction interspersed with
  | nil => rfl
  | keep _ ih => rw [List.findSome?_cons, List.findSome?_cons, ih foreign]
  | insert _ ih =>
    rw [List.forall_mem_cons, ← answer?_eq_none_iff] at foreign
    rw [List.findSome?_cons, foreign.1, ih foreign.2]

/-- Frames of a relay are drained to the last octet, and the report then has the flag of the first
answer for its event, or no verdict if there is none. Foreign frames anywhere among them leave that
as it is, and so does whatever follows the first answer. -/
theorem verdictOn_eq_first_answer (report : Report) (eventId : String) (sent : List Sent) :
    (Reply.drainBuffer (Sent.octets sent)).2 = [] ∧
    (∃ verdict, report.verdictOn eventId (Sent.octets sent) = .ok verdict ∧
      ∀ accepted, verdict = some accepted ↔ FirstAnswer eventId accepted sent) ∧
    (∀ extra whole, Interspersed sent extra whole → (∀ one ∈ extra, Foreign eventId one.frame) →
      report.verdictOn eventId (Sent.octets whole) =
        report.verdictOn eventId (Sent.octets sent)) ∧
    (∀ before first later accepted, sent = before ++ first :: later →
      Answers eventId accepted first.frame → ∀ others,
      report.verdictOn eventId (Sent.octets (before ++ first :: others)) =
        report.verdictOn eventId (Sent.octets sent)) ∧
    (∀ frame, Foreign eventId frame ↔ ∀ accepted, ¬ Answers eventId accepted frame) ∧
    ∀ accepted frame, Answers eventId accepted frame ↔
      frame.opcode = .text ∧ ∃ (text : String) (further : List Value),
        frame.payload = Text.Utf8.encode text ∧
        (answerValue eventId accepted further).WrittenAs text ∧
        (answerValue eventId accepted further).nesting ≤ 127 := by
  refine ⟨?drained, ?first, ?interspersed, ?appended, fun _ => foreign_iff, fun _ _ => answers_iff⟩
  case drained => rw [Sent.drainBuffer_octets]
  case first =>
    exact ⟨_, verdictOn_octets report eventId sent, fun _ => findSome?_answer?_eq_some_iff⟩
  case interspersed =>
    intro extra whole interspersed foreign
    rw [verdictOn_octets, verdictOn_octets, interspersed.findSome?_answer? foreign]
  case appended =>
    intro before first later accepted split answers others
    have found := answer?_eq_some_iff.2 answers
    rw [verdictOn_octets, verdictOn_octets, split, List.findSome?_append, List.findSome?_append,
      List.findSome?_cons, List.findSome?_cons, found]

/-! ### An answer for another event, a ping and two answers that contradict each other -/

theorem format_short {opcode : Frame.Opcode} {payload : Bytes} (short : payload.length ≤ 125) :
    Format ((0x80 ||| opcode.toByte) :: UInt8.ofNat payload.length :: payload)
      ⟨true, opcode, none, payload⟩ := by
  have value : (UInt8.ofNat payload.length).toNat = payload.length := by
    rw [UInt8.toNat_ofNat']
    omega
  refine @Format.intro _ _ [] ⟨true, opcode, none, payload⟩ ?fin ?opcode ?masked ?length
  case fin => cases opcode <;> rfl
  case opcode => cases opcode <;> rfl
  case masked =>
    rw [value]
    exact Nat.div_eq_of_lt (by omega)
  case length =>
    rw [value, Nat.mod_eq_of_lt (by omega)]
    exact .code short

theorem short_le_maxReplyPayload : 125 ≤ maxReplyPayload := by
  decide

/-- An unmasked frame with a short payload. -/
def Sent.short (opcode : Frame.Opcode) (payload : Bytes) (short : payload.length ≤ 125) : Sent where
  wire := (0x80 ||| opcode.toByte) :: UInt8.ofNat payload.length :: payload
  frame := ⟨true, opcode, none, payload⟩
  format := format_short short
  within := Nat.le_trans short short_le_maxReplyPayload

/-- A message of acceptance for the event `"a"`, or else for the event `"b"`. -/
def acceptance (known : Bool) (accepted : Bool) : RelayMessage :=
  .ok (if known then "a" else "b") accepted ""

theorem Sent.frame_short {opcode : Frame.Opcode} {payload : Bytes} (short : payload.length ≤ 125) :
    (Sent.short opcode payload short).frame = ⟨true, opcode, none, payload⟩ :=
  rfl

theorem short_acceptance (known : Bool) (accepted : Bool) :
    (Text.Utf8.encode (acceptance known accepted).toText).length ≤ 125 := by
  revert known accepted
  decide +kernel

def Sent.acceptance (known : Bool) (accepted : Bool) : Sent :=
  .short .text (Text.Utf8.encode (Probe.acceptance known accepted).toText)
    (short_acceptance known accepted)

theorem holds_acceptance (known : Bool) (accepted : Bool) :
    Reply.Holds (Sent.acceptance known accepted).frame (acceptance known accepted) := by
  have read := @RelayMessage.Known.ofText_toText (acceptance known accepted) trivial
  rw [Sent.acceptance, Sent.frame_short]
  exact Reply.holds_of_text read

def Sent.ping : Sent :=
  .short .ping [] (Nat.zero_le _)

/-- The report of a probe that has sent both of its messages. -/
def sentReport : Report where
  target := "relay:80"
  handshakeStatus := some 101
  eventId := none
  messagesSent := 2
  outcome := .noResponse

theorem verdictOn_eq_first_answer_foreign :
    sentReport.verdictOn "a" (Sent.octets [.acceptance true true]) = .ok (some true) ∧
      sentReport.verdictOn "a"
          (Sent.octets [.acceptance false false, .acceptance true true, .ping]) =
        .ok (some true) ∧
      sentReport.verdictOn "a" (Sent.octets [.acceptance true true, .acceptance true false]) =
        .ok (some true) := by
  obtain ⟨-, ⟨verdict, told, first⟩, interspersed, appended, -⟩ :=
    verdictOn_eq_first_answer sentReport "a" [.acceptance true true]
  have answers : Answers "a" true (Sent.acceptance true true).frame :=
    ⟨"", holds_acceptance true true⟩
  obtain rfl := (first true).2 ⟨[], _, [], rfl, answers, by simp⟩
  have other : Foreign "a" (Sent.acceptance false false).frame := by
    refine .message (holds_acceptance false false) fun accepted message same => ?_
    exact absurd (RelayMessage.ok.inj same).1 (by decide)
  have ping : Foreign "a" Sent.ping.frame := .opcode (by decide)
  refine ⟨told, ?_, ?_⟩
  · rw [← told]
    exact interspersed [.acceptance false false, .ping] _ (.insert (.keep (.insert .nil)))
      (by simp [other, ping])
  · rw [← told]
    exact appended [] _ [] true rfl answers [.acceptance true false]

end RelayCheck.Probe
