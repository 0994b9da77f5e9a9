import RelayCheck.Probe.Plan
import RelayCheck.Proofs.Frame.Wire
import RelayCheck.Proofs.Message.Client
import RelayCheck.Proofs.Note.Identifier

/-!
What a probe prepares is what a relay gets to read.

The octets of a plan are read back frame by frame, as a relay reads them. The event in them is the
one that the configuration describes, under the identifier that belongs to it and with the
signature that was given for it. There is no plan only if the signer refuses or if a message does
not fit into a frame.
-/

set_option autoImplicit false

namespace RelayCheck.Probe

open Message (ClientMessage)
open Note (Draft Event NoteError)

/-! ## The reader -/

inductive Misreading
  | frame (why : Frame.FrameError)
  | message (why : NoteError)

def messageIn (frame : Frame) : Except Misreading ClientMessage :=
  match frame.text with
  | .error why => .error (.frame why)
  | .ok text =>
    match ClientMessage.ofText text with
    | .error why => .error (.message why)
    | .ok message => .ok message

/-- The messages that a relay reads, frame by frame, and the octets that it is left with. -/
def receive (octets : Bytes) : Except Misreading (List ClientMessage × Bytes) :=
  match _found : Frame.decode Frame.unlimited octets with
  | .error why => .error (.frame why)
  | .ok none => .ok ([], octets)
  | .ok (some (frame, used)) => do
    let message ← messageIn frame
    let (others, rest) ← receive (octets.drop used)
    return (message :: others, rest)
termination_by octets.length
decreasing_by exact Frame.length_drop_lt_of_decode _found

theorem receive_nil : receive [] = .ok ([], []) := by
  rw [receive]
  rfl

/-- A message that has been written in a frame is read, and then what follows it. -/
theorem receive_encode {message : ClientMessage} {mask : Frame.Mask} {octets : Bytes}
    (written : Frame.encode message.toText mask = .ok octets) (rest : Bytes) :
    receive (octets ++ rest) =
      (receive rest).map fun read => (message :: read.1, read.2) := by
  have found : Frame.decode Frame.unlimited (octets ++ rest) = _ :=
    Frame.decode_encode written (by decide) rest
  have held : messageIn (.ofText message.toText mask) = .ok message := by
    simp only [messageIn, Frame.text_ofText, ClientMessage.ofText_toText]
  rw [receive]
  split
  · next failed => exact nomatch failed.symm.trans found
  · next missing => exact nomatch missing.symm.trans found
  · next frame used present =>
    obtain ⟨rfl, rfl⟩ := Prod.mk.inj (Option.some.inj (Except.ok.inj (present.symm.trans found)))
    rw [held, List.drop_left]
    cases receive rest <;> rfl

/-! ## Frames -/

/-- The first of some messages whose text does not fit into a frame. -/
inductive FirstTooLong : List ClientMessage → ClientMessage → Prop
  | here {message : ClientMessage} {rest : List ClientMessage}
      (long : 65535 < (Text.Utf8.encode message.toText).length) :
      FirstTooLong (message :: rest) message
  | later {first message : ClientMessage} {rest : List ClientMessage}
      (fits : (Text.Utf8.encode first.toText).length ≤ 65535)
      (found : FirstTooLong rest message) :
      FirstTooLong (first :: rest) message

def tooLong (message : ClientMessage) : ProbeError :=
  .encoding
    (Frame.FrameError.payloadTooLarge (Text.Utf8.encode message.toText).length 65535).message

theorem frames_cons_eq_ok {masks : Nat → Frame.Mask} {index : Nat} {message : ClientMessage}
    {rest : List ClientMessage} {written : List Bytes}
    (made : frames masks index (message :: rest) = .ok written) :
    ∃ frame others, Frame.encode message.toText (masks index) = .ok frame ∧
      frames masks (index + 1) rest = .ok others ∧ written = frame :: others := by
  rw [frames] at made
  cases encoded : Frame.encode message.toText (masks index) with
  | error why =>
    rw [encoded] at made
    cases made
  | ok frame =>
    rw [encoded] at made
    cases later : frames masks (index + 1) rest with
    | error why =>
      rw [later] at made
      cases made
    | ok others =>
      rw [later] at made
      cases made
      exact ⟨frame, others, rfl, rfl, rfl⟩

theorem receive_frames {masks : Nat → Frame.Mask} {index : Nat} {messages : List ClientMessage}
    {written : List Bytes} (made : frames masks index messages = .ok written) :
    receive written.flatten = .ok (messages, []) := by
  induction messages generalizing index written with
  | nil =>
    cases made
    exact receive_nil
  | cons message rest ih =>
    -- the frames of the other messages are the rest that the reader leaves
    obtain ⟨frame, others, encoded, later, rfl⟩ := frames_cons_eq_ok made
    rw [List.flatten_cons, receive_encode encoded, ih later]
    rfl

theorem length_of_frames {masks : Nat → Frame.Mask} {index : Nat} {messages : List ClientMessage}
    {written : List Bytes} (made : frames masks index messages = .ok written) :
    written.length = messages.length := by
  induction messages generalizing index written with
  | nil =>
    cases made
    rfl
  | cons message rest ih =>
    obtain ⟨frame, others, -, later, rfl⟩ := frames_cons_eq_ok made
    rw [List.length_cons, List.length_cons, ih later]

/-- Frames cannot be made exactly if a message does not fit into its frame, and then the first such
message is the reason. -/
theorem frames_eq_error_iff {masks : Nat → Frame.Mask} {index : Nat}
    {messages : List ClientMessage} {why : ProbeError} :
    frames masks index messages = .error why ↔
      ∃ message, FirstTooLong messages message ∧ why = tooLong message := by
  constructor
  · intro refused
    induction messages generalizing index with
    | nil => cases refused
    | cons message rest ih =>
      by_cases fits : Frame.Fits message.toText
      · rw [frames, Frame.encode_of_fits fits] at refused
        cases later : frames masks (index + 1) rest with
        | error other =>
          rw [later] at refused
          cases refused
          obtain ⟨culprit, found, reason⟩ := ih later
          exact ⟨culprit, .later fits found, reason⟩
        | ok others =>
          rw [later] at refused
          cases refused
      · rw [frames, Frame.encode_of_not_fits fits] at refused
        cases refused
        exact ⟨message, .here (Nat.not_le.1 fits), rfl⟩
  · rintro ⟨culprit, found, rfl⟩
    induction found generalizing index with
    | here long =>
      rw [frames, Frame.encode_of_not_fits (Nat.not_le.2 long)]
      rfl
    | later fits found ih =>
      rw [frames, Frame.encode_of_fits fits, ih]
      rfl

/-! ## The event -/

/-- What the event of a probe says, and the identifier under which it says it. -/
structure Authored (probe : Probe) (now : Int64) (event : Event) : Prop where
  kind : event.kind = probe.config.kind
  content : event.content = probe.config.content
  tags : event.tags = probe.config.hashtags.map Note.hashtagTag
  pubkey : event.pubkey = probe.signer.publicKey
  createdAt : event.createdAt = now
  identified : event.verifyIdentifier probe.config.canonicalForm = .ok ()

/-- An event holds the signature that its signer gave for exactly its payload. -/
def Signed (probe : Probe) (event : Event) : Prop :=
  ∃ payload, event.signingPayload = .ok payload ∧ probe.signer.sign payload = .ok event.sig

/-- The event of a probe before it has an identifier. -/
def blank (probe : Probe) (now : Int64) : Event :=
  .new probe.signer.publicKey probe.config.content probe.config.kind
    (probe.config.hashtags.map Note.hashtagTag) now

/-- The event of a probe with an identifier and a signature. -/
def stamped (probe : Probe) (now : Int64) (sig : String) : Event :=
  { probe.blank now with id := (probe.blank now).identifier probe.config.canonicalForm, sig }

/-- The contents and the identifier of an authored event are given; its signature is not. -/
theorem authored_iff {probe : Probe} {now : Int64} {event : Event} :
    Authored probe now event ↔ event = probe.stamped now event.sig := by
  constructor
  · rintro ⟨kind, content, tags, pubkey, createdAt, identified⟩
    rw [Event.verifyIdentifier_eq_ok_iff] at identified
    obtain ⟨id, author, time, number, labels, text, sig⟩ := event
    cases kind
    cases content
    cases tags
    cases pubkey
    cases createdAt
    rw [← Event.identifier_congr _ _ "" ""] at identified
    simp only [stamped, blank, Event.new, Event.mk.injEq, and_self, and_true]
    exact identified.symm
  · intro same
    rw [same]
    refine ⟨rfl, rfl, rfl, rfl, rfl, ?_⟩
    rw [Event.verifyIdentifier_eq_ok_iff]
    exact Event.identifier_congr _ _ _ _

theorem stamped_id_ne_empty (probe : Probe) (now : Int64) (sig : String) :
    (probe.stamped now sig).id ≠ "" :=
  Event.identifier_ne_empty _ _

theorem event_eq (probe : Probe) (now : Int64) :
    probe.event now =
      orNote ((probe.signer.sign (probe.stamped now "").payload).map (probe.stamped now)) := by
  have built (form : Note.CanonicalForm) :
      (((Draft.new probe.config.kind).withContent probe.config.content).addTags
        (probe.config.hashtags.map Note.hashtagTag)).build now probe.signer.publicKey form =
          (probe.blank now).refreshIdentifier form := Draft.build_eq rfl now _ form
  have signed := Event.sign_eq (probe.stamped_id_ne_empty now "") probe.signer
  have completed : (fun sig => { probe.stamped now "" with sig }) = probe.stamped now := rfl
  rw [completed] at signed
  rw [event, Draft.signWith_eq_bind, built, Event.refreshIdentifier_eq]
  simp only [bind, Except.bind]
  rw [← signed, stamped]

/-! ## The plan -/

/-- What a relay gets from a plan, and how its event came about. -/
structure Delivered (probe : Probe) (now : Int64) (plan : Plan) : Prop where
  /-- The octets of the frames are the messages, and nothing is left over. -/
  received : receive plan.frames.flatten = .ok (plan.messages, [])
  /-- The messages ask for the events of one kind, and publish the event. -/
  messages : plan.messages =
    [.req probe.config.subscription
      [{ ids := none, authors := none, kinds := some [probe.config.kind], since := none,
         upTo := none, limit := none }],
     .event plan.event]
  authored : Authored probe now plan.event
  signed : Signed probe plan.event

/-- The reasons for which a probe has no plan. -/
inductive Unprepared (probe : Probe) (now : Int64) : ProbeError → Prop
  | unsigned {event : Event} {payload : Bytes} {why : NoteError}
      (authored : Authored probe now event) (unsigned : event.sig = "")
      (toSign : event.signingPayload = .ok payload)
      (refused : probe.signer.sign payload = .error why) :
      Unprepared probe now (.ofNote why)
  | tooLong {event : Event} {message : ClientMessage}
      (authored : Authored probe now event) (signed : Signed probe event)
      (found : FirstTooLong (probe.messages event) message) :
      Unprepared probe now (Probe.tooLong message)

theorem orNote_map_eq_ok_iff {Data Result : Type} {step : Except NoteError Data}
    {finish : Data → Result} {result : Result} :
    orNote (step.map finish) = .ok result ↔ ∃ data, step = .ok data ∧ finish data = result := by
  cases step <;> simp [orNote, Except.map]

theorem orNote_map_eq_error_iff {Data Result : Type} {step : Except NoteError Data}
    {finish : Data → Result} {why : ProbeError} :
    orNote (step.map finish) = .error why ↔
      ∃ reason, step = .error reason ∧ .ofNote reason = why := by
  cases step <;> simp [orNote, Except.map]

theorem signingPayload_stamped (probe : Probe) (now : Int64) (sig : String) :
    (probe.stamped now sig).signingPayload = .ok (probe.stamped now "").payload :=
  Event.signingPayload_eq (probe.stamped_id_ne_empty now sig)

theorem event_eq_ok_iff {probe : Probe} {now : Int64} {event : Event} :
    probe.event now = .ok event ↔ Authored probe now event ∧ Signed probe event := by
  rw [event_eq, authored_iff, orNote_map_eq_ok_iff]
  constructor
  · rintro ⟨sig, answer, rfl⟩
    exact ⟨rfl, _, probe.signingPayload_stamped now sig, answer⟩
  · rintro ⟨same, octets, toSign, answer⟩
    rw [same, signingPayload_stamped, Except.ok.injEq] at toSign
    rw [toSign]
    exact ⟨event.sig, answer, same.symm⟩

theorem event_eq_error_iff {probe : Probe} {now : Int64} {why : ProbeError} :
    probe.event now = .error why ↔
      ∃ event payload reason, Authored probe now event ∧ event.sig = "" ∧
        event.signingPayload = .ok payload ∧ probe.signer.sign payload = .error reason ∧
          .ofNote reason = why := by
  rw [event_eq, orNote_map_eq_error_iff]
  constructor
  · rintro ⟨reason, answer, rfl⟩
    exact ⟨probe.stamped now "", _, reason, authored_iff.2 rfl, rfl,
      probe.signingPayload_stamped now "", answer, rfl⟩
  · rintro ⟨event, octets, reason, authored, bare, toSign, answer, same⟩
    rw [authored_iff, bare] at authored
    rw [authored, signingPayload_stamped, Except.ok.injEq] at toSign
    rw [toSign]
    exact ⟨reason, answer, same⟩

theorem prepare_eq_ok_iff {probe : Probe} {now : Int64} {masks : Nat → Frame.Mask} {plan : Plan} :
    probe.prepare now masks = .ok plan ↔
      probe.event now = .ok plan.event ∧ plan.messages = probe.messages plan.event ∧
        frames masks 0 (probe.messages plan.event) = .ok plan.frames := by
  obtain ⟨planned, messages, octets⟩ := plan
  rw [prepare]
  cases probe.event now with
  | error why => simp [bind, Except.bind]
  | ok event =>
    constructor
    · intro prepared
      cases made : frames masks 0 (probe.messages event) with
      | error why => simp [bind, Except.bind, made] at prepared
      | ok written =>
        simp only [bind, Except.bind, made, pure, Except.pure, Except.ok.injEq,
          Plan.mk.injEq] at prepared
        obtain ⟨rfl, rfl, rfl⟩ := prepared
        exact ⟨rfl, rfl, made⟩
    · rintro ⟨same, same', made⟩
      dsimp only at same same' made
      obtain rfl := Except.ok.inj same
      simp only [bind, Except.bind, made, pure, Except.pure, same']

theorem prepare_eq_error_iff {probe : Probe} {now : Int64} {masks : Nat → Frame.Mask}
    {why : ProbeError} :
    probe.prepare now masks = .error why ↔
      probe.event now = .error why ∨
        ∃ event, probe.event now = .ok event ∧
          frames masks 0 (probe.messages event) = .error why := by
  rw [prepare]
  cases probe.event now with
  | error other => simp [bind, Except.bind]
  | ok event => cases made : frames masks 0 (probe.messages event) <;>
      simp [bind, Except.bind, made, pure, Except.pure]

/-- A relay that reads the octets of a plan reads its messages and nothing else: a request for the
kind of the event, and the event as it was configured, identified and signed. There is no plan
exactly if the signer refuses or a message is too long, with the error of whichever comes first. -/
theorem prepare_delivers (probe : Probe) (now : Int64) (masks : Nat → Frame.Mask) :
    (∀ plan, probe.prepare now masks = .ok plan → Delivered probe now plan) ∧
      ∀ why, probe.prepare now masks = .error why ↔ Unprepared probe now why := by
  constructor
  · intro plan prepared
    obtain ⟨event, messages, made⟩ := prepare_eq_ok_iff.1 prepared
    obtain ⟨authored, signed⟩ := event_eq_ok_iff.1 event
    rw [← messages] at made
    exact ⟨receive_frames made, messages, authored, signed⟩
  · intro why
    rw [prepare_eq_error_iff]
    constructor
    · rintro (unsigned | ⟨event, signed, unframed⟩)
      · obtain ⟨event, payload, reason, authored, bare, toSign, refused, rfl⟩ :=
          event_eq_error_iff.1 unsigned
        exact .unsigned authored bare toSign refused
      · obtain ⟨authored, signed⟩ := event_eq_ok_iff.1 signed
        obtain ⟨message, found, rfl⟩ := frames_eq_error_iff.1 unframed
        exact .tooLong authored signed found
    · rintro (⟨authored, bare, toSign, refused⟩ | ⟨authored, signed, found⟩)
      · exact .inl (event_eq_error_iff.2 ⟨_, _, _, authored, bare, toSign, refused, rfl⟩)
      · exact .inr ⟨_, event_eq_ok_iff.2 ⟨authored, signed⟩, frames_eq_error_iff.2 ⟨_, found, rfl⟩⟩

end RelayCheck.Probe
