import RelayCheck.Proofs.Probe.Blocking
import RelayCheck.Proofs.Probe.Cooperative

/-!
What a run sends, however the relay behaves.

Nothing is sent without a plan. The request goes first, and frames follow only when the relay has
answered it as it must. A run that ends in the middle of a write has sent a front part of it.
-/

set_option autoImplicit false

namespace RelayCheck.Probe

open Message (ClientMessage)
open Upgrade (Request Response acceptKey foldName)

/-! ## Statements -/

/-- A response has the status of an upgrade, names the protocol in either case of its letters, and
answers the key of a request. -/
structure Accepted (request : Request) (response : Response) : Prop where
  valid : response.validate request = .ok ()
  status : response.status = 101
  protocol : ∃ name, response.header? "upgrade" = some name ∧ foldName name.toList = "websocket"
  answer : response.header? "sec-websocket-accept" = some (acceptKey request.key)

/-- Among some arrivals there came, in chunks of octets that are first of all, the complete head of
a response that is accepted for a request. -/
def Upgraded (request : Request) (arrivals : List Arrival) : Prop :=
  ∃ (chunks : List Bytes) (later : List Arrival) (response : Response) (used : Nat),
    arrivals = chunks.map .octets ++ later ∧
      Response.parse chunks.flatten = .ok (some (response, used)) ∧ Accepted request response

/-- How many of some frames are within so many octets of all of them. -/
def wholly : List Bytes → Nat → Nat
  | [], _ => 0
  | frame :: frames, length =>
    if frame.length ≤ length then wholly frames (length - frame.length) + 1 else 0

structure Unsent (run : Run) : Prop where
  sent : run.sent = []
  counted : ∀ report, run.report = some report → report.messagesSent = 0

/-- What a run has sent over a line is a front part of the request, or the request and a front part
of the two frames of its plan; the latter only after an upgrade. The frames that it reports as
messages are those that have been sent in full. -/
def Spoken (setting : Setting) (plan : Plan) (line : Line) (run : Run) : Prop :=
  ∃ first second asked spoken, plan.frames = [first, second] ∧
    run.sent = line.sent ++ asked ++ spoken ∧ asked <+: setting.request.toBytes ∧
    spoken <+: first ++ second ∧
    (spoken ≠ [] →
      asked = setting.request.toBytes ∧ Upgraded setting.request line.arrivals) ∧
    ∀ report, run.report = some report →
      report.messagesSent = wholly [first, second] spoken.length

/-- A run sends nothing without a plan or a line, and otherwise what it may send over its line. -/
structure Disciplined (setting : Setting) (run : Run) : Prop where
  unprepared : ∀ why, setting.plan = .error why → Unsent run
  unconnected : (∀ line, setting.reach ≠ .connected line) → Unsent run
  spoken : ∀ plan line, setting.plan = .ok plan → setting.reach = .connected line →
    Spoken setting plan line run

/-! ## Responses -/

theorem accepted_of_validate {request : Request} {response : Response}
    (valid : response.validate request = .ok ()) : Accepted request response := by
  have checked := valid
  rw [Response.validate] at checked
  split at checked
  · cases checked
  · next switching =>
    split at checked
    · cases checked
    · next named =>
      split at checked
      · cases checked
      · next answered =>
        simp only [Response.isSwitching, Bool.not_eq_true, Bool.not_eq_false',
          beq_iff_eq] at switching
        simp only [bne_iff_ne, ne_eq, Decidable.not_not] at named answered
        obtain ⟨name, found, same⟩ := Option.map_eq_some_iff.1 named
        exact ⟨valid, switching, ⟨name, found, same⟩, answered⟩

theorem upgraded_of_wait {request : Request} {response : Response} {rest : Bytes}
    {arrivals later : List Arrival}
    (wait : Wait lookHead [] arrivals (.found response) rest later)
    (valid : response.validate request = .ok ()) : Upgraded request arrivals := by
  obtain ⟨chunks, rfl, seen⟩ := wait.chunks_of_found
  rw [List.nil_append, lookHead] at seen
  split at seen
  · cases seen
  · cases seen
  · next parsed =>
    cases seen
    exact ⟨chunks, later, response, _, rfl, parsed, accepted_of_validate valid⟩

/-! ## Frames -/

theorem ne_nil_of_frames {masks : Nat → Frame.Mask} {index : Nat} {messages : List ClientMessage}
    {written : List Bytes} (made : frames masks index messages = .ok written) :
    ∀ frame ∈ written, frame ≠ [] := by
  induction messages generalizing index written with
  | nil =>
    cases made
    exact fun _ member => absurd member List.not_mem_nil
  | cons message rest ih =>
    obtain ⟨frame, others, encoded, later, rfl⟩ := frames_cons_eq_ok made
    intro other member
    rcases List.mem_cons.1 member with rfl | member
    · rw [Frame.encode_of_fits (Frame.fits_of_encode encoded)] at encoded
      cases encoded
      exact List.cons_ne_nil _ _
    · exact ih later other member

theorem frames_of_prepare {setting : Setting} {plan : Plan} (prepared : setting.plan = .ok plan) :
    (∃ first second, plan.frames = [first, second]) ∧ ∀ frame ∈ plan.frames, frame ≠ [] := by
  obtain ⟨-, -, made⟩ := prepare_eq_ok_iff.1 prepared
  have two : plan.frames.length = 2 := length_of_frames made
  refine ⟨?_, ne_nil_of_frames made⟩
  match plan.frames, two with
  | [first, second], _ => exact ⟨first, second, rfl⟩

/-- Some whole frames and a part of the next one count as the whole ones. -/
theorem wholly_take {frames : List Bytes} {count extra : Nat} (within : count ≤ frames.length)
    (partly : ∀ frame, frames[count]? = some frame → extra < frame.length) :
    wholly frames ((frames.take count).flatten.length + extra) = count := by
  induction frames generalizing count with
  | nil =>
    rw [List.length_nil, Nat.le_zero] at within
    rw [wholly, within]
  | cons frame rest ih =>
    cases count with
    | zero =>
      have short := partly frame rfl
      rw [wholly, List.take_zero, List.flatten_nil, List.length_nil, Nat.zero_add,
        if_neg (Nat.not_le.2 short)]
    | succ count =>
      have onward := ih (Nat.le_of_succ_le_succ within) partly
      have long : frame.length ≤
          frame.length + (rest.take count).flatten.length + extra := by omega
      rw [wholly, List.take_succ_cons, List.flatten_cons, List.length_append, if_pos long,
        Nat.add_assoc, Nat.add_sub_cancel_left, onward]

example : wholly [[1, 2, 3], [4, 5]] 4 = 1 := rfl

/-- A part of the next frame goes on from the whole ones before it. -/
theorem front_of_flatten_take {frames : List Bytes} {count : Nat} {frame part : Bytes}
    (unsent : frames[count]? = some frame) (partly : part <+: frame) :
    (frames.take count).flatten ++ part <+: frames.flatten := by
  obtain ⟨rest, rfl⟩ := partly
  obtain ⟨within, same⟩ := List.getElem?_eq_some_iff.1 unsent
  have split : frames.take count ++ (part ++ rest) :: frames.drop (count + 1) = frames := by
    rw [← same, List.getElem_cons_drop within, List.take_append_drop]
  refine ⟨rest ++ (frames.drop (count + 1)).flatten, ?_⟩
  conv => rhs; rw [← split]
  rw [List.flatten_append, List.flatten_cons]
  simp only [List.append_assoc]

/-! ## What is sent by the end -/

/-- What a run has sent that is over at a stage. -/
inductive Leaving (setting : Setting) : Stage → Bytes → Prop
  | unprepared {why : ProbeError} (refused : setting.plan = .error why) :
      Leaving setting .started []
  | unconnected {plan : Plan} (missed : ∀ line, setting.reach ≠ .connected line) :
      Leaving setting (.prepared plan) []
  | asking {plan : Plan} {line : Line} (accepted : Nat) :
      Leaving setting (.connected plan line)
        (line.sent ++ setting.request.toBytes.dropLast.take accepted)
  | asked {plan : Plan} {line : Line} : Leaving setting (.asked plan line) line.sent
  | answered {plan : Plan} {response : Response} {buffer : Bytes} {line : Line} :
      Leaving setting (.answered plan response buffer line) line.sent
  | speaking {plan : Plan} {response : Response} {count : Nat} {buffer frame : Bytes}
      {line : Line} (unsent : plan.frames[count]? = some frame) (accepted : Nat) :
      Leaving setting (.speaking plan response count buffer line)
        (line.sent ++ frame.dropLast.take accepted)
  | spoken {plan : Plan} {response : Response} {count : Nat} {buffer : Bytes} {line : Line}
      (spoken : count = plan.frames.length) :
      Leaving setting (.speaking plan response count buffer line) line.sent

theorem ne_done_of_broken {manner : Manner} {sending : Sending} {why : ProbeError}
    (broken : manner.broken sending = some why) : sending ≠ .done := by
  rintro rfl
  cases broken

theorem Fails.leaving {manner : Manner} {setting : Setting} {stage : Stage} {why : ProbeError}
    {sent : Bytes} (fails : Fails manner setting stage why sent) : Leaving setting stage sent := by
  cases fails with
  | unprepared refused => exact .unprepared refused
  | unconnected missed =>
    refine .unconnected fun line reached => ?_
    rw [reached] at missed
    cases missed
  | unasked sent broken =>
    obtain ⟨accepted, written⟩ := Line.send_ne_done sent (ne_done_of_broken broken)
    exact written ▸ .asking accepted
  | unanswered => exact .asked
  | rejected => exact .answered
  | unspoken unsent sent broken =>
    obtain ⟨accepted, written⟩ := Line.send_ne_done sent (ne_done_of_broken broken)
    exact written ▸ .speaking unsent accepted
  | unheard spoken => exact .spoken spoken

theorem Ends.leaving {manner : Manner} {setting : Setting} {stage : Stage} {outcome : Outcome}
    {sent : Bytes} (ends : Ends manner setting stage outcome sent) :
    Leaving setting stage sent := by
  cases ends with
  | failed fails => exact fails.leaving
  | silent spoken | replied spoken => exact .spoken spoken

theorem Blocking.Waits.leaving {setting : Setting} {stage : Stage} {turn : Nat}
    (waits : Waits stage turn) : Leaving setting stage stage.sent := by
  cases waits with
  | response => exact .asked
  | replies => exact .spoken rfl

theorem spoken_of_asked {setting : Setting} {plan : Plan} {line : Line} {run : Run} {asked : Bytes}
    (prepared : setting.plan = .ok plan) (front : asked <+: setting.request.toBytes)
    (sent : run.sent = line.sent ++ asked)
    (counted : ∀ report, run.report = some report → report.messagesSent = 0) :
    Spoken setting plan line run := by
  obtain ⟨⟨first, second, two⟩, full⟩ := frames_of_prepare prepared
  have none : wholly plan.frames 0 = 0 :=
    @wholly_take plan.frames 0 0 (Nat.zero_le _) fun frame next =>
      List.length_pos_iff.2 (full frame (List.mem_of_getElem? next))
  refine ⟨first, second, asked, [], two, ?_, front, List.nil_prefix, fun spoken => ?_, ?_⟩
  · rw [sent, List.append_nil]
  · exact absurd rfl spoken
  · intro report reported
    rw [counted report reported, List.length_nil, ← two, none]

theorem spoken_of_upgraded {setting : Setting} {plan : Plan} {line : Line} {run : Run}
    {count : Nat} {part : Bytes} (prepared : setting.plan = .ok plan)
    (upgraded : Upgraded setting.request line.arrivals) (within : count ≤ plan.frames.length)
    (partly : ∀ frame, plan.frames[count]? = some frame → part.length < frame.length)
    (front : (plan.frames.take count).flatten ++ part <+: plan.frames.flatten)
    (sent : run.sent =
      line.sent ++ setting.request.toBytes ++ ((plan.frames.take count).flatten ++ part))
    (counted : ∀ report, run.report = some report → report.messagesSent = count) :
    Spoken setting plan line run := by
  obtain ⟨⟨first, second, two⟩, -⟩ := frames_of_prepare prepared
  have whole := wholly_take within partly
  refine ⟨first, second, _, _, two, sent, List.prefix_refl _, ?_, fun _ => ⟨rfl, upgraded⟩, ?_⟩
  · rwa [two, List.flatten_cons, List.flatten_singleton, ← two] at front
  · intro report reported
    rw [counted report reported, List.length_append, ← two, whole]

theorem length_dropLast_take_lt {octets : Bytes} (full : octets ≠ []) (accepted : Nat) :
    (octets.dropLast.take accepted).length < octets.length := by
  have positive := List.length_pos_iff.2 full
  rw [List.length_take, List.length_dropLast]
  omega

theorem front_of_dropLast_take (octets : Bytes) (accepted : Nat) :
    octets.dropLast.take accepted <+: octets :=
  (List.take_prefix _ _).trans (List.dropLast_prefix _)

theorem disciplined_of_spoken {setting : Setting} {plan : Plan} {line : Line} {run : Run}
    (prepared : setting.plan = .ok plan) (connected : setting.reach = .connected line)
    (spoken : Spoken setting plan line run) : Disciplined setting run where
  unprepared why refused := by cases prepared.symm.trans refused
  unconnected missed := absurd connected (missed line)
  spoken plan' line' prepared' connected' := by
    cases prepared.symm.trans prepared'
    cases connected.symm.trans connected'
    exact spoken

/-- A run that is over at a stage that it came to is disciplined. -/
theorem Leaving.disciplined {setting : Setting} {stage : Stage} {run : Run}
    (leaving : Leaving setting stage run.sent) (reached : Reached setting stage)
    (counted : ∀ report, run.report = some report → report.messagesSent = stage.count) :
    Disciplined setting run := by
  have sound := reached.sound
  generalize left : run.sent = sent at leaving
  cases leaving with
  | unprepared refused =>
    refine ⟨fun _ _ => ⟨left, counted⟩, fun _ => ⟨left, counted⟩, fun plan line prepared => ?_⟩
    cases refused.symm.trans prepared
  | unconnected missed =>
    refine ⟨fun _ _ => ⟨left, counted⟩, fun _ => ⟨left, counted⟩, fun plan line _ reached => ?_⟩
    exact absurd reached (missed line)
  | asking accepted =>
    obtain ⟨prepared, connected⟩ := sound
    exact disciplined_of_spoken prepared connected
      (spoken_of_asked prepared (front_of_dropLast_take _ accepted) left counted)
  | asked =>
    obtain ⟨prepared, first, connected, -, -, written⟩ := sound
    exact disciplined_of_spoken prepared connected
      (spoken_of_asked prepared (List.prefix_refl _) (left.trans written) counted)
  | answered =>
    obtain ⟨prepared, first, connected, -, -, written⟩ := sound
    exact disciplined_of_spoken prepared connected
      (spoken_of_asked prepared (List.prefix_refl _) (left.trans written) counted)
  | @speaking plan _ count _ frame _ unsent accepted =>
    obtain ⟨prepared, valid, within, first, connected, -, wait, written⟩ := sound
    have full := (frames_of_prepare prepared).2 frame (List.mem_of_getElem? unsent)
    have partly : ∀ other, plan.frames[count]? = some other →
        (frame.dropLast.take accepted).length < other.length := by
      intro other next
      cases unsent.symm.trans next
      exact length_dropLast_take_lt full accepted
    have front := front_of_flatten_take unsent (front_of_dropLast_take frame accepted)
    rw [written, List.append_assoc] at left
    exact disciplined_of_spoken prepared connected
      (spoken_of_upgraded prepared (upgraded_of_wait wait valid) within partly front left counted)
  | @spoken plan _ count _ _ spoken =>
    obtain ⟨prepared, valid, within, first, connected, -, wait, written⟩ := sound
    have partly : ∀ other, plan.frames[count]? = some other →
        ([] : Bytes).length < other.length := by
      intro other next
      rw [spoken, List.getElem?_eq_none (Nat.le_refl _)] at next
      cases next
    have all : (plan.frames.take count).flatten ++ [] = plan.frames.flatten := by
      rw [spoken, List.take_length, List.append_nil]
    have front : (plan.frames.take count).flatten ++ [] <+: plan.frames.flatten :=
      all ▸ List.prefix_refl _
    rw [written, ← List.append_nil (plan.frames.take count).flatten] at left
    exact disciplined_of_spoken prepared connected
      (spoken_of_upgraded prepared (upgraded_of_wait wait valid) within partly front left counted)

theorem Concludes.disciplined {manner : Manner} {setting : Setting} {report : Report}
    {sent : Bytes} (concludes : Concludes manner setting report sent) :
    Disciplined setting ⟨some report, sent⟩ := by
  obtain ⟨stage, outcome, reached, ends, rfl⟩ := concludes
  refine Leaving.disciplined ends.leaving reached fun report reported => ?_
  cases reported
  rfl

theorem Blocking.Leaves.disciplined {setting : Setting} {clock : Nat → Instant} {run : Run}
    (leaves : Leaves setting clock run) : Disciplined setting run := by
  cases leaves with
  | report concludes => exact concludes.disciplined
  | nothing aborted =>
    obtain ⟨stage, turn, reached, waits, rfl, -⟩ := aborted
    exact Leaving.disciplined waits.leaving reached fun report reported => nomatch reported

/-- However the relay behaves and wherever a run ends, it has sent nothing without a plan, no frame
without an upgrade, and its request and its frames in their order as far as it has come. -/
theorem run_disciplined (setting : Setting) (clock : Nat → Instant) :
    Disciplined setting
        (Blocking.run setting.probe setting.now setting.masks setting.nonce clock setting.reach) ∧
      Disciplined setting
        (Cooperative.run setting.probe setting.now setting.masks setting.nonce setting.reach) := by
  constructor
  · exact (Blocking.run_leaves setting clock).disciplined
  · obtain ⟨report, sent, same, concludes⟩ := Cooperative.run_concludes setting
    rw [same]
    exact concludes.disciplined

end RelayCheck.Probe
