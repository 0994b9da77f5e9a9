import Mathlib.Logic.Relation
import RelayCheck.Proofs.Probe.Delivery
import RelayCheck.Proofs.Probe.Wait

/-!
The stages of a run.

A run goes from stage to stage, each time by one thing that succeeds, and ends at the first stage
at which something fails or at which the relay has had its say. The two ways to run a probe differ
in what they say of time that has run out, and in nothing else that is told here.
-/

set_option autoImplicit false

namespace RelayCheck.Probe

open Upgrade (Request Response UpgradeError)

/-- What a run is given, apart from its clock. -/
structure Setting where
  probe : Probe
  now : Int64
  masks : Nat → Frame.Mask
  nonce : Bytes
  reach : Reach

namespace Setting

def plan (setting : Setting) : Except ProbeError Plan :=
  setting.probe.prepare setting.now setting.masks

def request (setting : Setting) : Request :=
  setting.probe.request setting.nonce

def address (setting : Setting) : String :=
  setting.probe.config.address

end Setting

/-- A stage of a run: nothing has been done, there is a plan, the relay has been reached, the
request has been sent, the head of a response has arrived, or the response has been accepted and
`count` frames have been sent. -/
inductive Stage
  | started
  | prepared (plan : Plan)
  | connected (plan : Plan) (line : Line)
  | asked (plan : Plan) (line : Line)
  | answered (plan : Plan) (response : Response) (buffer : Bytes) (line : Line)
  | speaking (plan : Plan) (response : Response) (count : Nat) (buffer : Bytes) (line : Line)

namespace Stage

def plan? : Stage → Option Plan
  | .started => none
  | .prepared plan | .connected plan _ | .asked plan _ | .answered plan _ _ _
  | .speaking plan _ _ _ _ => some plan

def response? : Stage → Option Response
  | .answered _ response _ _ | .speaking _ response _ _ _ => some response
  | _ => none

def count : Stage → Nat
  | .speaking _ _ count _ _ => count
  | _ => 0

def sent : Stage → Bytes
  | .started | .prepared _ => []
  | .connected _ line | .asked _ line | .answered _ _ _ line | .speaking _ _ _ _ line => line.sent

def report (setting : Setting) (stage : Stage) (outcome : Outcome) : Report where
  target := setting.address
  handshakeStatus := stage.response?.map (·.status)
  eventId := stage.plan?.map (·.event.id)
  messagesSent := stage.count
  outcome := outcome

end Stage

/-- From one stage to the next, by one thing that succeeds. -/
inductive Step (setting : Setting) : Stage → Stage → Prop
  | prepare {plan : Plan} (prepared : setting.plan = .ok plan) :
      Step setting .started (.prepared plan)
  | connect {plan : Plan} {line : Line} (reached : setting.reach = .connected line) :
      Step setting (.prepared plan) (.connected plan line)
  | ask {plan : Plan} {line next : Line}
      (sent : line.send setting.request.toBytes = (.done, next)) :
      Step setting (.connected plan line) (.asked plan next)
  | answer {plan : Plan} {line : Line} {response : Response} {rest : Bytes}
      {later : List Arrival}
      (wait : Wait lookHead [] line.arrivals (.found response) rest later) :
      Step setting (.asked plan line)
        (.answered plan response rest { line with arrivals := later })
  | accept {plan : Plan} {response : Response} {buffer : Bytes} {line : Line}
      (valid : response.validate setting.request = .ok ()) :
      Step setting (.answered plan response buffer line) (.speaking plan response 0 buffer line)
  | speak {plan : Plan} {response : Response} {count : Nat} {buffer frame : Bytes}
      {line next : Line} (unsent : plan.frames[count]? = some frame)
      (sent : line.send frame = (.done, next)) :
      Step setting (.speaking plan response count buffer line)
        (.speaking plan response (count + 1) buffer next)

/-- What a way to run a probe says of time that has run out. -/
structure Manner where
  late : Config → String
  stalled : ProbeError

namespace Manner

def missed (manner : Manner) (config : Config) : Reach → Option ProbeError
  | .connected _ => none
  | .refused reason => some (.connection config.address reason)
  | .timedOut => some (.connection config.address (manner.late config))
  | .unusable reason => some (.io reason)

def broken (manner : Manner) : Sending → Option ProbeError
  | .done => none
  | .failed reason => some (.io reason)
  | .stalled => some manner.stalled

end Manner

/-- What fails at a stage, and what the relay has been sent by then. -/
inductive Fails (manner : Manner) (setting : Setting) : Stage → ProbeError → Bytes → Prop
  | unprepared {why : ProbeError} (refused : setting.plan = .error why) :
      Fails manner setting .started why []
  | unconnected {plan : Plan} {why : ProbeError}
      (missed : manner.missed setting.probe.config setting.reach = some why) :
      Fails manner setting (.prepared plan) why []
  | unasked {plan : Plan} {line next : Line} {sending : Sending} {why : ProbeError}
      (sent : line.send setting.request.toBytes = (sending, next))
      (broken : manner.broken sending = some why) :
      Fails manner setting (.connected plan line) why next.sent
  | unanswered {plan : Plan} {line : Line} {ending : WaitEnd Response UpgradeError}
      {rest : Bytes} {later : List Arrival} {why : ProbeError}
      (wait : Wait lookHead [] line.arrivals ending rest later)
      (unfound : headResult setting.address ending = .error why) :
      Fails manner setting (.asked plan line) why line.sent
  | rejected {plan : Plan} {response : Response} {buffer : Bytes} {line : Line}
      {fault : UpgradeError} (invalid : response.validate setting.request = .error fault) :
      Fails manner setting (.answered plan response buffer line)
        (.handshake setting.address fault) line.sent
  | unspoken {plan : Plan} {response : Response} {count : Nat} {buffer frame : Bytes}
      {line next : Line} {sending : Sending} {why : ProbeError}
      (unsent : plan.frames[count]? = some frame) (sent : line.send frame = (sending, next))
      (broken : manner.broken sending = some why) :
      Fails manner setting (.speaking plan response count buffer line) why next.sent
  | unheard {plan : Plan} {response : Response} {count : Nat} {buffer : Bytes} {line : Line}
      {ending : WaitEnd (List Reply) ProbeError} {rest : Bytes} {later : List Arrival}
      {why : ProbeError} (spoken : count = plan.frames.length)
      (wait : Wait lookReplies buffer line.arrivals ending rest later)
      (patient : ending ≠ .timedOut) (unfound : repliesResult ending = .error why) :
      Fails manner setting (.speaking plan response count buffer line) why line.sent

/-- How a run ends at a stage, and what the relay has been sent by then. -/
inductive Ends (manner : Manner) (setting : Setting) : Stage → Outcome → Bytes → Prop
  | failed {stage : Stage} {why : ProbeError} {sent : Bytes}
      (fails : Fails manner setting stage why sent) :
      Ends manner setting stage (.failed why) sent
  | silent {plan : Plan} {response : Response} {count : Nat} {buffer : Bytes} {line : Line}
      {rest : Bytes} {later : List Arrival} (spoken : count = plan.frames.length)
      (wait : Wait lookReplies buffer line.arrivals .timedOut rest later) :
      Ends manner setting (.speaking plan response count buffer line) .noResponse line.sent
  | replied {plan : Plan} {response : Response} {count : Nat} {buffer : Bytes} {line : Line}
      {replies : List Reply} {rest : Bytes} {later : List Arrival}
      (spoken : count = plan.frames.length)
      (wait : Wait lookReplies buffer line.arrivals (.found replies) rest later) :
      Ends manner setting (.speaking plan response count buffer line) (.response replies) line.sent

/-- The stages that a run comes to, each after everything before it has succeeded. -/
def Reached (setting : Setting) (stage : Stage) : Prop :=
  Relation.ReflTransGen (Step setting) .started stage

theorem Reached.started (setting : Setting) : Reached setting .started := .refl

theorem Reached.step {setting : Setting} {stage next : Stage} (reached : Reached setting stage)
    (step : Step setting stage next) : Reached setting next := .tail reached step

/-! ## Stages follow one another in one way -/

theorem Step.unique {setting : Setting} {stage next next' : Stage} (step : Step setting stage next)
    (other : Step setting stage next') : next = next' := by
  cases step with
  | prepare prepared =>
    cases other with
    | prepare prepared' =>
      cases prepared.symm.trans prepared'
      rfl
  | connect reached =>
    cases other with
    | connect reached' =>
      cases reached.symm.trans reached'
      rfl
  | ask sent =>
    cases other with
    | ask sent' =>
      cases sent.symm.trans sent'
      rfl
  | answer wait =>
    cases other with
    | answer wait' =>
      obtain ⟨same, rfl, rfl⟩ := wait.unique wait'
      cases same
      rfl
  | accept =>
    cases other with
    | accept => rfl
  | speak unsent sent =>
    cases other with
    | speak unsent' sent' =>
      cases unsent.symm.trans unsent'
      cases sent.symm.trans sent'
      rfl

theorem Fails.not_step {manner : Manner} {setting : Setting} {stage next : Stage}
    {why : ProbeError} {sent : Bytes} (fails : Fails manner setting stage why sent) :
    ¬ Step setting stage next := by
  intro step
  cases fails with
  | unprepared refused =>
    cases step with
    | prepare prepared => cases refused.symm.trans prepared
  | unconnected missed =>
    cases step with
    | connect reached =>
      rw [reached] at missed
      cases missed
  | unasked sent broken =>
    cases step with
    | ask sent' =>
      cases sent.symm.trans sent'
      cases broken
  | unanswered wait unfound =>
    cases step with
    | answer wait' =>
      obtain ⟨rfl, -, -⟩ := wait.unique wait'
      cases unfound
  | rejected invalid =>
    cases step with
    | accept valid => cases invalid.symm.trans valid
  | unspoken unsent sent broken =>
    cases step with
    | speak unsent' sent' =>
      cases unsent.symm.trans unsent'
      cases sent.symm.trans sent'
      cases broken
  | unheard spoken =>
    cases step with
    | speak unsent =>
      rw [spoken, List.getElem?_eq_none (Nat.le_refl _)] at unsent
      cases unsent

theorem Ends.not_step {manner : Manner} {setting : Setting} {stage next : Stage}
    {outcome : Outcome} {sent : Bytes} (ends : Ends manner setting stage outcome sent) :
    ¬ Step setting stage next := by
  cases ends with
  | failed fails => exact fails.not_step
  | silent spoken | replied spoken =>
    rintro ⟨⟩
    next unsent _ =>
      rw [spoken, List.getElem?_eq_none (Nat.le_refl _)] at unsent
      cases unsent

theorem Fails.unique {manner : Manner} {setting : Setting} {stage : Stage} {why why' : ProbeError}
    {sent sent' : Bytes} (fails : Fails manner setting stage why sent)
    (other : Fails manner setting stage why' sent') : why = why' ∧ sent = sent' := by
  cases fails with
  | unprepared refused =>
    cases other with
    | unprepared refused' =>
      cases refused.symm.trans refused'
      exact ⟨rfl, rfl⟩
  | unconnected missed =>
    cases other with
    | unconnected missed' =>
      cases missed.symm.trans missed'
      exact ⟨rfl, rfl⟩
  | unasked sent broken =>
    cases other with
    | unasked sent' broken' =>
      cases sent.symm.trans sent'
      cases broken.symm.trans broken'
      exact ⟨rfl, rfl⟩
  | unanswered wait unfound =>
    cases other with
    | unanswered wait' unfound' =>
      obtain ⟨rfl, -, -⟩ := wait.unique wait'
      cases unfound.symm.trans unfound'
      exact ⟨rfl, rfl⟩
  | rejected invalid =>
    cases other with
    | rejected invalid' =>
      cases invalid.symm.trans invalid'
      exact ⟨rfl, rfl⟩
  | unspoken unsent sent broken =>
    cases other with
    | unspoken unsent' sent' broken' =>
      cases unsent.symm.trans unsent'
      cases sent.symm.trans sent'
      cases broken.symm.trans broken'
      exact ⟨rfl, rfl⟩
    | unheard spoken =>
      rw [spoken, List.getElem?_eq_none (Nat.le_refl _)] at unsent
      cases unsent
  | unheard spoken wait patient unfound =>
    cases other with
    | unspoken unsent =>
      rw [spoken, List.getElem?_eq_none (Nat.le_refl _)] at unsent
      cases unsent
    | unheard spoken' wait' patient' unfound' =>
      obtain ⟨rfl, -, -⟩ := wait.unique wait'
      cases unfound.symm.trans unfound'
      exact ⟨rfl, rfl⟩

theorem Fails.not_heard {manner : Manner} {setting : Setting} {plan : Plan} {response : Response}
    {count : Nat} {buffer rest sent : Bytes} {line : Line} {why : ProbeError}
    {ending : WaitEnd (List Reply) ProbeError} {later : List Arrival}
    (fails : Fails manner setting (.speaking plan response count buffer line) why sent)
    (spoken : count = plan.frames.length)
    (wait : Wait lookReplies buffer line.arrivals ending rest later) :
    ending ≠ .timedOut ∧ repliesResult ending = .error why := by
  cases fails with
  | unspoken unsent =>
    rw [spoken, List.getElem?_eq_none (Nat.le_refl _)] at unsent
    cases unsent
  | unheard _ wait' patient unfound =>
    obtain ⟨rfl, -, -⟩ := wait.unique wait'
    exact ⟨patient, unfound⟩

theorem Ends.unique {manner : Manner} {setting : Setting} {stage : Stage}
    {outcome outcome' : Outcome} {sent sent' : Bytes}
    (ends : Ends manner setting stage outcome sent)
    (other : Ends manner setting stage outcome' sent') : outcome = outcome' ∧ sent = sent' := by
  cases ends with
  | failed fails =>
    cases other with
    | failed fails' =>
      obtain ⟨rfl, rfl⟩ := fails.unique fails'
      exact ⟨rfl, rfl⟩
    | silent spoken wait => exact absurd rfl (fails.not_heard spoken wait).1
    | replied spoken wait => cases (fails.not_heard spoken wait).2
  | silent spoken wait =>
    cases other with
    | failed fails => exact absurd rfl (fails.not_heard spoken wait).1
    | silent => exact ⟨rfl, rfl⟩
    | replied _ wait' => cases (wait.unique wait').1
  | replied spoken wait =>
    cases other with
    | failed fails => cases (fails.not_heard spoken wait).2
    | silent _ wait' => cases (wait.unique wait').1
    | replied _ wait' =>
      cases (wait.unique wait').1
      exact ⟨rfl, rfl⟩

/-- Every stage that a run comes to lies before the one that is not left. -/
theorem Reached.before {setting : Setting} {stage last : Stage} (reached : Reached setting stage)
    (final : Reached setting last) (stays : ∀ next, ¬ Step setting last next) :
    Relation.ReflTransGen (Step setting) stage last := by
  have functional : Relator.RightUnique (Step setting) := fun _ _ _ => Step.unique
  rcases Relation.ReflTransGen.total_of_right_unique functional reached final with before | after
  · exact before
  · rcases Relation.ReflTransGen.cases_head after with rfl | ⟨next, step, -⟩
    · exact .refl
    · exact absurd step (stays next)

/-- The stage at which a run ends is one and the same, whatever is said of time. -/
theorem Reached.last_unique {setting : Setting} {last last' : Stage}
    (reached : Reached setting last) (reached' : Reached setting last')
    (stays : ∀ next, ¬ Step setting last next) (stays' : ∀ next, ¬ Step setting last' next) :
    last = last' := by
  rcases Relation.ReflTransGen.cases_head (reached.before reached' stays') with
    same | ⟨next, step, -⟩
  · exact same
  · exact absurd step (stays next)

/-! ## What holds at every stage -/

namespace Line

theorem send_eq_done {line next : Line} {octets : Bytes}
    (sent : line.send octets = (.done, next)) :
    next.departures <:+ line.departures ∧ next.arrivals = line.arrivals ∧
      next.sent = line.sent ++ octets := by
  obtain ⟨departures, arrivals, before⟩ := line
  match departures with
  | [] | .whole :: _ =>
    cases sent
    exact ⟨by simp, rfl, rfl⟩
  | .failed _ _ :: _ | .stalled _ :: _ => cases sent

theorem send_ne_done {line next : Line} {octets : Bytes} {sending : Sending}
    (sent : line.send octets = (sending, next)) (broken : sending ≠ .done) :
    ∃ accepted, next.sent = line.sent ++ octets.dropLast.take accepted := by
  obtain ⟨departures, arrivals, before⟩ := line
  match departures with
  | [] | .whole :: _ =>
    cases sent
    exact absurd rfl broken
  | .failed accepted _ :: _ | .stalled accepted :: _ =>
    cases sent
    exact ⟨accepted, rfl⟩

theorem send_eq_stalled {line next : Line} {octets : Bytes}
    (sent : line.send octets = (.stalled, next)) :
    ∃ accepted, .stalled accepted ∈ line.departures := by
  obtain ⟨departures, arrivals, before⟩ := line
  match departures with
  | [] | .whole :: _ | .failed _ _ :: _ => cases sent
  | .stalled accepted :: _ => exact ⟨accepted, List.mem_cons_self⟩

end Line

/-- What a run has done and learned when it comes to a stage. -/
def Stage.Sound (setting : Setting) : Stage → Prop
  | .started => True
  | .prepared plan => setting.plan = .ok plan
  | .connected plan line => setting.plan = .ok plan ∧ setting.reach = .connected line
  | .asked plan line =>
    setting.plan = .ok plan ∧ ∃ first, setting.reach = .connected first ∧
      line.departures <:+ first.departures ∧ line.arrivals = first.arrivals ∧
      line.sent = first.sent ++ setting.request.toBytes
  | .answered plan response buffer line =>
    setting.plan = .ok plan ∧ ∃ first, setting.reach = .connected first ∧
      line.departures <:+ first.departures ∧
      Wait lookHead [] first.arrivals (.found response) buffer line.arrivals ∧
      line.sent = first.sent ++ setting.request.toBytes
  | .speaking plan response count buffer line =>
    setting.plan = .ok plan ∧ response.validate setting.request = .ok () ∧
      count ≤ plan.frames.length ∧ ∃ first, setting.reach = .connected first ∧
      line.departures <:+ first.departures ∧
      Wait lookHead [] first.arrivals (.found response) buffer line.arrivals ∧
      line.sent =
        first.sent ++ setting.request.toBytes ++ (plan.frames.take count).flatten

theorem Stage.Sound.step {setting : Setting} {stage next : Stage} (sound : stage.Sound setting)
    (step : Step setting stage next) : next.Sound setting := by
  cases step with
  | prepare prepared => exact prepared
  | connect reached => exact ⟨sound, reached⟩
  | ask sent =>
    obtain ⟨prepared, reached⟩ := sound
    obtain ⟨fewer, kept, appended⟩ := Line.send_eq_done sent
    exact ⟨prepared, _, reached, fewer, kept, appended⟩
  | answer wait =>
    obtain ⟨prepared, first, reached, fewer, kept, written⟩ := sound
    rw [kept] at wait
    exact ⟨prepared, first, reached, fewer, wait, written⟩
  | accept valid =>
    obtain ⟨prepared, first, reached, fewer, wait, written⟩ := sound
    refine ⟨prepared, valid, Nat.zero_le _, first, reached, fewer, wait, ?_⟩
    rw [List.take_zero, List.flatten_nil, List.append_nil]
    exact written
  | @speak plan response count buffer frame line next unsent sent =>
    obtain ⟨prepared, valid, -, first, reached, fewer, wait, written⟩ := sound
    obtain ⟨fewer', kept, appended⟩ := Line.send_eq_done sent
    obtain ⟨within, rfl⟩ := List.getElem?_eq_some_iff.1 unsent
    refine ⟨prepared, valid, within, first, reached, fewer'.trans fewer, kept ▸ wait, ?_⟩
    rw [appended, written, List.take_add_one, unsent, Option.toList_some, List.flatten_append,
      List.flatten_singleton, List.append_assoc]

theorem Reached.sound {setting : Setting} {stage : Stage} (reached : Reached setting stage) :
    stage.Sound setting := by
  induction reached with
  | refl => trivial
  | tail _ step sound => exact sound.step step

theorem Step.plan?_eq {setting : Setting} {stage next : Stage} {plan : Plan}
    (step : Step setting stage next) (planned : stage.plan? = some plan) :
    next.plan? = some plan := by
  cases step with
  | prepare => cases planned
  | connect | ask | answer | accept | speak => exact planned

theorem Step.response?_eq {setting : Setting} {stage next : Stage} {response : Response}
    (step : Step setting stage next) (answered : stage.response? = some response) :
    next.response? = some response := by
  cases step with
  | prepare | connect | ask | answer => cases answered
  | accept | speak => exact answered

theorem plan?_eq_of_before {setting : Setting} {stage last : Stage} {plan : Plan}
    (before : Relation.ReflTransGen (Step setting) stage last)
    (planned : stage.plan? = some plan) : last.plan? = some plan := by
  induction before with
  | refl => exact planned
  | tail _ step ih => exact step.plan?_eq ih

theorem response?_eq_of_before {setting : Setting} {stage last : Stage} {response : Response}
    (before : Relation.ReflTransGen (Step setting) stage last)
    (answered : stage.response? = some response) : last.response? = some response := by
  induction before with
  | refl => exact answered
  | tail _ step ih => exact step.response?_eq ih

/-! ## Conclusions -/

/-- A report and what has been sent by then are those of a run that ends at a stage that it comes
to. -/
def Concludes (manner : Manner) (setting : Setting) (report : Report) (sent : Bytes) : Prop :=
  ∃ stage outcome, Reached setting stage ∧ Ends manner setting stage outcome sent ∧
    report = stage.report setting outcome

/-- A run that has sent all frames ends as its wait for replies does. -/
theorem Ends.of_wait {manner : Manner} {setting : Setting} {plan : Plan} {response : Response}
    {buffer rest : Bytes} {line : Line} {ending : WaitEnd (List Reply) ProbeError}
    {later : List Arrival} (wait : Wait lookReplies buffer line.arrivals ending rest later) :
    Ends manner setting (.speaking plan response plan.frames.length buffer line)
      (.ofReplies (repliesResult ending)) line.sent := by
  cases ending with
  | found replies => exact .replied rfl wait
  | timedOut => exact .silent rfl wait
  | hungUp => exact .failed (.unheard rfl wait (by simp) rfl)
  | failed reason => exact .failed (.unheard rfl wait (by simp) rfl)
  | refused why =>
    obtain ⟨reason, rfl⟩ := protocol_of_lookReplies wait.seen_of_refused
    exact .failed (.unheard rfl wait (by simp) rfl)

/-- How the sending of frames may go: how many have been sent, the error if there is one, and the
line then. -/
inductive Spoke (manner : Manner) (setting : Setting) (plan : Plan) (response : Response)
    (buffer : Bytes) : Nat → Option ProbeError → Line → Prop
  | all {line : Line}
      (reached : Reached setting (.speaking plan response plan.frames.length buffer line)) :
      Spoke manner setting plan response buffer plan.frames.length none line
  | broken {count : Nat} {line next : Line} {why : ProbeError}
      (reached : Reached setting (.speaking plan response count buffer line))
      (fails : Fails manner setting (.speaking plan response count buffer line) why next.sent) :
      Spoke manner setting plan response buffer count (some why) next

theorem count_eq_length_of_drop {setting : Setting} {plan : Plan} {response : Response}
    {count : Nat} {buffer : Bytes} {line : Line}
    (reached : Reached setting (.speaking plan response count buffer line))
    (done : plan.frames.drop count = []) : count = plan.frames.length := by
  obtain ⟨-, -, within, -⟩ := reached.sound
  exact Nat.le_antisymm within (List.drop_eq_nil_iff.1 done)

theorem getElem?_of_drop {Item : Type} {items rest : List Item} {item : Item} {count : Nat}
    (ahead : items.drop count = item :: rest) :
    items[count]? = some item ∧ items.drop (count + 1) = rest := by
  rw [← List.head?_drop, ← List.tail_drop, ahead]
  exact ⟨rfl, rfl⟩

end RelayCheck.Probe
