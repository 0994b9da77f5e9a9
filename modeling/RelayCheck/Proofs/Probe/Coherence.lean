import RelayCheck.Proofs.Probe.Discipline

/-!
The reports of runs hold together.

A report is put together while a run goes on, and a run can end at every stage. What the report
says is in each case what the run has come to: each of its fields is known from the stages, and the
outcome is known from what fails first.
-/

set_option autoImplicit false

namespace RelayCheck.Probe

open Upgrade (Response)

/-! ## Statements -/

/-- A run has got the complete head of a response. -/
def HeadArrived (setting : Setting) (response : Response) : Prop :=
  ∃ plan buffer line, Reached setting (.answered plan response buffer line)

/-- A run has sent both of its frames, and the time to wait for the first reply ran out. -/
def Unanswered (setting : Setting) : Prop :=
  ∃ plan response buffer line rest later,
    Reached setting (.speaking plan response 2 buffer line) ∧ plan.frames.length = 2 ∧
      Wait lookReplies buffer line.arrivals .timedOut rest later

/-- What a report says is what the run has come to. -/
structure Coherent (manner : Manner) (setting : Setting) (report : Report) : Prop where
  target : report.target = setting.probe.config.address
  identified : ∀ id, report.eventId = some id ↔
    ∃ plan, setting.probe.prepare setting.now setting.masks = .ok plan ∧ plan.event.id = id
  answered : ∀ status, report.handshakeStatus = some status ↔
    ∃ response, HeadArrived setting response ∧ response.status = status
  prepared : report.handshakeStatus ≠ none → report.eventId ≠ none
  bounded : report.messagesSent ≤ 2
  upgraded : 0 < report.messagesSent → report.handshakeStatus = some 101
  response : ∀ replies, report.outcome = .response replies →
    replies ≠ [] ∧ report.messagesSent = 2 ∧ report.handshakeStatus = some 101
  noResponse : report.outcome = .noResponse ↔ Unanswered setting
  /-- The run has come to a stage at which this fails; everything before it has succeeded. -/
  failed : ∀ why, report.outcome = .failed why ↔
    ∃ stage sent, Reached setting stage ∧ Fails manner setting stage why sent
  accepted : report.accepted ≠ none → ∃ replies, report.outcome = .response replies

/-! ## Fields of a report -/

theorem Reached.plan_eq {setting : Setting} {stage : Stage} {plan : Plan}
    (reached : Reached setting stage) (planned : stage.plan? = some plan) :
    setting.plan = .ok plan := by
  have sound := reached.sound
  cases stage with
  | started => cases planned
  | prepared =>
    cases planned
    exact sound
  | connected | asked | answered | speaking =>
    cases planned
    exact sound.1

/-- The response at a stage is one whose head arrived at a stage before. -/
theorem Reached.headArrived {setting : Setting} {stage : Stage} {response : Response}
    (reached : Reached setting stage) (answered : stage.response? = some response) :
    HeadArrived setting response := by
  induction reached with
  | refl => cases answered
  | tail reached step ih =>
    cases step with
    | prepare | connect | ask => cases answered
    | answer wait =>
      cases answered
      exact ⟨_, _, _, .step reached (.answer wait)⟩
    | accept =>
      cases answered
      exact ⟨_, _, _, reached⟩
    | speak => exact ih answered

theorem Reached.speaking {setting : Setting} {plan : Plan} {response : Response} {count : Nat}
    {buffer : Bytes} {line : Line}
    (reached : Reached setting (.speaking plan response count buffer line)) :
    plan.frames.length = 2 ∧ count ≤ 2 ∧ response.status = 101 := by
  obtain ⟨prepared, valid, within, -⟩ := reached.sound
  obtain ⟨⟨first, second, two⟩, -⟩ := frames_of_prepare prepared
  rw [two] at within
  exact ⟨congrArg List.length two, within, (accepted_of_validate valid).status⟩

theorem Reached.plan?_eq_some_iff {setting : Setting} {last : Stage} {plan : Plan}
    (reached : Reached setting last) (stays : ∀ next, ¬ Step setting last next) :
    last.plan? = some plan ↔ setting.plan = .ok plan := by
  constructor
  · exact reached.plan_eq
  · intro prepared
    have planned := (Reached.started setting).step (.prepare prepared)
    exact plan?_eq_of_before (planned.before reached stays) rfl

theorem Reached.response?_eq_some_iff {setting : Setting} {last : Stage} {response : Response}
    (reached : Reached setting last) (stays : ∀ next, ¬ Step setting last next) :
    last.response? = some response ↔ HeadArrived setting response := by
  constructor
  · exact reached.headArrived
  · rintro ⟨plan, buffer, line, answered⟩
    exact response?_eq_of_before (answered.before reached stays) rfl

theorem Stage.plan?_ne_none {stage : Stage} (answered : stage.response? ≠ none) :
    stage.plan? ≠ none := by
  cases stage with
  | started | prepared | connected | asked => exact absurd rfl answered
  | answered | speaking => exact Option.some_ne_none _

theorem Reached.count_le {setting : Setting} {stage : Stage} (reached : Reached setting stage) :
    stage.count ≤ 2 ∧ (0 < stage.count → stage.response?.map (·.status) = some 101) := by
  cases stage with
  | speaking =>
    obtain ⟨-, bounded, switching⟩ := reached.speaking
    exact ⟨bounded, fun _ => congrArg some switching⟩
  | started | prepared | connected | asked | answered =>
    exact ⟨Nat.zero_le _, fun positive => absurd positive (Nat.lt_irrefl 0)⟩

theorem Ends.replied_iff {manner : Manner} {setting : Setting} {stage : Stage}
    {replies : List Reply} {sent : Bytes} (reached : Reached setting stage)
    (ends : Ends manner setting stage (.response replies) sent) :
    replies ≠ [] ∧ stage.count = 2 ∧ stage.response?.map (·.status) = some 101 := by
  cases ends with
  | replied spoken wait =>
    obtain ⟨two, -, switching⟩ := reached.speaking
    obtain ⟨chunks, -, seen⟩ := wait.chunks_of_found
    exact ⟨ne_nil_of_lookReplies seen, spoken.trans two, congrArg some switching⟩

theorem response_of_accepted {report : Report} (accepted : report.accepted ≠ none) :
    ∃ replies, report.outcome = .response replies := by
  rw [Report.accepted, Report.messages] at accepted
  cases outcome : report.outcome with
  | response replies => exact ⟨replies, rfl⟩
  | noResponse | failed =>
    rw [outcome] at accepted
    split at accepted
    · exact absurd rfl accepted
    · exact absurd rfl accepted

/-- How a run ends is known from any stage at which runs end that it comes to. -/
theorem Concludes.outcome_eq_iff {manner : Manner} {setting : Setting} {report : Report}
    {sent : Bytes} (concludes : Concludes manner setting report sent) (outcome : Outcome) :
    report.outcome = outcome ↔
      ∃ stage sent, Reached setting stage ∧ Ends manner setting stage outcome sent := by
  obtain ⟨last, known, reached, ends, rfl⟩ := concludes
  constructor
  · rintro rfl
    exact ⟨last, sent, reached, ends⟩
  · rintro ⟨stage, sent', reached', ends'⟩
    obtain rfl := reached.last_unique reached' (fun _ => ends.not_step) (fun _ => ends'.not_step)
    exact (ends.unique ends').1

theorem exists_silent_iff {manner : Manner} {setting : Setting} :
    (∃ stage sent, Reached setting stage ∧ Ends manner setting stage .noResponse sent) ↔
      Unanswered setting := by
  constructor
  · rintro ⟨stage, sent, reached, ends⟩
    cases ends with
    | silent spoken wait =>
      have two := reached.speaking.1
      exact ⟨_, _, _, _, _, _, spoken.trans two ▸ reached, two, wait⟩
  · rintro ⟨plan, response, buffer, line, rest, later, reached, two, wait⟩
    exact ⟨_, _, reached, .silent two.symm wait⟩

theorem exists_failed_iff {manner : Manner} {setting : Setting} {why : ProbeError} :
    (∃ stage sent, Reached setting stage ∧ Ends manner setting stage (.failed why) sent) ↔
      ∃ stage sent, Reached setting stage ∧ Fails manner setting stage why sent := by
  constructor
  · rintro ⟨stage, sent, reached, ends⟩
    cases ends with
    | failed fails => exact ⟨stage, sent, reached, fails⟩
  · rintro ⟨stage, sent, reached, fails⟩
    exact ⟨stage, sent, reached, .failed fails⟩

theorem Concludes.coherent {manner : Manner} {setting : Setting} {report : Report} {sent : Bytes}
    (concludes : Concludes manner setting report sent) : Coherent manner setting report := by
  have outcomes := concludes.outcome_eq_iff
  obtain ⟨last, known, reached, ends, rfl⟩ := concludes
  have stays (next : Stage) : ¬ Step setting last next := ends.not_step
  have counted := reached.count_le
  refine
    { target := rfl, identified := fun id => ?_, answered := fun status => ?_,
      prepared := fun answered => ?_, bounded := counted.1, upgraded := counted.2,
      response := fun replies replied => ?_, noResponse := ?_, failed := fun why => ?_,
      accepted := response_of_accepted }
  · simp only [Stage.report, Option.map_eq_some_iff, reached.plan?_eq_some_iff stays]
    rfl
  · simp only [Stage.report, Option.map_eq_some_iff, reached.response?_eq_some_iff stays]
  · simp only [Stage.report, ne_eq, Option.map_eq_none_iff] at answered ⊢
    exact Stage.plan?_ne_none answered
  · cases replied
    exact ends.replied_iff reached
  · rw [outcomes, exists_silent_iff]
  · rw [outcomes, exists_failed_iff]

/-- The report of a run is coherent. There always is one, unless the run blocks and the clock
cannot show a deadline. -/
theorem run_coherent (setting : Setting) (clock : Nat → Instant) :
    (∃ report,
        (Cooperative.run setting.probe setting.now setting.masks setting.nonce
          setting.reach).report = some report ∧ Coherent Cooperative.manner setting report) ∧
      (∀ report,
        (Blocking.run setting.probe setting.now setting.masks setting.nonce clock
          setting.reach).report = some report → Coherent Blocking.manner setting report) ∧
      ((Blocking.run setting.probe setting.now setting.masks setting.nonce clock
          setting.reach).report = none →
        ∃ turn, turn < 2 ∧ (clock turn).after? setting.probe.config.timeoutSeconds = none) := by
  have leaves := Blocking.run_leaves setting clock
  refine ⟨?_, ?_, ?_⟩
  · obtain ⟨report, sent, same, concludes⟩ := Cooperative.run_concludes setting
    exact ⟨report, congrArg Run.report same, concludes.coherent⟩
  · intro report reported
    generalize Blocking.run _ _ _ _ _ _ = run at leaves reported
    cases leaves with
    | report concludes =>
      cases reported
      exact concludes.coherent
    | nothing => cases reported
  · intro unreported
    generalize Blocking.run _ _ _ _ _ _ = run at leaves unreported
    cases leaves with
    | report => cases unreported
    | nothing aborted =>
      obtain ⟨stage, turn, -, waits, -, unshown⟩ := aborted
      exact ⟨turn, by cases waits <;> decide, unshown⟩

end RelayCheck.Probe
