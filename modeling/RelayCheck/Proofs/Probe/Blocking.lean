import RelayCheck.Proofs.Probe.Stage

/-!
Runs that block go from stage to stage, unless they are aborted for want of a deadline.
-/

set_option autoImplicit false

namespace RelayCheck.Probe.Blocking

open Upgrade (Response)

def manner : Manner where
  late _ := "connection timed out"
  stalled := .io stallReason

/-- The stages with a wait ahead, and the number of the wait. -/
inductive Waits : Stage → Nat → Prop
  | response {plan : Plan} {line : Line} : Waits (.asked plan line) 0
  | replies {plan : Plan} {response : Response} {buffer : Bytes} {line : Line} :
      Waits (.speaking plan response plan.frames.length buffer line) 1

/-- A run was aborted at a stage that it had come to: the clock could not show the deadline of the
wait ahead. -/
def Aborted (setting : Setting) (clock : Nat → Instant) (sent : Bytes) : Prop :=
  ∃ stage turn, Reached setting stage ∧ Waits stage turn ∧ stage.sent = sent ∧
    (clock turn).after? setting.probe.config.timeoutSeconds = none

inductive Leaves (setting : Setting) (clock : Nat → Instant) : Run → Prop
  | report {report : Report} {sent : Bytes} (concludes : Concludes manner setting report sent) :
      Leaves setting clock ⟨some report, sent⟩
  | nothing {sent : Bytes} (aborted : Aborted setting clock sent) :
      Leaves setting clock ⟨none, sent⟩

theorem connect_cases (config : Config) (reach : Reach) :
    (∃ line, reach = .connected line ∧ connect config reach = .ok (.new config line)) ∨
      ∃ why, manner.missed config reach = some why ∧ connect config reach = .error why := by
  cases reach with
  | connected line => exact .inl ⟨line, rfl, rfl⟩
  | refused | timedOut | unusable => exact .inr ⟨_, rfl, rfl⟩

theorem send_cases (connection : Connection) (octets : Bytes) :
    (∃ next, connection.line.send octets = (.done, next) ∧
        send connection octets = (.ok (), { connection with line := next })) ∨
      ∃ sending next why, connection.line.send octets = (sending, next) ∧
        manner.broken sending = some why ∧
        send connection octets = (.error why, { connection with line := next }) := by
  rw [send]
  rcases connection.line.send octets with ⟨sending, next⟩
  cases sending with
  | done => exact .inl ⟨next, rfl, rfl⟩
  | failed | stalled => exact .inr ⟨_, next, _, rfl, rfl, rfl⟩

/-- Sending goes on frame by frame, from any number of frames that have been sent. -/
theorem sendAll_spoke {setting : Setting} {plan : Plan} {response : Response} {count : Nat}
    {connection : Connection} {ahead : List Bytes} (rest : plan.frames.drop count = ahead)
    (reached : Reached setting
      (.speaking plan response count connection.buffer connection.line)) :
    ∃ sent failure line, Spoke manner setting plan response connection.buffer sent failure line ∧
      sendAll connection count ahead = (sent, failure, { connection with line }) := by
  induction ahead generalizing count connection with
  | nil =>
    obtain rfl := count_eq_length_of_drop reached rest
    exact ⟨_, none, connection.line, .all reached, rfl⟩
  | cons frame frames ih =>
    obtain ⟨unsent, rest⟩ := getElem?_of_drop rest
    rw [sendAll]
    rcases send_cases connection frame with
      ⟨next, sent, same⟩ | ⟨sending, next, why, sent, broken, same⟩
    · rw [same]
      exact @ih (count + 1) { connection with line := next } rest
        (reached.step (.speak unsent sent))
    · rw [same]
      exact ⟨count, some why, next, .broken reached (.unspoken unsent sent broken), rfl⟩

theorem converse_leaves {setting : Setting} {plan : Plan} {response : Response}
    {connection : Connection} {report : Report} {clock : Nat → Instant}
    (timed : connection.timeoutSeconds = setting.probe.config.timeoutSeconds)
    (reached : Reached setting (.speaking plan response 0 connection.buffer connection.line))
    (begun : report = (Stage.speaking plan response 0 connection.buffer
      connection.line).report setting .noResponse) :
    Leaves setting clock (converse report plan.frames connection (clock 1)) := by
  have ahead : plan.frames.drop 0 = plan.frames := rfl
  obtain ⟨sent, failure, line, spoke, same⟩ := sendAll_spoke ahead reached
  rw [converse, same, begun]
  cases spoke with
  | broken reached fails => exact .report ⟨_, _, reached, .failed fails, rfl⟩
  | all reached =>
    obtain ⟨ending, rest, later, wait, read⟩ := awaitReplies_waits connection.buffer line.arrivals
    have concludes : Concludes manner setting _ line.sent :=
      ⟨_, _, reached, .of_wait wait, rfl⟩
    cases shown : (clock 1).after? connection.timeoutSeconds with
    | none =>
      simp only [readReplies, shown]
      exact .nothing ⟨_, 1, reached, .replies, rfl, timed ▸ shown⟩
    | some deadline =>
      simp only [readReplies, shown, read]
      cases result : repliesResult ending with
      | error why =>
        rw [result] at concludes
        exact .report concludes
      | ok replies =>
        rw [result] at concludes
        exact .report concludes

theorem upgrade_cases {setting : Setting} {plan : Plan} {line : Line} (clock : Nat → Instant)
    (reached : Reached setting (.connected plan line)) :
    (∃ response rest next, Reached setting (.answered plan response rest next) ∧
        upgrade (.new setting.probe.config line) setting.request (clock 0) =
          (.ok response, ⟨setting.address, setting.probe.config.timeoutSeconds, rest, next⟩)) ∨
      (∃ stage why connection, Reached setting stage ∧
        Fails manner setting stage why connection.line.sent ∧
        (∀ outcome, stage.report setting outcome =
          (Stage.connected plan line).report setting outcome) ∧
        upgrade (.new setting.probe.config line) setting.request (clock 0) =
          (.error (.failed why), connection)) ∨
      ∃ connection, Aborted setting clock connection.line.sent ∧
        upgrade (.new setting.probe.config line) setting.request (clock 0) =
          (.error .aborted, connection) := by
  rw [upgrade]
  rcases send_cases (.new setting.probe.config line) setting.request.toBytes with
    ⟨next, sent, same⟩ | ⟨sending, next, why, sent, broken, same⟩
  · have asked := reached.step (.ask sent)
    obtain ⟨ending, rest, later, wait, read⟩ :=
      awaitResponse_waits setting.address [] next.arrivals
    have read' : awaitResponse (Connection.new setting.probe.config line).address
        (Connection.new setting.probe.config line).buffer next.arrivals = _ := read
    have timed : (Connection.new setting.probe.config line).timeoutSeconds =
      setting.probe.config.timeoutSeconds := rfl
    cases shown : (clock 0).after? setting.probe.config.timeoutSeconds with
    | none =>
      simp only [same, timed, shown]
      exact .inr (.inr ⟨_, ⟨_, 0, asked, .response, rfl, shown⟩, rfl⟩)
    | some deadline =>
      simp only [same, timed, shown, read']
      cases ending with
      | found response => exact .inl ⟨response, rest, _, asked.step (.answer wait), rfl⟩
      | refused | hungUp | timedOut | failed =>
        exact .inr (.inl ⟨_, _, _, asked, .unanswered wait rfl, fun _ => rfl, rfl⟩)
  · rw [same]
    exact .inr (.inl ⟨.connected plan line, why,
      { Connection.new setting.probe.config line with line := next },
      reached, .unasked sent broken, fun _ => rfl, rfl⟩)

theorem follow_leaves {setting : Setting} {plan : Plan} {line : Line} {report : Report}
    {clock : Nat → Instant} (reached : Reached setting (.connected plan line))
    (begun : report = (Stage.connected plan line).report setting .noResponse) :
    Leaves setting clock
      (follow report plan setting.request clock (.new setting.probe.config line)) := by
  rw [follow, begun]
  rcases upgrade_cases clock reached with
    ⟨response, rest, next, answered, same⟩ | ⟨stage, why, connection, reached, fails, kept, same⟩ |
      ⟨connection, aborted, same⟩
  · simp only [same]
    cases valid : response.validate setting.request with
    | error fault => exact .report ⟨_, _, answered, .failed (.rejected valid), rfl⟩
    | ok =>
      have begun := answered.step (.accept valid)
      exact @converse_leaves _ _ _
        ⟨setting.address, setting.probe.config.timeoutSeconds, rest, next⟩ _ clock rfl begun rfl
  · simp only [same]
    exact .report ⟨stage, _, reached, .failed fails, (kept _).symm⟩
  · simp only [same]
    exact .nothing aborted

/-- A run that blocks ends at a stage that it comes to, with the report of that stage, or is
aborted. -/
theorem run_leaves (setting : Setting) (clock : Nat → Instant) :
    Leaves setting clock
      (run setting.probe setting.now setting.masks setting.nonce clock setting.reach) := by
  have started := Reached.started setting
  rw [run]
  cases prepared : setting.probe.prepare setting.now setting.masks with
  | error why => exact .report ⟨_, _, started, .failed (.unprepared prepared), rfl⟩
  | ok plan =>
    have planned := started.step (.prepare prepared)
    rcases connect_cases setting.probe.config setting.reach with
      ⟨line, reached, same⟩ | ⟨why, missed, same⟩
    · rw [same]
      exact follow_leaves (planned.step (.connect reached)) rfl
    · rw [same]
      exact .report ⟨_, _, planned, .failed (.unconnected missed), rfl⟩

end RelayCheck.Probe.Blocking
