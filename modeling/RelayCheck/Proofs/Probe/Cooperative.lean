import RelayCheck.Proofs.Probe.Stage

/-!
Runs that share their thread go from stage to stage.
-/

set_option autoImplicit false

namespace RelayCheck.Probe.Cooperative

open Upgrade (Response)

def manner : Manner where
  late config := "connect timed out after " ++ toString config.timeoutSeconds.toNat ++ "s"
  stalled := .timeout "write"

theorem connect_cases (config : Config) (reach : Reach) :
    (∃ line, reach = .connected line ∧ connect config reach = .ok (.new config line)) ∨
      ∃ why, manner.missed config reach = some why ∧ connect config reach = .error why := by
  cases reach with
  | connected line => exact .inl ⟨line, rfl, rfl⟩
  | refused | timedOut | unusable => exact .inr ⟨_, rfl, rfl⟩

theorem send_cases (connection : Connection) (octets : Bytes) :
    (∃ next, connection.line.send octets = (.done, next) ∧
        send connection octets = (.ok (), { connection with line := next })) ∨
      ∃ sending next why, connection.line.send octets = (sending, next) ∧
        manner.broken sending = some why ∧
        send connection octets = (.error why, { connection with line := next }) := by
  rw [send]
  rcases connection.line.send octets with ⟨sending, next⟩
  cases sending with
  | done => exact .inl ⟨next, rfl, rfl⟩
  | failed | stalled => exact .inr ⟨_, next, _, rfl, rfl, rfl⟩

theorem sendAll_spoke {setting : Setting} {plan : Plan} {response : Response} {count : Nat}
    {connection : Connection} {ahead : List Bytes} {report : Report}
    (rest : plan.frames.drop count = ahead)
    (reached : Reached setting
      (.speaking plan response count connection.buffer connection.line))
    (begun : report = (Stage.speaking plan response count connection.buffer
      connection.line).report setting .noResponse) :
    ∃ sent failure line, Spoke manner setting plan response connection.buffer sent failure line ∧
      sendAll report connection ahead =
        (failure.elim (.ok ()) .error,
          (Stage.speaking plan response sent connection.buffer line).report setting .noResponse,
          { connection with line }) := by
  induction ahead generalizing count connection report with
  | nil =>
    obtain rfl := count_eq_length_of_drop reached rest
    rw [begun]
    exact ⟨_, none, connection.line, .all reached, rfl⟩
  | cons frame frames ih =>
    obtain ⟨unsent, rest⟩ := getElem?_of_drop rest
    rw [sendAll, begun]
    rcases send_cases connection frame with
      ⟨next, sent, same⟩ | ⟨sending, next, why, sent, broken, same⟩
    · rw [same]
      exact @ih (count + 1) { connection with line := next } _ rest
        (reached.step (.speak unsent sent)) rfl
    · rw [same]
      exact ⟨count, some why, next, .broken reached (.unspoken unsent sent broken), rfl⟩

theorem converse_concludes {setting : Setting} {plan : Plan} {response : Response}
    {connection : Connection} {report : Report}
    (reached : Reached setting (.speaking plan response 0 connection.buffer connection.line))
    (begun : report = (Stage.speaking plan response 0 connection.buffer
      connection.line).report setting .noResponse) :
    Concludes manner setting (converse report plan.frames connection).1
      (converse report plan.frames connection).2 := by
  have ahead : plan.frames.drop 0 = plan.frames := rfl
  obtain ⟨sent, failure, line, spoke, same⟩ := sendAll_spoke ahead reached begun
  rw [converse, same]
  cases spoke with
  | broken reached fails => exact ⟨_, _, reached, .failed fails, rfl⟩
  | all reached =>
    obtain ⟨ending, rest, later, task, wait, read, result⟩ :=
      readFrames_waits connection.buffer line.arrivals
    refine ⟨_, _, reached, .of_wait wait, ?_⟩
    simp only [Option.elim, readReplies, read, result]
    rfl

theorem upgrade_cases {setting : Setting} {plan : Plan} {line : Line}
    (reached : Reached setting (.connected plan line)) :
    (∃ response rest next, Reached setting (.answered plan response rest next) ∧
        upgrade (.new setting.probe.config line) setting.request =
          (.ok response, ⟨setting.address, setting.probe.config.timeoutSeconds, rest, next⟩)) ∨
      ∃ stage why connection, Reached setting stage ∧
        Fails manner setting stage why connection.line.sent ∧
        (∀ outcome, stage.report setting outcome =
          (Stage.connected plan line).report setting outcome) ∧
        upgrade (.new setting.probe.config line) setting.request = (.error why, connection) := by
  rw [upgrade]
  rcases send_cases (.new setting.probe.config line) setting.request.toBytes with
    ⟨next, sent, same⟩ | ⟨sending, next, why, sent, broken, same⟩
  · have asked := reached.step (.ask sent)
    obtain ⟨ending, rest, later, task, wait, read, result⟩ :=
      readResponse_waits setting.address [] next.arrivals
    have read' : readResponse (Connection.new setting.probe.config line).address
        (Connection.new setting.probe.config line).buffer next.arrivals = (task, rest, later) :=
      read
    simp only [same, read', result]
    cases ending with
    | found response =>
      exact .inl ⟨response, rest, _, asked.step (.answer wait), rfl⟩
    | refused | hungUp | timedOut | failed =>
      exact .inr ⟨_, _, _, asked, .unanswered wait rfl, fun _ => rfl, rfl⟩
  · rw [same]
    exact .inr ⟨.connected plan line, why,
      { Connection.new setting.probe.config line with line := next },
      reached, .unasked sent broken, fun _ => rfl, rfl⟩

theorem follow_concludes {setting : Setting} {plan : Plan} {line : Line} {report : Report}
    (reached : Reached setting (.connected plan line))
    (begun : report = (Stage.connected plan line).report setting .noResponse) :
    Concludes manner setting
      (follow report plan setting.request (.new setting.probe.config line)).1
      (follow report plan setting.request (.new setting.probe.config line)).2 := by
  rw [follow, begun]
  rcases upgrade_cases reached with
    ⟨response, rest, next, answered, same⟩ | ⟨stage, why, connection, reached, fails, kept, same⟩
  · simp only [same]
    cases valid : response.validate setting.request with
    | error fault => exact ⟨_, _, answered, .failed (.rejected valid), rfl⟩
    | ok =>
      have begun := answered.step (.accept valid)
      exact @converse_concludes _ _ _
        ⟨setting.address, setting.probe.config.timeoutSeconds, rest, next⟩ _ begun rfl
  · simp only [same]
    exact ⟨stage, _, reached, .failed fails, (kept _).symm⟩

/-- A run that shares its thread ends at a stage that it comes to, with the report of that stage. -/
theorem run_concludes (setting : Setting) :
    ∃ report sent,
      run setting.probe setting.now setting.masks setting.nonce setting.reach =
        ⟨some report, sent⟩ ∧ Concludes manner setting report sent := by
  have started := Reached.started setting
  rw [run]
  cases prepared : setting.probe.prepare setting.now setting.masks with
  | error why => exact ⟨_, _, rfl, _, _, started, .failed (.unprepared prepared), rfl⟩
  | ok plan =>
    have planned := started.step (.prepare prepared)
    rcases connect_cases setting.probe.config setting.reach with
      ⟨line, reached, same⟩ | ⟨why, missed, same⟩
    · rw [same]
      have connected := planned.step (.connect reached)
      exact ⟨_, _, rfl, follow_concludes connected rfl⟩
    · rw [same]
      exact ⟨_, _, rfl, _, _, planned, .failed (.unconnected missed), rfl⟩

end RelayCheck.Probe.Cooperative
