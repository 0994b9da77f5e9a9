import RelayCheck.Proofs.Probe.Agreement

/-!
Deadlines that no clock shows.

A run that blocks adds its timeout to a reading of its clock, and is aborted if the sum is out of
range. The timeouts that are accepted reach further than a clock. So such a run has a report unless
it comes to a wait with a deadline that is out of range. A run that shares its thread has no
deadlines, and always has a report.
-/

set_option autoImplicit false

namespace RelayCheck.Probe

open Upgrade (Response)

/-- A clock shows the seconds up to a limit, and nothing from there on. -/
theorem Instant.after?_eq_none_iff {instant : Instant} {seconds : UInt64} :
    instant.after? seconds = none ↔
      9223372036854775808 ≤ instant.seconds.toInt + seconds.toNat := by
  have greatest : Int64.maxValue.toInt = 9223372036854775807 := rfl
  simp only [after?, greatest]
  split
  · next shown => exact iff_of_false (Option.some_ne_none _) (by omega)
  · next unshown => exact iff_of_true rfl (by omega)

/-! ## How a stage is come to -/

namespace Reached

variable {setting : Setting} {plan : Plan} {response : Response} {buffer : Bytes} {line : Line}

theorem before_asked (reached : Reached setting (.asked plan line)) :
    ∃ first, Reached setting (.connected plan first) ∧
      first.send setting.request.toBytes = (.done, line) := by
  rcases Relation.ReflTransGen.cases_tail reached with same | ⟨previous, before, step⟩
  · cases same
  · cases step with
    | ask sent => exact ⟨_, before, sent⟩

theorem before_answered (reached : Reached setting (.answered plan response buffer line)) :
    ∃ asked later, Reached setting (.asked plan asked) ∧
      Wait lookHead [] asked.arrivals (.found response) buffer later ∧
      line = { asked with arrivals := later } := by
  rcases Relation.ReflTransGen.cases_tail reached with same | ⟨previous, before, step⟩
  · cases same
  · cases step with
    | answer wait => exact ⟨_, _, before, wait, rfl⟩

theorem before_speaking {count : Nat}
    (reached : Reached setting (.speaking plan response count buffer line)) :
    (count = 0 ∧ Reached setting (.answered plan response buffer line) ∧
        response.validate setting.request = .ok ()) ∨
      ∃ earlier frame previous, count = earlier + 1 ∧
        Reached setting (.speaking plan response earlier buffer previous) ∧
        plan.frames[earlier]? = some frame ∧ previous.send frame = (.done, line) := by
  rcases Relation.ReflTransGen.cases_tail reached with same | ⟨previous, before, step⟩
  · cases same
  · cases step with
    | accept valid => exact .inl ⟨rfl, before, valid⟩
    | speak unsent sent => exact .inr ⟨_, _, _, rfl, before, unsent, sent⟩

end Reached

namespace Blocking

/-! ## A run at its waits -/

section Waiting

variable {setting : Setting} {clock : Nat → Instant} {plan : Plan} {response : Response}
  {buffer : Bytes} {line : Line}

theorem send_of_done {connection : Connection} {octets : Bytes} {next : Line}
    (sent : connection.line.send octets = (.done, next)) :
    send connection octets = (.ok (), { connection with line := next }) := by
  rw [send, sent]

theorem run_of_connected (reached : Reached setting (.connected plan line))
    (clock : Nat → Instant) :
    run setting.probe setting.now setting.masks setting.nonce clock setting.reach =
      follow { Report.new setting.address with eventId := some plan.event.id } plan
        setting.request clock (.new setting.probe.config line) := by
  obtain ⟨prepared, connected⟩ := reached.sound
  have prepared' : setting.probe.prepare setting.now setting.masks = .ok plan := prepared
  rw [run, prepared', connected]
  rfl

theorem aborted_of_asked (reached : Reached setting (.asked plan line))
    (unshown : (clock 0).after? setting.probe.config.timeoutSeconds = none) :
    (run setting.probe setting.now setting.masks setting.nonce clock setting.reach).report =
      none := by
  obtain ⟨first, connected, sent⟩ := reached.before_asked
  have sent' := @send_of_done (.new setting.probe.config first) _ _ sent
  have timed : (Connection.new setting.probe.config first).timeoutSeconds =
    setting.probe.config.timeoutSeconds := rfl
  simp only [run_of_connected connected, follow, upgrade, sent', timed, unshown, stopped]

/-- The wait for the response is over where its deadline can be shown. -/
theorem upgrade_of_answered (reached : Reached setting (.answered plan response buffer line))
    (shown : (clock 0).after? setting.probe.config.timeoutSeconds ≠ none) :
    ∃ first, Reached setting (.connected plan first) ∧
      upgrade (.new setting.probe.config first) setting.request (clock 0) =
        (.ok response, ⟨setting.address, setting.probe.config.timeoutSeconds, buffer, line⟩) := by
  obtain ⟨asked, later, before, wait, rfl⟩ := reached.before_answered
  obtain ⟨first, connected, sent⟩ := before.before_asked
  obtain ⟨deadline, shown⟩ := Option.ne_none_iff_exists'.1 shown
  have sent' := @send_of_done (.new setting.probe.config first) _ _ sent
  have timed : (Connection.new setting.probe.config first).timeoutSeconds =
    setting.probe.config.timeoutSeconds := rfl
  have read : awaitResponse (Connection.new setting.probe.config first).address
    (Connection.new setting.probe.config first).buffer asked.arrivals = _ :=
      awaitResponse_of_wait setting.address wait
  refine ⟨first, connected, ?_⟩
  simp only [upgrade, sent', timed, shown, read]
  rfl

/-- Where some frames have been sent, what is left of the sending is that of the others. -/
theorem sendAll_of_speaking {count : Nat}
    (reached : Reached setting (.speaking plan response count buffer line)) :
    ∃ begun, Reached setting (.answered plan response buffer begun) ∧
      response.validate setting.request = .ok () ∧
      ∀ address seconds, sendAll ⟨address, seconds, buffer, begun⟩ 0 plan.frames =
        sendAll ⟨address, seconds, buffer, line⟩ count (plan.frames.drop count) := by
  induction count generalizing line with
  | zero =>
    rcases reached.before_speaking with ⟨-, before, valid⟩ | ⟨_, _, _, same, -⟩
    · exact ⟨line, before, valid, fun _ _ => rfl⟩
    · cases same
  | succ count ih =>
    rcases reached.before_speaking with ⟨same, -⟩ | ⟨_, frame, previous, same, before, unsent, sent⟩
    · cases same
    · cases same
      obtain ⟨begun, answered, valid, sending⟩ := ih before
      refine ⟨begun, answered, valid, fun address seconds => ?_⟩
      obtain ⟨within, found⟩ := List.getElem?_eq_some_iff.1 unsent
      have sent' := @send_of_done ⟨address, seconds, buffer, previous⟩ _ _ sent
      rw [sending, List.drop_eq_getElem_cons within, found, sendAll, sent']

theorem aborted_of_spoken
    (reached : Reached setting (.speaking plan response plan.frames.length buffer line))
    (unshown : (clock 1).after? setting.probe.config.timeoutSeconds = none) :
    (run setting.probe setting.now setting.masks setting.nonce clock setting.reach).report =
      none := by
  obtain ⟨begun, answered, valid, sending⟩ := sendAll_of_speaking reached
  by_cases early : (clock 0).after? setting.probe.config.timeoutSeconds = none
  · obtain ⟨asked, _, before, -⟩ := answered.before_answered
    exact aborted_of_asked before early
  · obtain ⟨first, connected, upgraded⟩ := upgrade_of_answered answered early
    have spoken := sending setting.address setting.probe.config.timeoutSeconds
    rw [List.drop_length, sendAll] at spoken
    simp only [run_of_connected connected, follow, upgraded, valid, converse, spoken, readReplies,
      unshown, stopped]

/-- A run that blocks leaves no report exactly if it comes to a wait whose deadline is out of
range. -/
theorem report_eq_none_iff (setting : Setting) (clock : Nat → Instant) :
    (run setting.probe setting.now setting.masks setting.nonce clock setting.reach).report = none ↔
      ∃ stage turn, Reached setting stage ∧ Waits stage turn ∧
        9223372036854775808 ≤
          (clock turn).seconds.toInt + setting.probe.config.timeoutSeconds.toNat := by
  simp only [← Instant.after?_eq_none_iff]
  constructor
  · intro unreported
    have leaves := run_leaves setting clock
    generalize run _ _ _ _ _ _ = run at leaves unreported
    cases leaves with
    | report concludes => cases unreported
    | nothing aborted =>
      obtain ⟨stage, turn, reached, waits, -, unshown⟩ := aborted
      exact ⟨stage, turn, reached, waits, unshown⟩
  · rintro ⟨stage, turn, reached, waits, unshown⟩
    cases waits with
    | response => exact aborted_of_asked reached unshown
    | replies => exact aborted_of_spoken reached unshown

end Waiting

/-- A run that blocks leaves no report exactly if it comes to a wait whose deadline is out of range.
It comes to the first one as soon as a relay takes its request. It does have a report if the
deadlines of both waits are in range, and a run that shares its thread has one in any case. -/
theorem run_reports (setting : Setting) (clock : Nat → Instant) :
    ((run setting.probe setting.now setting.masks setting.nonce clock setting.reach).report = none ↔
      ∃ stage turn, Reached setting stage ∧ Waits stage turn ∧
        9223372036854775808 ≤
          (clock turn).seconds.toInt + setting.probe.config.timeoutSeconds.toNat) ∧
    (∀ plan line next, setting.plan = .ok plan → setting.reach = .connected line →
      line.send setting.request.toBytes = (.done, next) →
      9223372036854775808 ≤
        (clock 0).seconds.toInt + setting.probe.config.timeoutSeconds.toNat →
      (run setting.probe setting.now setting.masks setting.nonce clock setting.reach).report =
        none) ∧
    ((∀ turn < 2, (clock turn).seconds.toInt + setting.probe.config.timeoutSeconds.toNat <
        9223372036854775808) →
      (run setting.probe setting.now setting.masks setting.nonce clock setting.reach).report ≠
        none) ∧
    (Cooperative.run setting.probe setting.now setting.masks setting.nonce setting.reach).report ≠
      none := by
  refine ⟨report_eq_none_iff setting clock, ?taken, ?shown, ?shared⟩
  case taken =>
    intro plan line next prepared connected sent beyond
    have reached : Reached setting (.connected plan line) :=
      ((Reached.started setting).step (.prepare prepared)).step (.connect connected)
    exact aborted_of_asked (reached.step (.ask sent)) (Instant.after?_eq_none_iff.2 beyond)
  case shown =>
    intro within unreported
    obtain ⟨stage, turn, -, waits, beyond⟩ := (report_eq_none_iff setting clock).1 unreported
    have early : turn < 2 := by cases waits <;> decide
    exact absurd beyond (Int.not_le.2 (within turn early))
  case shared =>
    obtain ⟨report, sent, same, -⟩ := Cooperative.run_concludes setting
    rw [same]
    exact Option.some_ne_none report

theorem run_reports_refused :
    (run refusedSetting.probe refusedSetting.now refusedSetting.masks refusedSetting.nonce
      stoppedClock refusedSetting.reach).report ≠ none := by
  have early : (0 : Int64).toInt + ((10 : UInt64).toNat : Int) < 9223372036854775808 := by decide
  exact (run_reports refusedSetting stoppedClock).2.2.1 fun _ _ => early

/-- A probe that waits as long as a configuration can say, with a relay that hangs up once it has
taken the request. -/
def patientSetting : Setting where
  probe := ⟨Config.default.withTimeoutSeconds 18446744073709551615, refusedSetting.probe.signer⟩
  now := 0
  masks _ := ⟨1, 2, 3, 4⟩
  nonce := []
  reach := .connected (.bringing [])

theorem run_patient :
    patientSetting.probe.config.validate = .ok () ∧
      (stoppedClock 0).after? patientSetting.probe.config.timeoutSeconds = none ∧
      (run patientSetting.probe patientSetting.now patientSetting.masks patientSetting.nonce
        stoppedClock patientSetting.reach).report = none := by
  refine ⟨rfl, by decide, ?_⟩
  decide +kernel

end Blocking

end RelayCheck.Probe
