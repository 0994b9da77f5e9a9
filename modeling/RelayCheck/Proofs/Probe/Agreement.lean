import RelayCheck.Proofs.Probe.Blocking
import RelayCheck.Proofs.Probe.Cooperative

/-!
The two ways to run a probe agree.

Both end at a stage that the run comes to, and there is one such stage only. What they say there is
the same unless time has run out while the relay was being reached or a write stalled, and unless
the clock of a run that blocks cannot show a deadline. Reads may well run out of time.
-/

set_option autoImplicit false

namespace RelayCheck.Probe

/-- No time runs out while the relay is being reached, and no write to it stalls. -/
structure Flowing (reach : Reach) : Prop where
  inTime : reach ≠ .timedOut
  unstalled : ∀ line, reach = .connected line → ∀ accepted, .stalled accepted ∉ line.departures

theorem Manner.missed_congr {manner : Manner} (other : Manner) {config : Config} {reach : Reach}
    (inTime : reach ≠ .timedOut) : other.missed config reach = manner.missed config reach := by
  cases reach with
  | timedOut => exact absurd rfl inTime
  | connected | refused | unusable => rfl

theorem Manner.broken_congr {manner : Manner} (other : Manner) {sending : Sending}
    (unstalled : sending ≠ .stalled) : other.broken sending = manner.broken sending := by
  cases sending with
  | stalled => exact absurd rfl unstalled
  | done | failed => rfl

theorem Flowing.ne_stalled {setting : Setting} {first line next : Line} {octets : Bytes}
    {sending : Sending} (flowing : Flowing setting.reach)
    (reached : setting.reach = .connected first) (fewer : line.departures <:+ first.departures)
    (sent : line.send octets = (sending, next)) : sending ≠ .stalled := by
  rintro rfl
  obtain ⟨accepted, ahead⟩ := Line.send_eq_stalled sent
  exact flowing.unstalled first reached accepted (fewer.subset ahead)

/-- What fails at a stage fails in every manner. -/
theorem Fails.change {manner : Manner} (other : Manner) {setting : Setting} {stage : Stage}
    {why : ProbeError} {sent : Bytes} (flowing : Flowing setting.reach)
    (reached : Reached setting stage) (fails : Fails manner setting stage why sent) :
    Fails other setting stage why sent := by
  have sound := reached.sound
  cases fails with
  | unprepared refused => exact .unprepared refused
  | unconnected missed =>
    rw [← Manner.missed_congr other flowing.inTime] at missed
    exact .unconnected missed
  | unasked sent broken =>
    have unstalled := flowing.ne_stalled sound.2 (List.suffix_refl _) sent
    rw [← Manner.broken_congr other unstalled] at broken
    exact .unasked sent broken
  | unanswered wait unfound => exact .unanswered wait unfound
  | rejected invalid => exact .rejected invalid
  | unspoken unsent sent broken =>
    obtain ⟨-, -, -, first, connected, fewer, -⟩ := sound
    have unstalled := flowing.ne_stalled connected fewer sent
    rw [← Manner.broken_congr other unstalled] at broken
    exact .unspoken unsent sent broken
  | unheard spoken wait patient unfound => exact .unheard spoken wait patient unfound

theorem Ends.change {manner : Manner} (other : Manner) {setting : Setting} {stage : Stage}
    {outcome : Outcome} {sent : Bytes} (flowing : Flowing setting.reach)
    (reached : Reached setting stage) (ends : Ends manner setting stage outcome sent) :
    Ends other setting stage outcome sent := by
  cases ends with
  | failed fails => exact .failed (fails.change other flowing reached)
  | silent spoken wait => exact .silent spoken wait
  | replied spoken wait => exact .replied spoken wait

theorem Concludes.unique {manner other : Manner} {setting : Setting} {report report' : Report}
    {sent sent' : Bytes} (flowing : Flowing setting.reach)
    (concludes : Concludes manner setting report sent)
    (concludes' : Concludes other setting report' sent') : report = report' ∧ sent = sent' := by
  obtain ⟨stage, outcome, reached, ends, rfl⟩ := concludes
  obtain ⟨stage', outcome', reached', ends', rfl⟩ := concludes'
  obtain rfl := reached.last_unique reached' (fun _ => ends.not_step) (fun _ => ends'.not_step)
  obtain ⟨rfl, rfl⟩ := (ends.change other flowing reached).unique ends'
  exact ⟨rfl, rfl⟩

/-- A run that blocks leaves behind what a run that shares its thread does: the same report, and
the same octets with the relay. A read that fails because the connection itself timed out is left
out with the waits that time out, since it is one for a run that blocks and a failure for the
other. -/
theorem blocking_eq_cooperative (setting : Setting) (clock : Nat → Instant)
    (flowing : Flowing setting.reach)
    (shown : ∀ turn, turn < 2 →
      (clock turn).after? setting.probe.config.timeoutSeconds ≠ none) :
    Blocking.run setting.probe setting.now setting.masks setting.nonce clock setting.reach =
      Cooperative.run setting.probe setting.now setting.masks setting.nonce setting.reach := by
  have leaves := Blocking.run_leaves setting clock
  obtain ⟨report, sent, same, concludes⟩ := Cooperative.run_concludes setting
  rw [same]
  generalize Blocking.run _ _ _ _ _ _ = run at leaves ⊢
  cases leaves with
  | report concludes' =>
    obtain ⟨rfl, rfl⟩ := concludes'.unique flowing concludes
    rfl
  | nothing aborted =>
    obtain ⟨stage, turn, -, waits, -, unshown⟩ := aborted
    exact absurd unshown (shown turn (by cases waits <;> decide))

/-- A probe whose signer gives the same signature for everything, against a relay that refuses to
upgrade. -/
def refusedSetting : Setting where
  probe := ⟨.default, ⟨"author", fun _ => .ok "signature"⟩⟩
  now := 0
  masks _ := ⟨1, 2, 3, 4⟩
  nonce := []
  reach := .connected (.bringing (Text.Utf8.encode "HTTP/1.1 403 Forbidden\r\n\r\n"))

def stoppedClock (_turn : Nat) : Instant := ⟨0⟩

theorem blocking_eq_cooperative_refused :
    Flowing refusedSetting.reach ∧
      (∀ turn, turn < 2 →
        (stoppedClock turn).after? refusedSetting.probe.config.timeoutSeconds ≠ none) ∧
      Blocking.run refusedSetting.probe refusedSetting.now refusedSetting.masks
          refusedSetting.nonce stoppedClock refusedSetting.reach =
        Cooperative.run refusedSetting.probe refusedSetting.now refusedSetting.masks
          refusedSetting.nonce refusedSetting.reach := by
  have flowing : Flowing refusedSetting.reach := by
    refine ⟨nofun, ?_⟩
    rintro line ⟨⟩ accepted ahead
    cases ahead
  have shown : ∀ turn, turn < 2 →
      (stoppedClock turn).after? refusedSetting.probe.config.timeoutSeconds ≠ none :=
    fun _ _ => (by decide : (⟨0⟩ : Instant).after? 10 ≠ none)
  exact ⟨flowing, shown, blocking_eq_cooperative refusedSetting stoppedClock flowing shown⟩

end RelayCheck.Probe
