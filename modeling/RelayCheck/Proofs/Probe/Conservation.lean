import RelayCheck.Proofs.Probe.Call
import RelayCheck.Proofs.Upgrade.Response

/-!
Octets on their way to a connection.

What a relay has sent and the connection has not used lies in the buffer and in the arrivals ahead.
An upgrade uses it up to the end of the head, and calls after that use it frame by frame. So nothing
is lost, told twice or told out of order.
-/

set_option autoImplicit false

namespace RelayCheck.Upgrade

/-- Some octets of a stream are those after the first mark at the end of a head. -/
def AfterHead (stream rest : Bytes) : Prop :=
  ∃ head, stream = head ++ headEnd ++ rest ∧
    ∀ earlier < head.length, ¬ headEnd <+: stream.drop earlier

theorem afterHead_of_findHeadEnd {stream : Bytes} {size : Nat}
    (found : findHeadEnd 0 stream = some size) : AfterHead stream (stream.drop (size + 4)) := by
  obtain ⟨⟨rest, marked⟩, unmarked⟩ := findHeadEnd_eq_some_iff.1 found
  have after : stream.drop (size + 4) = rest := by
    rw [← List.drop_drop, ← marked]
    exact List.drop_left' rfl
  refine ⟨stream.take size, ?_, fun earlier before => unmarked earlier ?_⟩
  · rw [after, List.append_assoc, marked, List.take_append_drop]
  · exact Nat.lt_of_lt_of_le before (List.length_take_le size stream)

theorem Response.exists_findHeadEnd_of_parse {octets : Bytes} {response : Response} {used : Nat}
    (parsed : parse octets = .ok (some (response, used))) :
    ∃ size, findHeadEnd 0 octets = some size ∧ used = size + 4 := by
  cases found : findHeadEnd 0 octets with
  | none =>
    have settled : parse octets ≠ .ok none := by
      rw [parsed]
      exact fun same => nomatch same
    cases parsed.symm.trans (parse_of_endless found settled).2
  | some size =>
    by_cases within : size ≤ maxHead
    · rw [parse_of_end found within] at parsed
      cases read : ofHead (octets.take size) with
      | error why =>
        rw [read] at parsed
        cases parsed
      | ok response =>
        rw [read] at parsed
        cases parsed
        exact ⟨size, rfl, rfl⟩
    · cases parsed.symm.trans (parse_of_long found (Nat.lt_of_not_le within))

end RelayCheck.Upgrade

namespace RelayCheck.Probe

open RelayCheck.Frame (Sequence)
open Upgrade (AfterHead Request Response findHeadEnd)

/-- The octets that an arrival brings. -/
def Arrival.carried : Arrival → Bytes
  | .octets chunk => chunk
  | .timedOut | .failed _ => []

/-- The octets that a relay has sent, or will send, and that a connection has not used. -/
def Connection.ahead (connection : Connection) : Bytes :=
  connection.buffer ++ connection.line.arrivals.flatMap Arrival.carried

theorem flatMap_carried_octets (chunks : List Bytes) :
    (chunks.map Arrival.octets).flatMap Arrival.carried = chunks.flatten := by
  rw [List.flatMap_map, ← List.flatMap_id]
  rfl

/-! ## The upgrade -/

theorem exists_findHeadEnd_of_lookHead {buffer rest : Bytes} {response : Response}
    (seen : lookHead buffer = .ok (some (response, rest))) :
    ∃ size, findHeadEnd 0 buffer = some size ∧ rest = buffer.drop (size + 4) := by
  rw [lookHead] at seen
  split at seen
  · cases seen
  · cases seen
  · next parsed =>
    cases seen
    obtain ⟨size, found, rfl⟩ := Response.exists_findHeadEnd_of_parse parsed
    exact ⟨size, found, rfl⟩

/-- A response leaves exactly what comes after its head. -/
theorem Wait.afterHead {buffer rest : Bytes} {arrivals later : List Arrival} {response : Response}
    (wait : Wait lookHead buffer arrivals (.found response) rest later) :
    AfterHead (buffer ++ arrivals.flatMap Arrival.carried)
      (rest ++ later.flatMap Arrival.carried) := by
  obtain ⟨chunks, rfl, seen⟩ := wait.chunks_of_found
  obtain ⟨size, early, rfl⟩ := exists_findHeadEnd_of_lookHead seen
  rw [List.flatMap_append, flatMap_carried_octets, ← List.append_assoc]
  obtain ⟨found, long⟩ := (Upgrade.findHeadEnd_append_iff _ (later.flatMap Arrival.carried)).1 early
  have after := Upgrade.afterHead_of_findHeadEnd found
  rwa [List.drop_append_of_le_length (by omega)] at after

theorem Attempted.afterHead {connection next : Connection} {response : Response}
    (attempted : Attempted connection (some response) next) :
    AfterHead connection.ahead next.ahead := by
  generalize known : some response = result at attempted
  cases attempted with
  | idle => cases known
  | @waited _ ending wait =>
    cases ending with
    | found => exact wait.afterHead
    | refused | hungUp | timedOut | failed => cases known

/-! ## Calls -/

/-- A wait for replies uses the frames that it tells of and nothing else. -/
theorem Wait.sequence {buffer rest : Bytes} {arrivals later : List Arrival}
    {ending : WaitEnd (List Reply) ProbeError}
    (wait : Wait lookReplies buffer arrivals ending rest later) :
    ∃ frames, returned (repliesResult ending) = frames.map Reply.ofFrame ∧
      Sequence maxReplyPayload (buffer ++ arrivals.flatMap Arrival.carried) frames
        (rest ++ later.flatMap Arrival.carried) := by
  induction wait with
  | found seen =>
    obtain ⟨frames, same, sequence⟩ := sequence_of_lookReplies seen
    exact ⟨frames, same, sequence.append _⟩
  | refused | ended | hungUp | timedOut | failed => exact ⟨[], rfl, .nil⟩
  | more _ _ ih => rwa [List.append_assoc] at ih

theorem Called.sequence {connection next : Connection} {replies : List Reply}
    (called : Called connection replies next) :
    ∃ frames, replies = frames.map Reply.ofFrame ∧
      Sequence maxReplyPayload connection.ahead frames next.ahead := by
  cases called with
  | idle buffer arrivals =>
    rw [Connection.ahead, Connection.ahead, buffer, arrivals]
    exact ⟨[], rfl, .nil⟩
  | waited wait => exact wait.sequence

theorem performAll_sequence {perform : Connection → Call → List Reply × Connection}
    (called : ∀ connection call,
      Called connection (perform connection call).1 (perform connection call).2)
    (connection : Connection) (calls : List Call) :
    ∃ frames, (performAll perform connection calls).1 = frames.map Reply.ofFrame ∧
      Sequence maxReplyPayload connection.ahead frames
        (performAll perform connection calls).2.ahead := by
  induction calls generalizing connection with
  | nil => exact ⟨[], rfl, .nil⟩
  | cons call calls ih =>
    obtain ⟨frames, same, sequence⟩ := (called connection call).sequence
    obtain ⟨others, same', onward⟩ := ih (perform connection call).2
    refine ⟨frames ++ others, ?_, sequence.trans onward⟩
    rw [performAll, List.map_append, ← same, ← same']

/-- An upgrade that succeeds leaves of the stream exactly what comes after the first empty line.
However many calls follow and however they end, they return the frames at the front of this, each
once and in order, and leave exactly what comes after those frames. -/
theorem performAll_conserves (connection : Connection) (request : Request) (now : Instant)
    (calls : List Call) :
    (∀ response upgraded, Blocking.upgrade connection request now = (.ok response, upgraded) →
      AfterHead connection.ahead upgraded.ahead ∧
        ∃ frames,
          (performAll Blocking.perform upgraded calls).1 = frames.map Reply.ofFrame ∧
            Sequence maxReplyPayload upgraded.ahead frames
              (performAll Blocking.perform upgraded calls).2.ahead) ∧
      ∀ response upgraded, Cooperative.upgrade connection request = (.ok response, upgraded) →
        AfterHead connection.ahead upgraded.ahead ∧
          ∃ frames,
            (performAll Cooperative.perform upgraded calls).1 = frames.map Reply.ofFrame ∧
              Sequence maxReplyPayload upgraded.ahead frames
                (performAll Cooperative.perform upgraded calls).2.ahead := by
  constructor
  · intro response upgraded done
    have attempted := Blocking.upgrade_attempted connection request now
    rw [done] at attempted
    exact ⟨attempted.afterHead, performAll_sequence Blocking.perform_called upgraded calls⟩
  · intro response upgraded done
    have attempted := Cooperative.upgrade_attempted connection request
    rw [done] at attempted
    exact ⟨attempted.afterHead, performAll_sequence Cooperative.perform_called upgraded calls⟩

/-- The head of a response is cut inside of its mark, and comes with two frames of which the second
is cut as well. -/
def pingsAhead : Connection where
  address := "relay:80"
  timeoutSeconds := 5
  buffer := []
  line :=
    { departures := []
      arrivals :=
        [.octets (Text.Utf8.encode "HTTP/1.1 101 \r\n\r"), .octets [0x0A, 0x89, 0x00, 0x8A],
          .octets [0x01], .octets [0x61, 0x83]]
      sent := [] }

def pingsUpgraded (sent : Bytes) : Connection :=
  { pingsAhead with
    buffer := [0x89, 0x00, 0x8A]
    line := { departures := [], arrivals := [.octets [0x01], .octets [0x61, 0x83]], sent } }

theorem upgrade_pingsAhead (request : Request) :
    Blocking.upgrade pingsAhead request ⟨0⟩ =
      (.ok ⟨101, "", []⟩, pingsUpgraded request.toBytes) := by
  have parsed : Response.parse
      (Text.Utf8.encode "HTTP/1.1 101 \r\n\r" ++ [0x0A, 0x89, 0x00, 0x8A]) =
        .ok (some (⟨101, "", []⟩, 17)) := rfl
  have found : lookHead (Text.Utf8.encode "HTTP/1.1 101 \r\n\r" ++ [0x0A, 0x89, 0x00, 0x8A]) =
      .ok (some (⟨101, "", []⟩, [0x89, 0x00, 0x8A])) := by
    rw [lookHead, parsed]
    rfl
  have missing : lookHead (Text.Utf8.encode "HTTP/1.1 101 \r\n\r") = .ok none := rfl
  have wait : Wait lookHead pingsAhead.buffer pingsAhead.line.arrivals (.found ⟨101, "", []⟩)
      [0x89, 0x00, 0x8A] [.octets [0x01], .octets [0x61, 0x83]] :=
    .more rfl (.more missing (.found found))
  have read := Blocking.awaitResponse_of_wait pingsAhead.address wait
  have sent (octets : Bytes) : Blocking.send pingsAhead octets =
      (.ok (), { pingsAhead with line := { pingsAhead.line with sent := octets } }) := rfl
  have shown : (⟨0⟩ : Instant).after? pingsAhead.timeoutSeconds = some ⟨5⟩ := rfl
  rw [Blocking.upgrade]
  generalize request.toBytes = octets
  rw [sent]
  dsimp only
  rw [shown]
  dsimp only
  rw [read]
  rfl

theorem performAll_conserves_pings :
    Blocking.upgrade pingsAhead (.withKey "relay" 80 "" "") ⟨0⟩ =
        (.ok ⟨101, "", []⟩, pingsUpgraded (Request.withKey "relay" 80 "" "").toBytes) ∧
      AfterHead pingsAhead.ahead
        (pingsUpgraded (Request.withKey "relay" 80 "" "").toBytes).ahead ∧
      ∃ frames,
        [.raw .ping [], .raw .pong [0x61]] = frames.map Reply.ofFrame ∧
          Sequence maxReplyPayload (pingsUpgraded (Request.withKey "relay" 80 "" "").toBytes).ahead
            frames (performAll Blocking.perform
              (pingsUpgraded (Request.withKey "relay" 80 "" "").toBytes)
              [.read ⟨0⟩, .send [0x00], .read ⟨0⟩]).2.ahead := by
  have upgraded := upgrade_pingsAhead (.withKey "relay" 80 "" "")
  obtain ⟨blocking, -⟩ := performAll_conserves pingsAhead (.withKey "relay" 80 "" "") ⟨0⟩
    [.read ⟨0⟩, .send [0x00], .read ⟨0⟩]
  obtain ⟨after, frames, same, sequence⟩ := blocking _ _ upgraded
  have told : (performAll Blocking.perform
      (pingsUpgraded (Request.withKey "relay" 80 "" "").toBytes)
      [.read ⟨0⟩, .send [0x00], .read ⟨0⟩]).1 = [.raw .ping [], .raw .pong [0x61]] := by
    decide +kernel
  exact ⟨upgraded, after, frames, told.symm.trans same, sequence⟩

end RelayCheck.Probe
