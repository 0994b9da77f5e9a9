import RelayCheck.Proofs.Probe.Reply

/-!
Calls on a connection, one after the other.

A connection is upgraded, and then it is written to and read from, as often as one likes and whether
or not a call succeeds. What a call does to the buffer and to the arrivals ahead is the same in both
ways to run a probe: nothing, or one wait.
-/

set_option autoImplicit false

namespace RelayCheck.Probe

open Upgrade (Request Response)

theorem Line.arrivals_send (line : Line) (octets : Bytes) :
    (line.send octets).2.arrivals = line.arrivals := by
  obtain ⟨departures, arrivals, sent⟩ := line
  match departures with
  | [] | .whole :: _ | .failed _ _ :: _ | .stalled _ :: _ => rfl

/-! ## The upgrade -/

/-- What an attempt to upgrade may do to a connection, and the response if it brings one. -/
inductive Attempted (connection : Connection) : Option Response → Connection → Prop
  | idle {next : Connection} (buffer : next.buffer = connection.buffer)
      (arrivals : next.line.arrivals = connection.line.arrivals) : Attempted connection none next
  | waited {next : Connection} {ending : WaitEnd Response Upgrade.UpgradeError}
      (wait : Wait lookHead connection.buffer connection.line.arrivals ending next.buffer
        next.line.arrivals) :
      Attempted connection (headResult connection.address ending).toOption next

theorem Blocking.upgrade_attempted (connection : Connection) (request : Request) (now : Instant) :
    Attempted connection (upgrade connection request now).1.toOption
      (upgrade connection request now).2 := by
  have kept := Line.arrivals_send connection.line request.toBytes
  obtain ⟨ending, rest, later, wait, read⟩ :=
    awaitResponse_waits connection.address connection.buffer connection.line.arrivals
  rw [upgrade, send]
  generalize connection.line.send request.toBytes = sent at kept
  obtain ⟨sending, line⟩ := sent
  cases sending with
  | failed | stalled => exact .idle rfl kept
  | done =>
    dsimp only at kept ⊢
    split
    · exact .idle rfl kept
    · rw [kept, read]
      have same : (orFailed (headResult connection.address ending)).toOption =
          (headResult connection.address ending).toOption := by
        cases headResult connection.address ending <;> rfl
      dsimp only
      rw [same]
      exact .waited wait

theorem Cooperative.upgrade_attempted (connection : Connection) (request : Request) :
    Attempted connection (upgrade connection request).1.toOption
      (upgrade connection request).2 := by
  have kept := Line.arrivals_send connection.line request.toBytes
  obtain ⟨ending, rest, later, task, wait, read, result⟩ :=
    readResponse_waits connection.address connection.buffer connection.line.arrivals
  rw [upgrade, send]
  generalize connection.line.send request.toBytes = sent at kept
  obtain ⟨sending, line⟩ := sent
  cases sending with
  | failed | stalled => exact .idle rfl kept
  | done =>
    dsimp only [ofSending, underTimer] at kept result ⊢
    rw [kept, read]
    dsimp only
    rw [result]
    exact .waited wait

/-! ## Calls after the upgrade -/

/-- A call on a connection after the upgrade. Time is told to the calls that need a deadline. -/
inductive Call
  | send (octets : Bytes)
  | read (now : Instant)

/-- The replies that a call has returned; none if it failed. -/
def returned {Why : Type} : Except Why (List Reply) → List Reply
  | .ok replies => replies
  | .error _ => []

def Blocking.perform (connection : Connection) : Call → List Reply × Connection
  | .send octets => ([], (send connection octets).2)
  | .read now => (returned (readReplies connection now).1, (readReplies connection now).2)

def Cooperative.perform (connection : Connection) : Call → List Reply × Connection
  | .send octets => ([], (send connection octets).2)
  | .read _ => (returned (readReplies connection).1, (readReplies connection).2)

/-- The replies that some calls return, in order, and the connection after them. -/
def performAll (perform : Connection → Call → List Reply × Connection) (connection : Connection) :
    List Call → List Reply × Connection
  | [] => ([], connection)
  | call :: calls =>
    let (replies, connection) := perform connection call
    let (others, connection) := performAll perform connection calls
    (replies ++ others, connection)

/-- What a call may do to a connection, and the replies that it returns then. -/
inductive Called (connection : Connection) : List Reply → Connection → Prop
  | idle {next : Connection} (buffer : next.buffer = connection.buffer)
      (arrivals : next.line.arrivals = connection.line.arrivals) : Called connection [] next
  | waited {ending : WaitEnd (List Reply) ProbeError} {rest : Bytes} {later : List Arrival}
      (wait : Wait lookReplies connection.buffer connection.line.arrivals ending rest later) :
      Called connection (returned (repliesResult ending)) (connection.advance rest later)

theorem Blocking.perform_called (connection : Connection) (call : Call) :
    Called connection (perform connection call).1 (perform connection call).2 := by
  cases call with
  | send octets => exact .idle rfl (Line.arrivals_send _ _)
  | read now =>
    rw [perform]
    by_cases shown : now.after? connection.timeoutSeconds = none
    · have aborted : readReplies connection now = (.error .aborted, connection) := by
        rw [readReplies, shown]
      rw [aborted]
      exact .idle rfl rfl
    · obtain ⟨ending, rest, later, wait, -⟩ :=
        awaitReplies_waits connection.buffer connection.line.arrivals
      have same : returned (orFailed (repliesResult ending)) = returned (repliesResult ending) := by
        cases repliesResult ending <;> rfl
      rw [readReplies_of_wait shown wait, same]
      exact .waited wait

theorem Cooperative.perform_called (connection : Connection) (call : Call) :
    Called connection (perform connection call).1 (perform connection call).2 := by
  cases call with
  | send octets => exact .idle rfl (Line.arrivals_send _ _)
  | read now =>
    obtain ⟨ending, rest, later, task, wait, -⟩ :=
      readFrames_waits connection.buffer connection.line.arrivals
    rw [perform, readReplies_of_wait wait]
    exact .waited wait

/-- What every call keeps is kept by all calls. -/
theorem performAll_keeps {perform : Connection → Call → List Reply × Connection}
    {kept : Connection → Prop}
    (called : ∀ connection call,
      Called connection (perform connection call).1 (perform connection call).2)
    (keeps : ∀ {connection replies next}, Called connection replies next →
      kept connection → kept next)
    (calls : List Call) {connection : Connection} (start : kept connection) :
    kept (performAll perform connection calls).2 := by
  induction calls generalizing connection with
  | nil => exact start
  | cons call calls ih => exact ih (keeps (called connection call) start)

end RelayCheck.Probe
