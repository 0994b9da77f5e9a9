import RelayCheck.Probe.Connection
import RelayCheck.Probe.Plan
import RelayCheck.Upgrade.Response

/-!
Runs that block: every wait has a deadline, and each read waits until then at most.

A deadline is reckoned when its wait begins. If the clock cannot show it, the run is aborted.
-/

set_option autoImplicit false

namespace RelayCheck.Probe

/-- A reading of a clock, in seconds. -/
structure Instant where
  seconds : Int64
deriving DecidableEq, Repr

namespace Instant

/-- The instant that is so many seconds later, if a clock can show it. -/
def after? (instant : Instant) (seconds : UInt64) : Option Instant :=
  let later := instant.seconds.toInt + seconds.toNat
  if later ≤ Int64.maxValue.toInt then some ⟨.ofInt later⟩ else none

end Instant

end RelayCheck.Probe

namespace RelayCheck.Probe.Blocking

open Upgrade (Request Response)

/-- Why a step of a run ends it. -/
inductive Stop
  | failed (why : ProbeError)
  | aborted
deriving DecidableEq

def orFailed {Data : Type} : Except ProbeError Data → Except Stop Data
  | .ok data => .ok data
  | .error why => .error (.failed why)

/-- What the system says of a write that stalls. -/
def stallReason : String := "Resource temporarily unavailable (os error 11)"

def connect (config : Config) : Reach → Except ProbeError Connection
  | .connected line => .ok (.new config line)
  | .refused reason => .error (.connection config.address reason)
  | .timedOut => .error (.connection config.address "connection timed out")
  | .unusable reason => .error (.io reason)

def send (connection : Connection) (octets : Bytes) : Except ProbeError Unit × Connection :=
  let (sending, line) := connection.line.send octets
  let result :=
    match sending with
    | .done => .ok ()
    | .failed reason => .error (.io reason)
    | .stalled => .error (.io stallReason)
  (result, { connection with line })

/-- Reads until the response has arrived. Each read has to bring something before the deadline. -/
def awaitResponse (address : String) (buffer : Bytes) (arrivals : List Arrival) :
    Except ProbeError Response × Bytes × List Arrival :=
  match Response.parse buffer with
  | .error source => (.error (.handshake address source), buffer, arrivals)
  | .ok (some (response, used)) => (.ok response, buffer.drop used, arrivals)
  | .ok none =>
    match arrivals with
    | [] => (.error (Connection.hungUp address), buffer, [])
    | .timedOut :: later => (.error (.timeout "handshake response"), buffer, later)
    | .failed reason :: later => (.error (.io reason), buffer, later)
    | .octets [] :: later => (.error (Connection.hungUp address), buffer, later)
    | .octets (first :: others) :: later =>
      awaitResponse address (buffer ++ first :: others) later

/-- Sends the request to upgrade and reads the response, which is yet to be checked. The wait
begins `now`. -/
def upgrade (connection : Connection) (request : Request) (now : Instant) :
    Except Stop Response × Connection :=
  match send connection request.toBytes with
  | (.error why, connection) => (.error (.failed why), connection)
  | (.ok (), connection) =>
    match now.after? connection.timeoutSeconds with
    | none => (.error .aborted, connection)
    | some _ =>
      let (result, buffer, arrivals) :=
        awaitResponse connection.address connection.buffer connection.line.arrivals
      (orFailed result, connection.advance buffer arrivals)

/-- Reads until at least one frame has arrived. Each read has to bring something before the
deadline. -/
def awaitReplies (buffer : Bytes) (arrivals : List Arrival) :
    Except ProbeError (List Reply) × Bytes × List Arrival :=
  match Reply.drain buffer with
  | .error why => (.error why, buffer, arrivals)
  | .ok (first :: others, rest) => (.ok (first :: others), rest, arrivals)
  | .ok ([], rest) =>
    match arrivals with
    | [] => (.error .closed, rest, [])
    | .timedOut :: later => (.error (.timeout "relay reply"), rest, later)
    | .failed reason :: later => (.error (.io reason), rest, later)
    | .octets [] :: later => (.error .closed, rest, later)
    | .octets (first :: others) :: later => awaitReplies (rest ++ first :: others) later

/-- The replies that have arrived, at least one. The wait begins `now`. -/
def readReplies (connection : Connection) (now : Instant) :
    Except Stop (List Reply) × Connection :=
  match now.after? connection.timeoutSeconds with
  | none => (.error .aborted, connection)
  | some _ =>
    let (result, buffer, arrivals) := awaitReplies connection.buffer connection.line.arrivals
    (orFailed result, connection.advance buffer arrivals)

/-- Sends frames until one cannot be sent: how many were, counted from `count`, and the error. -/
def sendAll (connection : Connection) (count : Nat) :
    List Bytes → Nat × Option ProbeError × Connection
  | [] => (count, none, connection)
  | frame :: frames =>
    match send connection frame with
    | (.error why, connection) => (count, some why, connection)
    | (.ok (), connection) => sendAll connection (count + 1) frames

/-- What a run leaves behind that stops at some point. -/
def stopped (report : Report) (stop : Stop) (connection : Connection) : Run where
  report :=
    match stop with
    | .failed why => some (report.fail why)
    | .aborted => none
  sent := connection.line.sent

/-- The part of a run that follows the upgrade: the frames, and one wait for an answer that begins
`now`. -/
def converse (report : Report) (frames : List Bytes) (connection : Connection) (now : Instant) :
    Run :=
  let (messagesSent, failure, connection) := sendAll connection 0 frames
  let report := { report with messagesSent }
  match failure with
  | some why => stopped report (.failed why) connection
  | none =>
    match readReplies connection now with
    | (.error .aborted, connection) => stopped report .aborted connection
    | (.error (.failed why), connection) =>
      ⟨some (report.ending (.ofReplies (.error why))), connection.line.sent⟩
    | (.ok replies, connection) =>
      ⟨some (report.ending (.ofReplies (.ok replies))), connection.line.sent⟩

/-- Runs a plan over a connection. The clock is read when a wait begins: number 0 is the one for
the response, and number 1 the one for replies. -/
def follow (report : Report) (plan : Plan) (request : Request) (clock : Nat → Instant)
    (connection : Connection) : Run :=
  match upgrade connection request (clock 0) with
  | (.error stop, connection) => stopped report stop connection
  | (.ok response, connection) =>
    let report := { report with handshakeStatus := some response.status }
    match response.validate request with
    | .error source => stopped report (.failed (.handshake connection.address source)) connection
    | .ok () => converse report plan.frames connection (clock 1)

/-- Runs a probe: at the time `now`, with masks for its frames, a nonce for its request and a clock
for its waits, against a relay that behaves as told. -/
def run (probe : Probe) (now : Int64) (masks : Nat → Frame.Mask) (nonce : Bytes)
    (clock : Nat → Instant) (reach : Reach) : Run :=
  let report := Report.new probe.config.address
  match probe.prepare now masks with
  | .error why => ⟨some (report.fail why), []⟩
  | .ok plan =>
    let report := { report with eventId := some plan.event.id }
    match connect probe.config reach with
    | .error why => ⟨some (report.fail why), []⟩
    | .ok connection => follow report plan (probe.request nonce) clock connection

end RelayCheck.Probe.Blocking
