import RelayCheck.Probe.Connection
import RelayCheck.Probe.Plan
import RelayCheck.Upgrade.Response

/-!
Runs that share their thread: every wait is a task under a timer of its own, which interrupts the
task when it is over. What the task has read so far is kept.
-/

set_option autoImplicit false

namespace RelayCheck.Probe.Cooperative

open Upgrade (Request Response)

/-- Why a task under a timer comes to no result. -/
inductive Interruption
  | elapsed
  | failed (why : ProbeError)
deriving DecidableEq

/-- What a task comes to, given what it is that its timer would be waiting for. -/
def underTimer {Data : Type} (awaited : String) :
    Except Interruption Data → Except ProbeError Data
  | .ok data => .ok data
  | .error .elapsed => .error (.timeout awaited)
  | .error (.failed why) => .error why

def connect (config : Config) : Reach → Except ProbeError Connection
  | .connected line => .ok (.new config line)
  | .refused reason => .error (.connection config.address reason)
  | .timedOut =>
    .error (.connection config.address
      ("connect timed out after " ++ toString config.timeoutSeconds.toNat ++ "s"))
  | .unusable reason => .error (.io reason)

def ofSending : Sending → Except Interruption Unit
  | .done => .ok ()
  | .failed reason => .error (.failed (.io reason))
  | .stalled => .error .elapsed

def send (connection : Connection) (octets : Bytes) : Except ProbeError Unit × Connection :=
  let (sending, line) := connection.line.send octets
  (underTimer "write" (ofSending sending), { connection with line })

/-- The next octets of the relay, none if it has hung up; then what comes after them. -/
def receive : List Arrival → Except Interruption Bytes × List Arrival
  | [] => (.ok [], [])
  | .octets chunk :: later => (.ok chunk, later)
  | .timedOut :: later => (.error .elapsed, later)
  | .failed reason :: later => (.error (.failed (.io reason)), later)

/-- Anything but the end of a stream takes an arrival. -/
theorem length_lt_of_receive {arrivals later : List Arrival} {chunk : Bytes}
    (received : receive arrivals = (.ok chunk, later)) (continued : chunk ≠ []) :
    later.length < arrivals.length := by
  cases arrivals with
  | nil =>
    simp only [receive, Prod.mk.injEq, Except.ok.injEq] at received
    exact absurd received.1.symm continued
  | cons arrival arrivals =>
    cases arrival <;> simp_all [receive]

def readResponse (address : String) (buffer : Bytes) (arrivals : List Arrival) :
    Except Interruption Response × Bytes × List Arrival :=
  match Response.parse buffer with
  | .error source => (.error (.failed (.handshake address source)), buffer, arrivals)
  | .ok (some (response, used)) => (.ok response, buffer.drop used, arrivals)
  | .ok none =>
    match _received : receive arrivals with
    | (.error why, later) => (.error why, buffer, later)
    | (.ok chunk, later) =>
      if _ended : chunk = [] then (.error (.failed (Connection.hungUp address)), buffer, later)
      else readResponse address (buffer ++ chunk) later
termination_by arrivals.length
decreasing_by exact length_lt_of_receive _received _ended

/-- Sends the request to upgrade and reads the response, which is yet to be checked. -/
def upgrade (connection : Connection) (request : Request) :
    Except ProbeError Response × Connection :=
  match send connection request.toBytes with
  | (.error why, connection) => (.error why, connection)
  | (.ok (), connection) =>
    let (result, buffer, arrivals) :=
      readResponse connection.address connection.buffer connection.line.arrivals
    (underTimer "handshake response" result, connection.advance buffer arrivals)

def readFrames (buffer : Bytes) (arrivals : List Arrival) :
    Except Interruption (List Reply) × Bytes × List Arrival :=
  match Reply.drain buffer with
  | .error why => (.error (.failed why), buffer, arrivals)
  | .ok (replies, rest) =>
    if replies.isEmpty then
      match _received : receive arrivals with
      | (.error why, later) => (.error why, rest, later)
      | (.ok chunk, later) =>
        if _ended : chunk = [] then (.error (.failed .closed), rest, later)
        else readFrames (rest ++ chunk) later
    else (.ok replies, rest, arrivals)
termination_by arrivals.length
decreasing_by exact length_lt_of_receive _received _ended

/-- The replies that have arrived, at least one. -/
def readReplies (connection : Connection) : Except ProbeError (List Reply) × Connection :=
  let (result, buffer, arrivals) := readFrames connection.buffer connection.line.arrivals
  (underTimer "relay reply" result, connection.advance buffer arrivals)

/-- Sends frames and counts them in the report, until one cannot be sent. -/
def sendAll (report : Report) (connection : Connection) :
    List Bytes → Except ProbeError Unit × Report × Connection
  | [] => (.ok (), report, connection)
  | frame :: frames =>
    match send connection frame with
    | (.error why, connection) => (.error why, report, connection)
    | (.ok (), connection) =>
      sendAll { report with messagesSent := report.messagesSent + 1 } connection frames

/-- The part of a run that follows the upgrade: the frames, and one wait for an answer. -/
def converse (report : Report) (frames : List Bytes) (connection : Connection) : Report × Bytes :=
  match sendAll report connection frames with
  | (.error why, report, connection) => (report.fail why, connection.line.sent)
  | (.ok (), report, connection) =>
    let (result, connection) := readReplies connection
    (report.ending (.ofReplies result), connection.line.sent)

def follow (report : Report) (plan : Plan) (request : Request) (connection : Connection) :
    Report × Bytes :=
  match upgrade connection request with
  | (.error why, connection) => (report.fail why, connection.line.sent)
  | (.ok response, connection) =>
    let report := { report with handshakeStatus := some response.status }
    match response.validate request with
    | .error source =>
      (report.fail (.handshake connection.address source), connection.line.sent)
    | .ok () => converse report plan.frames connection

/-- Runs a probe: at the time `now`, with masks for its frames and a nonce for its request, against
a relay that behaves as told. There is always a report. -/
def run (probe : Probe) (now : Int64) (masks : Nat → Frame.Mask) (nonce : Bytes) (reach : Reach) :
    Run :=
  let report := Report.new probe.config.address
  match probe.prepare now masks with
  | .error why => ⟨some (report.fail why), []⟩
  | .ok plan =>
    let report := { report with eventId := some plan.event.id }
    match connect probe.config reach with
    | .error why => ⟨some (report.fail why), []⟩
    | .ok connection =>
      let (report, sent) := follow report plan (probe.request nonce) connection
      ⟨some report, sent⟩

end RelayCheck.Probe.Cooperative
