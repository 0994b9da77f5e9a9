import RelayCheck.Probe.Reply

/-!
Reports of a probe.
-/

set_option autoImplicit false

namespace RelayCheck.Probe

open Message (RelayMessage)

inductive Outcome
  | response (replies : List Reply)
  /-- The relay took everything and did not answer in time. -/
  | noResponse
  | failed (why : ProbeError)
deriving DecidableEq

structure Report where
  /-- The relay, as host and port. -/
  target : String
  /-- The status of the response to the upgrade, if there was one. -/
  handshakeStatus : Option UInt16
  /-- The identifier of the event, if one was made. -/
  eventId : Option String
  /-- How many messages were sent. -/
  messagesSent : Nat
  outcome : Outcome
deriving DecidableEq

/-- How a probe that has sent everything ends: with the replies that it then got. If the time for
them ran out, that is an answer too, and no failure. -/
def Outcome.ofReplies : Except ProbeError (List Reply) → Outcome
  | .ok replies => .response replies
  | .error (.timeout _) => .noResponse
  | .error why => .failed why

namespace Report

def new (target : String) : Report :=
  { target, handshakeStatus := none, eventId := none, messagesSent := 0, outcome := .noResponse }

def ending (report : Report) (outcome : Outcome) : Report :=
  { report with outcome }

def fail (report : Report) (why : ProbeError) : Report :=
  report.ending (.failed why)

def isCompleted (report : Report) : Bool :=
  match report.outcome with
  | .failed _ => false
  | _ => true

def messagesOf (replies : List Reply) : List RelayMessage :=
  replies.filterMap fun reply =>
    match reply with
    | .message content => some content
    | .raw _ _ => none

def messages (report : Report) : List RelayMessage :=
  match report.outcome with
  | .response replies => messagesOf replies
  | _ => []

/-- What a message says about the acceptance of an event. -/
def verdict? (eventId : String) : RelayMessage → Option Bool
  | .ok id accepted _ => if id = eventId then some accepted else none
  | _ => none

/-- Whether the relay accepted the event: what the first message about it says. -/
def accepted (report : Report) : Option Bool :=
  match report.eventId with
  | none => none
  | some eventId => report.messages.findSome? (verdict? eventId)

def error? (report : Report) : Option ProbeError :=
  match report.outcome with
  | .failed why => some why
  | _ => none

end Report

end RelayCheck.Probe
