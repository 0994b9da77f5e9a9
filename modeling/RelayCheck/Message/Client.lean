import RelayCheck.Message.Envelope
import RelayCheck.Note.Event
import RelayCheck.Note.Filter

/-!
Messages from a client to a relay.
-/

set_option autoImplicit false

namespace RelayCheck.Message

open Json (Value)
open Note (Event Filter NoteError orUnreadable)

inductive ClientMessage
  | event (note : Event)
  /-- Asks for the events that one of some filters lets through. -/
  | req (subscription : String) (filters : List Filter)
  | close (subscription : String)
deriving DecidableEq, Repr

namespace ClientMessage

def label : ClientMessage → String
  | .event _ => "EVENT"
  | .req _ _ => "REQ"
  | .close _ => "CLOSE"

def contents : ClientMessage → List Value
  | .event note => [note.toValue]
  | .req subscription filters => .string subscription :: filters.map Filter.toValue
  | .close subscription => [.string subscription]

def toValue (message : ClientMessage) : Value :=
  Envelope.toValue ⟨message.label, message.contents⟩

def toText (message : ClientMessage) : String :=
  message.toValue.toText

def readFilters : List Value → Except NoteError (List Filter)
  | [] => .ok []
  | value :: rest => do
    let filter ← orUnreadable (Filter.ofValue value)
    let others ← readFilters rest
    return filter :: others

/-- The message in an envelope. What comes after the event of an event message and after the
subscription of a closing message is passed over. -/
def ofEnvelope (envelope : Envelope) : Except NoteError ClientMessage :=
  if envelope.label = "EVENT" then
    match envelope.contents with
    | [] => .error (.invalidMessage "EVENT without event")
    | value :: _ => do return .event (← orUnreadable (Event.ofValue value))
  else if envelope.label = "REQ" then do
    let (subscription, rest) ← Envelope.leadingString "REQ subscription id" envelope.contents
    return .req subscription (← readFilters rest)
  else if envelope.label = "CLOSE" then do
    let (subscription, _) ← Envelope.leadingString "CLOSE subscription id" envelope.contents
    return .close subscription
  else .error (.invalidMessage s!"unknown client message type: {envelope.label}")

def ofText (text : String) : Except NoteError ClientMessage := do
  ofEnvelope (← Envelope.ofText text)

end ClientMessage

end RelayCheck.Message
