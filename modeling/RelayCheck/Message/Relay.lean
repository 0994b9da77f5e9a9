import RelayCheck.Message.Envelope
import RelayCheck.Note.Event

/-!
Messages from a relay to a client.
-/

set_option autoImplicit false

namespace RelayCheck.Message

open Json (Value)
open Note (Event NoteError orUnreadable)

inductive RelayMessage
  | ok (eventId : String) (accepted : Bool) (message : String)
  | notice (message : String)
  | event (subscription : String) (note : Event)
  /-- Says that a subscription has seen all events that were there when it began. -/
  | eose (subscription : String)
  | closed (subscription : String) (message : String)
  /-- Any other value; a text gives one only if it is an array that begins with another name. -/
  | unknown (value : Value)
deriving DecidableEq

namespace RelayMessage

def toValue : RelayMessage → Value
  | .ok eventId accepted message =>
    Envelope.toValue ⟨"OK", [.string eventId, .bool accepted, .string message]⟩
  | .notice message => Envelope.toValue ⟨"NOTICE", [.string message]⟩
  | .event subscription note =>
    Envelope.toValue ⟨"EVENT", [.string subscription, note.toValue]⟩
  | .eose subscription => Envelope.toValue ⟨"EOSE", [.string subscription]⟩
  | .closed subscription message =>
    Envelope.toValue ⟨"CLOSED", [.string subscription, .string message]⟩
  | .unknown value => value

def toText (message : RelayMessage) : String :=
  message.toValue.toText

/-- The message in an envelope. What comes after the parts of a message is passed over, and a
message of acceptance or of closing may leave out its last text. -/
def ofEnvelope (envelope : Envelope) : Except NoteError RelayMessage :=
  if envelope.label = "OK" then do
    let (eventId, rest) ← Envelope.leadingString "OK event id" envelope.contents
    match rest with
    | .bool accepted :: rest => return .ok eventId accepted (Envelope.optionalString rest)
    | _ => .error (.invalidMessage "OK without accepted flag")
  else if envelope.label = "NOTICE" then do
    let (message, _) ← Envelope.leadingString "NOTICE message" envelope.contents
    return .notice message
  else if envelope.label = "EVENT" then do
    let (subscription, rest) ←
      Envelope.leadingString "EVENT subscription id" envelope.contents
    match rest with
    | [] => .error (.invalidMessage "EVENT without event")
    | value :: _ => return .event subscription (← orUnreadable (Event.ofValue value))
  else if envelope.label = "EOSE" then do
    let (subscription, _) ← Envelope.leadingString "EOSE subscription id" envelope.contents
    return .eose subscription
  else if envelope.label = "CLOSED" then do
    let (subscription, rest) ←
      Envelope.leadingString "CLOSED subscription id" envelope.contents
    return .closed subscription (Envelope.optionalString rest)
  else .ok (.unknown envelope.toValue)

def ofText (text : String) : Except NoteError RelayMessage := do
  ofEnvelope (← Envelope.ofText text)

end RelayMessage

end RelayCheck.Message
