import RelayCheck.Json.Printer
import RelayCheck.Json.Reading
import RelayCheck.Note.Error

/-!
Envelopes: the arrays in which client and relay write to each other. The first item says what a
message is, and what comes after it depends on that.
-/

set_option autoImplicit false

namespace RelayCheck.Message

open Json (Value)
open Note (NoteError orUnreadable)

structure Envelope where
  label : String
  contents : List Value
deriving DecidableEq

namespace Envelope

def ofItems : List Value → Except NoteError Envelope
  | [] => .error (.invalidMessage "empty array")
  | .string label :: contents => .ok ⟨label, contents⟩
  | _ :: _ => .error (.invalidMessage "message type is not a string")

def ofText (text : String) : Except NoteError Envelope := do
  ofItems (← orUnreadable (Value.listOfText text))

def toValue (envelope : Envelope) : Value :=
  .array (.string envelope.label :: envelope.contents)

/-- The first of the contents if it is a string; `role` says what it is in the message. -/
def leadingString (role : String) : List Value → Except NoteError (String × List Value)
  | .string text :: rest => .ok (text, rest)
  | _ => .error (.invalidMessage s!"missing {role}")

/-- The string at the front of what is left of an envelope, and the empty one if there is none. -/
def optionalString : List Value → String
  | .string text :: _ => text
  | _ => ""

end Envelope

end RelayCheck.Message
