import RelayCheck.Json.Fault
import RelayCheck.Text.Hex

/-!
What can go wrong with events, keys and messages.
-/

set_option autoImplicit false

namespace RelayCheck.Note

/-- Why an event, a key or a message was refused. -/
inductive NoteError
  | encoding (reason : String)
  | signing (reason : String)
  | keyDerivation (reason : String)
  | unreadable (why : Json.ReadError)
  | invalidEvent (reason : String)
  /-- A message between client and relay has a wrong shape. -/
  | invalidMessage (reason : String)
  /-- A signature does not belong to what it was checked against. -/
  | invalidSignature
  | notHex (reason : String)
deriving DecidableEq, Repr

def NoteError.message : NoteError → String
  | .encoding reason => s!"Encoding failed: {reason}"
  | .signing reason => s!"Event signing failed: {reason}"
  | .keyDerivation reason => s!"Key derivation failed: {reason}"
  | .unreadable why => s!"Serialization failed: {why.message}"
  | .invalidEvent reason => s!"Invalid event: {reason}"
  | .invalidMessage reason => s!"Invalid relay message: {reason}"
  | .invalidSignature => "Invalid event signature"
  | .notHex reason => s!"Hex encoding error: {reason}"

/-- A reading step whose failure is a failure to read the text. -/
def orUnreadable {Data : Type} : Except Json.ReadError Data → Except NoteError Data
  | .ok data => .ok data
  | .error why => .error (.unreadable why)

def decodeHex (text : String) : Except NoteError Bytes :=
  match Text.Hex.decode text with
  | .ok octets => .ok octets
  | .error why => .error (.notHex why.message)

end RelayCheck.Note
