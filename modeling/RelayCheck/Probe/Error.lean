import RelayCheck.Frame.Basic
import RelayCheck.Note.Error
import RelayCheck.Upgrade.Response

/-!
What can go wrong with a probe of a relay.
-/

set_option autoImplicit false

namespace RelayCheck.Probe

open Note (NoteError)
open Upgrade (UpgradeError)

inductive ConfigFault
  | unreadable (why : Json.ReadError)
  | emptyHost
  | zeroPort
  | relativePath (path : String)
  | zeroTimeout
  | emptySubscription
  | credential (reason : String)
  | other (reason : String)
deriving DecidableEq, Repr

def ConfigFault.message : ConfigFault → String
  | .unreadable why => why.message
  | .emptyHost => "host is empty"
  | .zeroPort => "port must be non-zero"
  | .relativePath path => "path must start with '/': " ++ path
  | .zeroTimeout => "timeout_seconds must be non-zero"
  | .emptySubscription => "subscription_id is empty"
  | .credential reason => "author credential: " ++ reason
  | .other reason => reason

inductive ProbeError
  | connection (address reason : String)
  | handshake (address : String) (source : UpgradeError)
  | encoding (reason : String)
  | protocol (reason : String)
  | signing (reason : String)
  | timeout (awaited : String)
  | closed
  | config (fault : ConfigFault)
  | io (reason : String)
deriving DecidableEq, Repr

namespace ProbeError

def message : ProbeError → String
  | .connection address reason => s!"Failed to connect to relay {address}: {reason}"
  | .handshake address source => s!"Handshake with relay {address} failed: {source.message}"
  | .encoding reason => s!"Encoding failed: {reason}"
  | .protocol reason => s!"Protocol violation: {reason}"
  | .signing reason => s!"Signing failed: {reason}"
  | .timeout awaited => s!"Operation timed out: {awaited}"
  | .closed => "Connection closed by relay"
  | .config fault => s!"Invalid configuration: {fault.message}"
  | .io reason => s!"I/O error: {reason}"

/-- An error about events or keys, met in a probe. Keys come from the configuration, so an error
about them is one of the configuration. -/
def ofNote : NoteError → ProbeError
  | .signing reason => .signing reason
  | .encoding reason => .encoding reason
  | .keyDerivation reason => .config (.credential reason)
  | .notHex reason => .config (.credential reason)
  | other => .encoding other.message

def ofFrame (why : Frame.FrameError) : ProbeError :=
  .encoding why.message

end ProbeError

def orNote {Data : Type} : Except NoteError Data → Except ProbeError Data
  | .ok data => .ok data
  | .error why => .error (.ofNote why)

def orFrame {Data : Type} : Except Frame.FrameError Data → Except ProbeError Data
  | .ok data => .ok data
  | .error why => .error (.ofFrame why)

end RelayCheck.Probe
