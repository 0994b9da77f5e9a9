import RelayCheck.Frame.Wire
import RelayCheck.Message.Client
import RelayCheck.Note.Draft
import RelayCheck.Probe.Config
import RelayCheck.Upgrade.Request

/-!
Probes, and what they send.

Everything that a probe sends is made before the relay is spoken to, so a fault in it means that
nothing is sent.
-/

set_option autoImplicit false

namespace RelayCheck

/-- A configuration that can be used, and a signer. -/
structure Probe where
  config : Probe.Config
  signer : Note.Signer

end RelayCheck

namespace RelayCheck.Probe

open Message (ClientMessage)
open Note (Draft Event Filter Signer)

/-- The messages of a probe and their frames, in the order in which they are sent. -/
structure Plan where
  event : Event
  messages : List ClientMessage
  frames : List Bytes
deriving DecidableEq

def new (config : Config) (draw : Draw) : Except ProbeError Probe := do
  config.validate
  return ⟨config, ← config.signer draw⟩

/-- The probe of a configuration with a signer of its own. -/
def withSigner (config : Config) (signer : Signer) : Except ProbeError Probe := do
  config.validate
  return ⟨config, signer⟩

def describe (probe : Probe) : String :=
  "RelayProbe \x7b config: " ++ probe.config.describe ++ ", pubkey: "
    ++ Text.quoted probe.signer.publicKey ++ " \x7d"

def event (probe : Probe) (now : Int64) : Except ProbeError Event :=
  orNote ((((Draft.new probe.config.kind).withContent probe.config.content).addTags
    (probe.config.hashtags.map Note.hashtagTag)).signWith now probe.signer
      probe.config.canonicalForm)

/-- What a probe says to the relay: it asks for events of the kind of its own, and publishes it. -/
def messages (probe : Probe) (event : Event) : List ClientMessage :=
  [.req probe.config.subscription [Filter.new.withKinds [probe.config.kind]], .event event]

/-- The frames of some messages. Message number `index + position` in the plan is masked with the
mask of that number. -/
def frames (masks : Nat → Frame.Mask) (index : Nat) :
    List ClientMessage → Except ProbeError (List Bytes)
  | [] => .ok []
  | message :: rest => do
    let frame ← orFrame (Frame.encode message.toText (masks index))
    let others ← frames masks (index + 1) rest
    return frame :: others

/-- What a probe sends: made at the time `now`, and masked with `masks`. -/
def prepare (probe : Probe) (now : Int64) (masks : Nat → Frame.Mask) : Except ProbeError Plan := do
  let event ← probe.event now
  let messages := probe.messages event
  let frames ← frames masks 0 messages
  return { event, messages, frames }

/-- The request to upgrade, with 16 octets that are new for it. -/
def request (probe : Probe) (nonce : Bytes) : Upgrade.Request :=
  .withKey probe.config.host probe.config.port probe.config.path (Text.Base64.encode nonce)

end RelayCheck.Probe
