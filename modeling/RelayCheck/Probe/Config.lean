import RelayCheck.Note.Identifier
import RelayCheck.Note.Signer
import RelayCheck.Probe.Error

/-!
Configurations of a probe: which relay is probed, and with what event.

Every setting has a default. A configuration that comes from a text is checked; one that is put
together step by step is checked when it is used.
-/

set_option autoImplicit false

namespace RelayCheck.Probe

open Json (Layout)
open Note (CanonicalForm SchnorrKey SharedSecret Signer)

inductive SigningMode
  | schnorr
  /-- With a shared secret, for relays that do not look at signatures. -/
  | sharedSecret
deriving DecidableEq, Repr

structure Config where
  host : String
  port : UInt16
  /-- The path of the request to upgrade. -/
  path : String
  /-- How long the probe waits for the relay, in seconds. -/
  timeoutSeconds : UInt64
  /-- The secret of the signer in hexadecimal. Without it one is drawn. -/
  authorCredential : Option String
  signing : SigningMode
  canonicalForm : CanonicalForm
  content : String
  kind : UInt16
  hashtags : List String
  subscription : String
deriving DecidableEq

/-- What a probe draws at random: keys for the case that the configuration gives none, and 32
octets for signatures. -/
structure Draw where
  key : SchnorrKey
  secret : SharedSecret
  randomness : Bytes

namespace Config

def default : Config where
  host := "127.0.0.1"
  port := 8080
  path := "/"
  timeoutSeconds := 10
  authorCredential := none
  signing := .schnorr
  canonicalForm := .default
  content := "Hello from relay-probe"
  kind := Note.textNoteKind
  hashtags := []
  subscription := "test-sub"

def withTarget (config : Config) (host : String) (port : UInt16) : Config :=
  { config with host, port }

def withPath (config : Config) (path : String) : Config :=
  { config with path }

def withTimeoutSeconds (config : Config) (timeoutSeconds : UInt64) : Config :=
  { config with timeoutSeconds }

def withAuthorCredential (config : Config) (credential : String) : Config :=
  { config with authorCredential := some credential }

def withSigning (config : Config) (signing : SigningMode) : Config :=
  { config with signing }

def withCanonicalForm (config : Config) (canonicalForm : CanonicalForm) : Config :=
  { config with canonicalForm }

def withContent (config : Config) (content : String) : Config :=
  { config with content }

def withKind (config : Config) (kind : UInt16) : Config :=
  { config with kind }

def withHashtag (config : Config) (hashtag : String) : Config :=
  { config with hashtags := config.hashtags ++ [hashtag] }

def withSubscription (config : Config) (subscription : String) : Config :=
  { config with subscription }

def address (config : Config) : String :=
  config.host ++ ":" ++ toString config.port.toNat

/-- The first of the faults that a configuration has, looked for in a fixed order. -/
def fault? (config : Config) : Option ConfigFault :=
  if config.host.isEmpty then some .emptyHost
  else if config.port = 0 then some .zeroPort
  else if config.path.toList.head? ≠ some '/' then some (.relativePath config.path)
  else if config.timeoutSeconds = 0 then some .zeroTimeout
  else if config.subscription.isEmpty then some .emptySubscription
  else none

/-- Checks the settings without which a probe cannot run. -/
def validate (config : Config) : Except ProbeError Unit :=
  match config.fault? with
  | some fault => .error (.config fault)
  | none => .ok ()

inductive Field
  | host
  | port
  | path
  | timeoutSeconds
  | authorCredential
  | signing
  | canonicalForm
  | content
  | kind
  | hashtags
  | subscription
deriving DecidableEq, Repr

def signingNames : List String := ["schnorr", "hmac_test_stub"]

def formNames : List String := ["sorted_object", "nip01"]

def layout : Layout Field where
  title := "struct ProbeConfig"
  fields :=
    [.host, .port, .path, .timeoutSeconds, .authorCredential, .signing, .canonicalForm, .content,
     .kind, .hashtags, .subscription]
  name
    | .host => "host"
    | .port => "port"
    | .path => "path"
    | .timeoutSeconds => "timeout_seconds"
    | .authorCredential => "author_credential"
    | .signing => "signing"
    | .canonicalForm => "canonical_form"
    | .content => "content"
    | .kind => "kind"
    | .hashtags => "hashtags"
    | .subscription => "subscription_id"
  kind
    | .host | .path | .content | .subscription => .string
    | .port | .kind => .whole .u16
    | .timeoutSeconds => .whole .u64
    | .authorCredential => .optional .string
    | .signing => .choice signingNames
    | .canonicalForm => .choice formNames
    | .hashtags => .list .string

def signingAt (position : Fin signingNames.length) : SigningMode :=
  if position.val = 0 then .schnorr else .sharedSecret

def formAt (position : Fin formNames.length) : CanonicalForm :=
  if position.val = 0 then .sortedObject else .nip01

def ofFilled (filled : layout.Filled) : Config where
  host := (filled .host).getD default.host
  port := (filled .port).getD default.port
  path := (filled .path).getD default.path
  timeoutSeconds := (filled .timeoutSeconds).getD default.timeoutSeconds
  authorCredential := (filled .authorCredential).getD default.authorCredential
  signing := ((filled .signing).map signingAt).getD default.signing
  canonicalForm := ((filled .canonicalForm).map formAt).getD default.canonicalForm
  content := (filled .content).getD default.content
  kind := (filled .kind).getD default.kind
  hashtags := (filled .hashtags).getD default.hashtags
  subscription := (filled .subscription).getD default.subscription

def ofTree (tree : Json.Tree) : Except Json.ReadError Config := do
  return ofFilled (← layout.read true tree)

def ofText (text : String) : Except ProbeError Config :=
  match (Json.Document.ofText text).read ofTree with
  | .error why => .error (.config (.unreadable why))
  | .ok config => do
    config.validate
    return config

/-- The signer of a configuration. Without a credential it uses what has been drawn. -/
def signer (config : Config) (draw : Draw) : Except ProbeError Signer :=
  match config.signing, config.authorCredential with
  | .schnorr, some credential => do
    return (← orNote (SchnorrKey.ofHex credential)).signer draw.randomness
  | .schnorr, none => .ok (draw.key.signer draw.randomness)
  | .sharedSecret, some credential => do
    return (← orNote (SharedSecret.ofHex credential)).signer
  | .sharedSecret, none => .ok draw.secret.signer

def describeSigning : SigningMode → String
  | .schnorr => "Schnorr"
  | .sharedSecret => "HmacTestStub"

def describeForm : CanonicalForm → String
  | .sortedObject => "SortedObject"
  | .nip01 => "Nip01"

def describeCredential : Option String → String
  | some _ => "Some(\"[REDACTED]\")"
  | none => "None"

def settings (config : Config) : List (String × String) :=
  [("host", Text.quoted config.host),
   ("port", toString config.port.toNat),
   ("path", Text.quoted config.path),
   ("timeout_seconds", toString config.timeoutSeconds.toNat),
   ("author_credential", describeCredential config.authorCredential),
   ("signing", describeSigning config.signing),
   ("canonical_form", describeForm config.canonicalForm),
   ("content", Text.quoted config.content),
   ("kind", toString config.kind.toNat),
   ("hashtags", Text.quotedList config.hashtags),
   ("subscription_id", Text.quoted config.subscription)]

def describe (config : Config) : String :=
  let settings := config.settings.map fun (name, text) => name ++ ": " ++ text
  "ProbeConfig \x7b " ++ ", ".intercalate settings ++ " \x7d"

end Config

end RelayCheck.Probe
