import RelayCheck.Note.Error
import RelayCheck.Schnorr.Signature
import RelayCheck.Text.Span

/-!
Signers, and the two kinds of secrets that make one.

A Schnorr key signs the digest of the octets. A shared secret is for relays that do not look at
signatures: the tag of a message under the secret takes the place of a signature, and the digest of
the secret that of a public key. Nobody can check such a signature without the secret; it is no
identity.
-/

set_option autoImplicit false

namespace RelayCheck.Note

/-- Whoever signs events: the public key that is put into them, and a function from the octets to
be signed to a signature or a refusal. Nothing is assumed about either. -/
structure Signer where
  publicKey : String
  sign : Bytes → Except NoteError String

/-! ## Shared secrets -/

/-- The octets of a secret given in hexadecimal, with white space around it. -/
def secretOctets (text : String) : Except NoteError Bytes :=
  decodeHex (Text.trim text)

/-- The identifier that stands for a secret: its digest. The empty secret has one as well. -/
def testIdentifier (text : String) : Except NoteError String := do
  return Text.Hex.encode (Digest.sha256 (← secretOctets text))

structure SharedSecret where
  octets : Bytes
  nonempty : octets ≠ []
deriving DecidableEq

namespace SharedSecret

def ofHex (text : String) : Except NoteError SharedSecret := do
  let octets ← secretOctets text
  if nonempty : octets ≠ [] then .ok ⟨octets, nonempty⟩
  else .error (.keyDerivation "secret must not be empty")

def publicKey (secret : SharedSecret) : String :=
  Text.Hex.encode (Digest.sha256 secret.octets)

/-- What takes the place of a signature. -/
def sign (secret : SharedSecret) (message : Bytes) : String :=
  Text.Hex.encode (Digest.hmac secret.octets message)

/-- Checks the tag of a message. It must be there in full. -/
def verify (secret : SharedSecret) (message : Bytes) (signature : String) :
    Except NoteError Unit := do
  if (← decodeHex signature) == Digest.hmac secret.octets message then .ok ()
  else .error .invalidSignature

/-- The signer that uses a secret. It never refuses. -/
def signer (secret : SharedSecret) : Signer where
  publicKey := secret.publicKey
  sign message := .ok (secret.sign message)

def describe (secret : SharedSecret) : String :=
  "HmacTestSigner \x7b pubkey: " ++ Text.quoted secret.publicKey ++ ", .. \x7d"

end SharedSecret

/-! ## Schnorr keys -/

structure SchnorrKey where
  secret : Schnorr.SecretKey
deriving DecidableEq

namespace SchnorrKey

def ofBytes (octets : Bytes) : Except NoteError SchnorrKey :=
  match Schnorr.SecretKey.ofBytes? octets with
  | some secret => .ok ⟨secret⟩
  | none => .error (.keyDerivation "malformed or out-of-range secret key")

/-- The key that a text gives in hexadecimal, with white space around it. -/
def ofHex (text : String) : Except NoteError SchnorrKey := do
  let octets ← decodeHex (Text.trim text)
  if octets.length == 32 then ofBytes octets
  else .error (.keyDerivation "secret key must be 32 bytes")

def publicKey (key : SchnorrKey) : String :=
  Text.Hex.encode key.secret.publicKey

/-- The signature of some octets in hexadecimal, made with 32 octets of randomness. -/
def sign (key : SchnorrKey) (randomness message : Bytes) : String :=
  Text.Hex.encode (key.secret.sign randomness (Digest.sha256 message))

/-- The signer that uses a key. It never refuses. -/
def signer (key : SchnorrKey) (randomness : Bytes) : Signer where
  publicKey := key.publicKey
  sign message := .ok (key.sign randomness message)

def describe (key : SchnorrKey) : String :=
  "SchnorrSigner \x7b pubkey: " ++ Text.quoted key.publicKey ++ " \x7d"

end SchnorrKey

/-- Checks a signature of some octets. The public key is looked at before the signature, and
neither may have anything around it. -/
def verifySchnorr (publicKey : String) (message : Bytes) (signature : String) :
    Except NoteError Unit := do
  let keyOctets ← decodeHex publicKey
  if keyOctets.length != 32 then .error (.invalidEvent "Invalid pubkey length")
  let key ←
    match Schnorr.PublicKey.ofBytes? keyOctets with
    | some key => .ok key
    | none => .error (.invalidEvent "Invalid pubkey: malformed public key")
  let octets ← decodeHex signature
  if octets.length != 64 then .error (.invalidEvent "Invalid signature length")
  if key.verify (Digest.sha256 message) octets then .ok () else .error .invalidSignature

end RelayCheck.Note
