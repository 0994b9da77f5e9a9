import RelayCheck.Digest.Sha256
import RelayCheck.Schnorr.Curve
import RelayCheck.Text.Utf8

/-!
Schnorr signatures over secp256k1 with public keys that are first coordinates only.

Of the two points with one first coordinate a public key means the one with an even second
coordinate, and so does the first half of a signature.
-/

set_option autoImplicit false

namespace RelayCheck.Schnorr

/-- A hash that is set apart from other uses of the hash function by a tag. -/
def taggedHash (tag : String) (message : Bytes) : Bytes :=
  let separator := Digest.sha256 (Text.Utf8.encode tag)
  Digest.sha256 (separator ++ separator ++ message)

/-- A secret key: a factor that is neither zero nor too large. -/
structure SecretKey where
  factor : Nat
  positive : 0 < factor
  below : factor < groupSize
deriving DecidableEq

namespace SecretKey

def ofBytes? (octets : Bytes) : Option SecretKey :=
  let factor := octets.toNat
  if bounds : 0 < factor ∧ factor < groupSize then some ⟨factor, bounds.1, bounds.2⟩ else none

/-- The coordinates of the multiple of the generator. No factor of a key leads to infinity. -/
def coordinates (factor : Nat) : Nat × Nat :=
  ((Point.generator.times factor).coordinates?).getD (0, 0)

def publicKey (key : SecretKey) : Bytes :=
  Bytes.ofNat 32 (coordinates key.factor).1

/-- The factor or its opposite, whichever leads to an even second coordinate. -/
def evenFactor (factor : Nat) : Nat :=
  if (coordinates factor).2 % 2 == 0 then factor else groupSize - factor

/-- The factor of a signature that belongs to a nonce, a public key and a message. -/
def challenge (nonce publicKey message : Bytes) : Nat :=
  (taggedHash "BIP0340/challenge" (nonce ++ publicKey ++ message)).toNat % groupSize

/-- Signs a message of 32 octets. Any 32 octets of randomness do; they only have to be new. -/
def sign (key : SecretKey) (randomness message : Bytes) : Bytes :=
  let factor := evenFactor key.factor
  let masked := (Bytes.ofNat 32 factor).zipWith (· ^^^ ·) (taggedHash "BIP0340/aux" randomness)
  let drawn :=
    (taggedHash "BIP0340/nonce" (masked ++ key.publicKey ++ message)).toNat % groupSize
  let nonce := evenFactor (if drawn == 0 then 1 else drawn)
  let first := Bytes.ofNat 32 (coordinates nonce).1
  first ++ Bytes.ofNat 32 ((nonce + challenge first key.publicKey message * factor) % groupSize)

end SecretKey

/-- A public key: 32 octets and the point that they name. -/
structure PublicKey where
  octets : Bytes
  point : Point
deriving DecidableEq, Repr

def PublicKey.ofBytes? (octets : Bytes) : Option PublicKey :=
  (Point.withEvenY? octets.toNat).map fun point => ⟨octets, point⟩

/-- Tests a signature of 64 octets of a message. -/
def PublicKey.verify (key : PublicKey) (message signature : Bytes) : Bool :=
  let first : Bytes := signature.take 32
  let factor := Bytes.toNat (signature.drop 32)
  if fieldSize ≤ first.toNat || groupSize ≤ factor then false
  else
    let opposite := groupSize - SecretKey.challenge first key.octets message
    let nonce := (Point.generator.times factor).add (key.point.times opposite)
    match nonce.coordinates? with
    | none => false
    | some (x, y) => y % 2 == 0 && x == first.toNat

end RelayCheck.Schnorr
