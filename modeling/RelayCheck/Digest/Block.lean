import RelayCheck.Bytes

/-!
What the hash functions have in common: a message is filled up to whole blocks of 64 octets, its
length last, and a block is sixteen words of 32 bits.
-/

set_option autoImplicit false

namespace RelayCheck.Digest

/-- A message filled up to whole blocks: a one bit, zeros, and the length in bits as a word of 64
bits. -/
def padded (message : Bytes) : Bytes :=
  message ++ 0x80 :: List.replicate ((119 - message.length % 64) % 64) 0
    ++ Bytes.ofNat 8 (message.length * 8)

def word (first second third fourth : UInt8) : UInt32 :=
  first.toUInt32 <<< 24 ||| second.toUInt32 <<< 16 ||| third.toUInt32 <<< 8 ||| fourth.toUInt32

/-- The words that some octets make up. -/
def words : Bytes → List UInt32
  | first :: second :: third :: fourth :: rest =>
    word first second third fourth :: words rest
  | _ => []

def octets (word : UInt32) : Bytes :=
  [(word >>> 24).toUInt8, (word >>> 16).toUInt8, (word >>> 8).toUInt8, word.toUInt8]

/-- A word turned left by a number of bits between 1 and 31. -/
def rotateLeft (word amount : UInt32) : UInt32 :=
  word <<< amount ||| word >>> (32 - amount)

/-- A word turned right by a number of bits between 1 and 31. -/
def rotateRight (word amount : UInt32) : UInt32 :=
  word >>> amount ||| word <<< (32 - amount)

/-- Takes in the next `count` blocks one after the other. -/
def absorb {State : Type} (compress : State → List UInt32 → State) (state : State) :
    Nat → Bytes → State
  | 0, _ => state
  | count + 1, blocks =>
    absorb compress (compress state (words (blocks.take 64))) count (blocks.drop 64)

def absorbMessage {State : Type} (compress : State → List UInt32 → State) (start : State)
    (message : Bytes) : State :=
  absorb compress start ((padded message).length / 64) (padded message)

end RelayCheck.Digest
