import RelayCheck.Digest.Block

/-!
The hash function SHA-1. It is used for the answer to an upgrade request and for nothing else.
-/

set_option autoImplicit false

namespace RelayCheck.Digest

namespace Sha1

/-- The five words that are carried from block to block. -/
structure State where
  a : UInt32
  b : UInt32
  c : UInt32
  d : UInt32
  e : UInt32
deriving DecidableEq, Repr

def start : State :=
  ⟨0x67452301, 0xEFCDAB89, 0x98BADCFE, 0x10325476, 0xC3D2E1F0⟩

/-- The word of the schedule that comes `position + 16` places after its beginning. -/
def nextWord (schedule : Array UInt32) (position : Nat) : UInt32 :=
  rotateLeft (schedule.getD (position + 13) 0 ^^^ schedule.getD (position + 8) 0
    ^^^ schedule.getD (position + 2) 0 ^^^ schedule.getD position 0) 1

/-- The 80 words that a block contributes to the rounds. -/
def schedule (block : List UInt32) : List UInt32 :=
  ((List.range 64).foldl (fun words position => words.push (nextWord words position))
    block.toArray).toList

/-- How a round combines three words, and its constant. -/
def mix (index : Nat) (x y z : UInt32) : UInt32 :=
  if index < 20 then ((x &&& y) ||| (~~~x &&& z)) + 0x5A827999
  else if index < 40 then (x ^^^ y ^^^ z) + 0x6ED9EBA1
  else if index < 60 then ((x &&& y) ||| (x &&& z) ||| (y &&& z)) + 0x8F1BBCDC
  else (x ^^^ y ^^^ z) + 0xCA62C1D6

def round (state : State) (index : Nat) (word : UInt32) : State :=
  let next := rotateLeft state.a 5 + mix index state.b state.c state.d + state.e + word
  ⟨next, state.a, rotateLeft state.b 30, state.c, state.d⟩

def State.add (left right : State) : State :=
  ⟨left.a + right.a, left.b + right.b, left.c + right.c, left.d + right.d, left.e + right.e⟩

def compress (state : State) (block : List UInt32) : State :=
  state.add ((schedule block).zipIdx.foldl
    (fun current pair => round current pair.2 pair.1) state)

def State.octets (state : State) : Bytes :=
  Digest.octets state.a ++ Digest.octets state.b ++ Digest.octets state.c ++ Digest.octets state.d
    ++ Digest.octets state.e

end Sha1

/-- The SHA-1 digest of a message, 20 octets. -/
def sha1 (message : Bytes) : Bytes :=
  (absorbMessage Sha1.compress Sha1.start message).octets

@[simp]
theorem length_sha1 (message : Bytes) : (sha1 message).length = 20 := by
  simp [sha1, Sha1.State.octets, octets]

end RelayCheck.Digest
