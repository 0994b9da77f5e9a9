import RelayCheck.Bytes

/-!
Texts as octets.

Encoding is that of the characters in turn. Decoding is a machine that reads one octet at a time
and keeps the character it is in the middle of, so that it can say where the octets stop being
UTF-8 and how much of a character stood there.
-/

set_option autoImplicit false

namespace RelayCheck.Text.Utf8

def encode (text : String) : Bytes :=
  text.toList.flatMap String.utf8EncodeChar

inductive Fault
  /-- No character begins with the octets at `index`; `length` of them are those that still could
  begin one, and never less than one. -/
  | invalid (index length : Nat)
  /-- The octets end inside the character that begins at `index`. -/
  | incomplete (index : Nat)
deriving DecidableEq, Repr

def Fault.message : Fault → String
  | .invalid index length => s!"invalid utf-8 sequence of {length} bytes from index {index}"
  | .incomplete index => s!"incomplete utf-8 byte sequence from index {index}"

/-- A character some of whose octets have been read. -/
structure Pending where
  /-- Position of its first octet. -/
  start : Nat
  /-- The bits read so far. -/
  value : Nat
  /-- How many octets come after the next one. -/
  further : Nat
  /-- The least octet that may come next. -/
  low : UInt8
  /-- The greatest octet that may come next. -/
  high : UInt8
deriving DecidableEq, Repr

/-- What the first octet of a character of two octets or more says about the others. The bounds on
the second octet leave out overlong forms, surrogates and code points above U+10FFFF. -/
def Pending.ofLead (start : Nat) (octet : UInt8) : Option Pending :=
  if octet < 0xC2 then none
  else if octet < 0xE0 then some ⟨start, octet.toNat - 0xC0, 0, 0x80, 0xBF⟩
  else if octet == 0xE0 then some ⟨start, 0, 1, 0xA0, 0xBF⟩
  else if octet == 0xED then some ⟨start, 0xD, 1, 0x80, 0x9F⟩
  else if octet < 0xF0 then some ⟨start, octet.toNat - 0xE0, 1, 0x80, 0xBF⟩
  else if octet == 0xF0 then some ⟨start, 0, 2, 0x90, 0xBF⟩
  else if octet < 0xF4 then some ⟨start, octet.toNat - 0xF0, 2, 0x80, 0xBF⟩
  else if octet == 0xF4 then some ⟨start, 4, 2, 0x80, 0x8F⟩
  else none

/-- Reads octets from `position` on, in the middle of the character `pending` if there is one.
`done` are the characters read so far, last first. -/
def decodeFrom (position : Nat) (done : List Char) :
    Option Pending → Bytes → Except Fault (List Char)
  | none, [] => .ok done.reverse
  | some pending, [] => .error (.incomplete pending.start)
  | none, octet :: rest =>
    if octet < 0x80 then decodeFrom (position + 1) (Char.ofNat octet.toNat :: done) none rest
    else
      match Pending.ofLead position octet with
      | none => .error (.invalid position 1)
      | some pending => decodeFrom (position + 1) done (some pending) rest
  | some pending, octet :: rest =>
    if pending.low ≤ octet && octet ≤ pending.high then
      let value := pending.value * 64 + (octet.toNat - 0x80)
      match pending.further with
      | 0 => decodeFrom (position + 1) (Char.ofNat value :: done) none rest
      | further + 1 =>
        decodeFrom (position + 1) done (some ⟨pending.start, value, further, 0x80, 0xBF⟩) rest
    else .error (.invalid pending.start (position - pending.start))

/-- The text that some octets stand for, or the first fault in them. -/
def decode (octets : Bytes) : Except Fault String :=
  (decodeFrom 0 [] none octets).map String.ofList

def decode? (octets : Bytes) : Option String :=
  (decode octets).toOption

end RelayCheck.Text.Utf8
