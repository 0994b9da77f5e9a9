import RelayCheck.Json.Fault
import RelayCheck.Text.Utf8

/-!
Strings as they are written between quotes, and the texts they stand for.

A string that is only passed over must end and its escapes must be complete. A string that is read
must in addition not name half a surrogate pair. The two are told apart by keeping what was
written: every character and every escape by number.
-/

set_option autoImplicit false

namespace RelayCheck.Json

/-- A part of a string: a character, or a unit of UTF-16 given by four hexadecimal digits. -/
inductive Piece
  | plain (character : Char)
  | unit (value : Nat)
deriving DecidableEq, Repr

/-- A string as written, up to its closing quote or to the fault before one. -/
structure StringText where
  pieces : List Piece
  ending : Option Fault
deriving DecidableEq, Repr

namespace StringText

/-- The character for a letter after a backslash. -/
def shortEscape? : Char → Option Char
  | '"' => some '"'
  | '\\' => some '\\'
  | '/' => some '/'
  | 'b' => some '\x08'
  | 'f' => some '\x0c'
  | 'n' => some '\n'
  | 'r' => some '\r'
  | 't' => some '\t'
  | _ => none

def hexValue? (digit : Char) : Option Nat :=
  if digit.isDigit then some (digit.toNat - '0'.toNat)
  else if 'a' ≤ digit && digit ≤ 'f' then some (digit.toNat - 'a'.toNat + 10)
  else if 'A' ≤ digit && digit ≤ 'F' then some (digit.toNat - 'A'.toNat + 10)
  else none

/-- The number that four hexadecimal digits stand for. -/
def unitValue? (first second third fourth : Char) : Option Nat := do
  let a ← hexValue? first
  let b ← hexValue? second
  let c ← hexValue? third
  let d ← hexValue? fourth
  return ((a * 16 + b) * 16 + c) * 16 + d

/-- The fault of an escape by number that is no four digits: too little text is left if it has
less than four octets. -/
def unitFault (rest : List Char) : Fault :=
  if (rest.take 4).foldl (fun size character => size + character.utf8Size) 0 < 4 then .endOfText
  else .malformed

/-- Reads a string after its opening quote, and gives what follows its closing quote. `done` are
the pieces read so far, last first. -/
def scan (done : List Piece) : List Char → StringText × List Char
  | [] => (⟨done.reverse, some .endOfText⟩, [])
  | '"' :: rest => (⟨done.reverse, none⟩, rest)
  | ['\\'] => (⟨done.reverse, some .endOfText⟩, [])
  | '\\' :: 'u' :: first :: second :: third :: fourth :: rest =>
    match unitValue? first second third fourth with
    | some value => scan (.unit value :: done) rest
    | none => (⟨done.reverse, some (unitFault (first :: second :: third :: fourth :: rest))⟩, [])
  | '\\' :: 'u' :: rest => (⟨done.reverse, some (unitFault rest)⟩, [])
  | '\\' :: letter :: rest =>
    match shortEscape? letter with
    | some character => scan (.plain character :: done) rest
    | none => (⟨done.reverse, some .malformed⟩, [])
  | character :: rest =>
    if character.toNat < 0x20 then (⟨done.reverse, some .malformed⟩, [])
    else scan (.plain character :: done) rest

theorem scan_length_le (done : List Piece) (characters : List Char) :
    (scan done characters).2.length ≤ characters.length := by
  fun_induction scan done characters <;> simp_all <;> omega

/-- The fault of a first half of a surrogate pair with no second half after it, where the string
ends with `ending`. -/
def loneFault (ending : Option Fault) : List Piece → Fault
  | [] => ending.getD .malformed
  | _ :: _ => .malformed

/-- The characters of some pieces, joined to those already `done`, last first. -/
def decodeFrom (ending : Option Fault) (done : List Char) : List Piece → Except Fault (List Char)
  | [] =>
    match ending with
    | none => .ok done.reverse
    | some fault => .error fault
  | .plain character :: rest => decodeFrom ending (character :: done) rest
  | .unit high :: .unit low :: rest =>
    if 0xD800 ≤ high && high < 0xDC00 then
      if 0xDC00 ≤ low && low < 0xE000 then
        let value := (high - 0xD800) * 0x400 + (low - 0xDC00) + 0x10000
        decodeFrom ending (Char.ofNat value :: done) rest
      else .error .malformed
    else if 0xDC00 ≤ high && high < 0xE000 then .error .malformed
    else decodeFrom ending (Char.ofNat high :: done) (.unit low :: rest)
  | .unit value :: rest =>
    if 0xD800 ≤ value && value < 0xDC00 then .error (loneFault ending rest)
    else if 0xDC00 ≤ value && value < 0xE000 then .error .malformed
    else decodeFrom ending (Char.ofNat value :: done) rest

/-- The text that a string stands for, or the first fault in it. -/
def decode (text : StringText) : Except Fault String :=
  (decodeFrom text.ending [] text.pieces).map String.ofList

def skip (text : StringText) : Except Fault Unit :=
  match text.ending with
  | none => .ok ()
  | some fault => .error fault

end StringText

end RelayCheck.Json
