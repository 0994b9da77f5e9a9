import RelayCheck.Text.Span
import RelayCheck.Upgrade.Request

/-!
Responses to a request to upgrade.

The head of a response ends with the first empty line. What comes after it belongs to the frames.
-/

set_option autoImplicit false

namespace RelayCheck.Upgrade

/-- Why a response does not upgrade the connection. -/
inductive UpgradeError
  | malformed (reason : String)
  /-- The head of the response does not end within `size` octets. -/
  | headersTooLarge (size : Nat)
  | unexpectedStatus (status : UInt16) (reason : String)
  | missingUpgrade
  | acceptMismatch
deriving DecidableEq, Repr

def UpgradeError.message : UpgradeError → String
  | .malformed reason => s!"Malformed handshake response: {reason}"
  | .headersTooLarge size => s!"Handshake headers exceed {size} bytes"
  | .unexpectedStatus status reason => s!"Unexpected handshake status {status} {reason}"
  | .missingUpgrade => "Response does not upgrade to websocket"
  | .acceptMismatch => "Sec-WebSocket-Accept mismatch"

def maxHead : Nat := 16384

def switchingProtocols : UInt16 := 101

/-- The octets between the last header and what follows the head. -/
def headEnd : Bytes := [0x0D, 0x0A, 0x0D, 0x0A]

/-- How many octets come before the end of the head, counted from `position`. -/
def findHeadEnd (position : Nat) : Bytes → Option Nat
  | [] => none
  | octet :: rest =>
    if headEnd.isPrefixOf (octet :: rest) then some position else findHeadEnd (position + 1) rest

/-- The lines of some characters. `line` are the characters of the first one so far, last first. -/
def splitLines (line : List Char) : List Char → List (List Char)
  | [] => [line.reverse]
  | '\r' :: '\n' :: rest => line.reverse :: splitLines [] rest
  | character :: rest => splitLines (character :: line) rest

/-- What comes before the first `mark`, and what comes after it if there is one. -/
def cut (mark : Char) (characters : List Char) : List Char × Option (List Char) :=
  let front := characters.takeWhile (· != mark)
  match characters.dropWhile (· != mark) with
  | [] => (front, none)
  | _ :: rest => (front, some rest)

/-- The number that some digits stand for, if there are any. -/
def readDigits? (digits : List Char) : Option Nat :=
  if digits.isEmpty || !digits.all Char.isDigit then none
  else some (digits.foldl (fun number digit => number * 10 + (digit.toNat - '0'.toNat)) 0)

/-- The status that some characters stand for: a decimal of 16 bits, perhaps after a plus sign. -/
def readStatus? (characters : List Char) : Option UInt16 :=
  let digits :=
    match characters with
    | '+' :: digits => digits
    | digits => digits
  match readDigits? digits with
  | some number => if number < 65536 then some (UInt16.ofNat number) else none
  | none => none

structure StatusLine where
  status : UInt16
  reason : String
deriving DecidableEq, Repr

def badLine {Part : Type} (fault : String) (line : List Char) : Except UpgradeError Part :=
  .error (.malformed (fault ++ ": " ++ String.ofList line))

/-- Reads the first line: a version of HTTP/1, the status, and a reason, which may be absent. -/
def readStatusLine (line : List Char) : Except UpgradeError StatusLine :=
  let (version, afterVersion) := cut ' ' line
  if !"HTTP/1.".toList.isPrefixOf version then badLine "bad status line" line
  else
    match afterVersion with
    | none => badLine "bad status code" line
    | some rest =>
      let (code, reason) := cut ' ' rest
      match readStatus? code with
      | none => badLine "bad status code" line
      | some status => .ok ⟨status, String.ofList (reason.getD [])⟩

/-- A name with its letters of ASCII in lower case. -/
def foldName (name : List Char) : String :=
  String.ofList (name.map Char.toLower)

/-- Reads the lines of headers: names in lower case and values, without the blanks around them. -/
def readHeaders : List (List Char) → Except UpgradeError (List (String × String))
  | [] => .ok []
  | line :: lines =>
    match cut ':' line with
    | (_, none) => badLine "bad header line" line
    | (name, some value) => do
      let others ← readHeaders lines
      return (foldName (Text.trimChars name), String.ofList (Text.trimChars value)) :: others

structure Response where
  status : UInt16
  reason : String
  headers : List (String × String)
deriving DecidableEq, Repr

namespace Response

def ofHead (head : Bytes) : Except UpgradeError Response :=
  match Text.Utf8.decode? head with
  | none => .error (.malformed "headers are not UTF-8")
  | some text =>
    match splitLines [] text.toList with
    | [] => .error (.malformed "empty response")
    | first :: lines => do
      let statusLine ← readStatusLine first
      let headers ← readHeaders lines
      return ⟨statusLine.status, statusLine.reason, headers⟩

/-- The response at the front of some octets and how many octets it takes; nothing if its head has
not arrived in full. -/
def parse (octets : Bytes) : Except UpgradeError (Option (Response × Nat)) :=
  match findHeadEnd 0 octets with
  | none => if maxHead < octets.length then .error (.headersTooLarge maxHead) else .ok none
  | some size =>
    if maxHead < size then .error (.headersTooLarge maxHead)
    else do return some (← ofHead (octets.take size), size + 4)

/-- The value of a header, whatever the case of its name. Of several headers with one name the last
counts. -/
def header? (response : Response) (name : String) : Option String :=
  (response.headers.reverse.find? fun header => header.1 == foldName name.toList).map (·.2)

def headerCount (response : Response) : Nat :=
  (response.headers.map (·.1)).eraseDups.length

def isSwitching (response : Response) : Bool :=
  response.status == switchingProtocols

/-- Checks that a response upgrades the connection for a request: first its status, then the
protocol that it names, then its answer to the key. -/
def validate (response : Response) (request : Request) : Except UpgradeError Unit :=
  if !response.isSwitching then .error (.unexpectedStatus response.status response.reason)
  else if (response.header? "upgrade").map (foldName ·.toList) != some "websocket" then
    .error .missingUpgrade
  else if response.header? "sec-websocket-accept" != some request.expectedAccept then
    .error .acceptMismatch
  else .ok ()

end Response

end RelayCheck.Upgrade
