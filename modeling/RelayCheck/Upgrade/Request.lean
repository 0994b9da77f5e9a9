import RelayCheck.Digest.Sha1
import RelayCheck.Text.Base64
import RelayCheck.Text.Utf8

/-!
Requests to upgrade a connection, and the answer that they call for.
-/

set_option autoImplicit false

namespace RelayCheck.Upgrade

def acceptSuffix : String := "258EAFA5-E914-47DA-95CA-C5AB0DC85B11"

/-- The answer that shows that a relay has seen a key. -/
def acceptKey (key : String) : String :=
  Text.Base64.encode (Digest.sha1 (Text.Utf8.encode (key ++ acceptSuffix)))

structure Request where
  host : String
  port : UInt16
  path : String
  /-- Sixteen octets in base 64, new for every request. -/
  key : String
deriving DecidableEq, Repr

namespace Request

/-- The request with a key. An empty path is the root. -/
def withKey (host : String) (port : UInt16) (path key : String) : Request :=
  { host, port, path := if path.isEmpty then "/" else path, key }

def lines (request : Request) : List String :=
  ["GET " ++ request.path ++ " HTTP/1.1",
   "Host: " ++ request.host ++ ":" ++ toString request.port.toNat,
   "Upgrade: websocket",
   "Connection: Upgrade",
   "Sec-WebSocket-Key: " ++ request.key,
   "Sec-WebSocket-Version: 13"]

def toText (request : Request) : String :=
  String.join (request.lines.map (· ++ "\r\n")) ++ "\r\n"

def toBytes (request : Request) : Bytes :=
  Text.Utf8.encode request.toText

def expectedAccept (request : Request) : String :=
  acceptKey request.key

end Request

end RelayCheck.Upgrade
