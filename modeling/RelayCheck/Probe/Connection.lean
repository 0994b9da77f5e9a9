import RelayCheck.Probe.Config
import RelayCheck.Probe.Line
import RelayCheck.Probe.Report

/-!
Connections to a relay, and what a run over one leaves behind.
-/

set_option autoImplicit false

namespace RelayCheck.Probe

/-- A connection to a relay. What has been read and not yet used stays in its buffer, so octets
that come with the end of a response are there for the frames that they belong to. -/
structure Connection where
  /-- The relay, as host and port. -/
  address : String
  timeoutSeconds : UInt64
  buffer : Bytes
  line : Line
deriving DecidableEq

namespace Connection

def new (config : Config) (line : Line) : Connection where
  address := config.address
  timeoutSeconds := config.timeoutSeconds
  buffer := []
  line := line

/-- The connection with another buffer, and fewer arrivals ahead. -/
def advance (connection : Connection) (buffer : Bytes) (arrivals : List Arrival) : Connection :=
  { connection with buffer, line := { connection.line with arrivals } }

/-- The error of a relay that hangs up before it has answered the request to upgrade. -/
def hungUp (address : String) : ProbeError :=
  .handshake address (.malformed "connection closed before response")

end Connection

structure Run where
  /-- The report, unless the run was aborted. -/
  report : Option Report
  /-- Everything that the relay was sent. -/
  sent : Bytes
deriving DecidableEq

end RelayCheck.Probe
