import RelayCheck.Bytes

/-!
Lines to a relay.

What a relay does is told in advance: how each write to the line will go, and what each read from
it will bring. A line also keeps what has been written to it.
-/

set_option autoImplicit false

namespace RelayCheck.Probe

/-- The greatest number of octets that a read brings. -/
def readChunk : Nat := 4096

inductive Arrival
  /-- Some octets. If there are none, the relay has hung up. -/
  | octets (chunk : Bytes)
  /-- Nothing, until the time to wait is over. For a run that blocks, a read that fails because the
  connection itself timed out (a failure of the kind `TimedOut` or `WouldBlock`) is this as well. -/
  | timedOut
  /-- A failure of the connection: of any kind for a run that shares its thread, and of another kind
  than those two for a run that blocks. -/
  | failed (reason : String)
deriving DecidableEq, Repr

/-- How a write goes. The last octet of a write that does not come to its end is never accepted. -/
inductive Departure
  /-- Everything is accepted. -/
  | whole
  /-- The connection fails after some octets. -/
  | failed (accepted : Nat) (reason : String)
  /-- After some octets nothing more is accepted until the time to wait is over. -/
  | stalled (accepted : Nat)
deriving DecidableEq, Repr

/-- What is known of a write once it is over. -/
inductive Sending
  | done
  | failed (reason : String)
  | stalled
deriving DecidableEq, Repr

structure Line where
  /-- How the next writes go. Those after them succeed. -/
  departures : List Departure
  /-- What the next reads bring. After them the relay has hung up. -/
  arrivals : List Arrival
  /-- Everything that has been accepted. -/
  sent : Bytes
deriving DecidableEq, Repr

inductive Reach
  | connected (line : Line)
  | refused (reason : String)
  | timedOut
  /-- The relay answers, but the connection cannot be set up. -/
  | unusable (reason : String)
deriving DecidableEq, Repr

/-- Some octets as reads bring them when they have all arrived: each brings as many as it can. -/
def arrivalsOf (octets : Bytes) : List Arrival :=
  if octets.isEmpty then []
  else .octets (octets.take readChunk) :: arrivalsOf (octets.drop readChunk)
termination_by octets.length
decreasing_by
  cases octets with
  | nil => contradiction
  | cons first rest =>
    simp only [List.length_drop, List.length_cons, readChunk]
    omega

namespace Line

/-- A line that takes everything and brings some octets before the relay hangs up. -/
def bringing (octets : Bytes) : Line where
  departures := []
  arrivals := arrivalsOf octets
  sent := []

/-- A line on which more octets are on their way. -/
def bringMore (line : Line) (octets : Bytes) : Line :=
  { line with arrivals := line.arrivals ++ arrivalsOf octets }

def send (line : Line) (octets : Bytes) : Sending × Line :=
  match line.departures with
  | [] => (.done, { line with sent := line.sent ++ octets })
  | .whole :: departures => (.done, { line with departures, sent := line.sent ++ octets })
  | .failed accepted reason :: departures =>
    (.failed reason,
      { line with departures, sent := line.sent ++ octets.dropLast.take accepted })
  | .stalled accepted :: departures =>
    (.stalled, { line with departures, sent := line.sent ++ octets.dropLast.take accepted })

end Line

end RelayCheck.Probe
