/-
# Waiting times

How long a sender waits for a peer.  Times are in milliseconds.  A read waits no longer than the
timeout, and no longer than the clamp for its transport.
-/
import Fingerprinting.Json.Basic

namespace Fingerprinting

/-- The waiting times and the buffer of a sender. -/
structure SenderOptions where
  timeout : Nat := 5000
  tcpClamp : Nat := 500
  udpClamp : Nat := 200
  buffer : Nat := 10240
deriving DecidableEq, Repr, Inhabited

namespace SenderOptions

/-- Short times for responsive networks. -/
def fast : SenderOptions := { timeout := 2000, tcpClamp := 300, udpClamp := 150 }

/-- Long times for slow links. -/
def accurate : SenderOptions := { timeout := 10000, tcpClamp := 2000, udpClamp := 1000 }

/-- Options by the names under which they are asked for. -/
def presets : List (String × SenderOptions) :=
  [("fast", fast), ("balanced", {}), ("accurate", accurate)]

/-- Set the timeout; a timeout of zero changes nothing. -/
def setTimeout (o : SenderOptions) (timeout : Nat) : SenderOptions :=
  if timeout = 0 then o else { o with timeout }

/-- Set the clamps. -/
def setClamps (o : SenderOptions) (tcpClamp udpClamp : Nat) : SenderOptions :=
  { o with tcpClamp, udpClamp }

/-- Set the size of the buffer, which is at least one byte. -/
def setBuffer (o : SenderOptions) (buffer : Nat) : SenderOptions :=
  { o with buffer := max 1 buffer }

/-- How long a read over TCP waits. -/
def tcpRead (o : SenderOptions) : Nat := min o.timeout o.tcpClamp

/-- How long a read over UDP waits. -/
def udpRead (o : SenderOptions) : Nat := min o.timeout o.udpClamp

/-- The options with a name, and with another timeout if one is given. -/
def ofPreset (name : String) (timeout : Option Nat) : Except String SenderOptions :=
  match presets.lookup name with
  | some o => .ok (o.setTimeout (timeout.getD 0))
  | none => .error ("Invalid preset '" ++ name ++ "'")

/-- A time as a JSON object. -/
def durationJson (ms : Nat) : Json :=
  .object [("nanos", .nat (ms % 1000 * 1000000)), ("secs", .nat (ms / 1000))]

/-- The options as a JSON object. -/
def json (o : SenderOptions) : Json :=
  .object [("buffer_size", .nat o.buffer), ("tcp_read_clamp", durationJson o.tcpClamp),
    ("timeout", durationJson o.timeout), ("udp_read_clamp", durationJson o.udpClamp)]

end SenderOptions

end Fingerprinting
