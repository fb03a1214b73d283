/-
# The scanner

A catalog put to work on services.  Probes travel as requests to services: those for UDP to a port
with its mark, and those for TCP over TLS if that is asked for or usual at the port, or else in the
plain.  What a scan finds becomes a frame, and an open port without one may be guessed by its
number.
-/
import Fingerprinting.Nmap.Catalog
import Fingerprinting.Nmap.Scan
import Fingerprinting.Service.Result
import Fingerprinting.Service.Sender

namespace Fingerprinting.Nmap

/-- A catalog, and whether services are not to be guessed by port. -/
structure Scanner where
  catalog : Catalog
  noGuess : Bool := false

namespace Scanner

/-- What a scanner can do. -/
def capability : Capability := .serviceOnly

/-- The number of probes. -/
def size (s : Scanner) : Nat := s.catalog.size

/-! ## Loading -/

/-- The scanner of the bundled probes. -/
def bundled (noGuess : Bool) : Except Error Scanner := do
  .ok ⟨← Catalog.bundled .builtin, noGuess⟩

/-- The table of a corpus of services, or the one of well-known ports. -/
def servicesOf (services : Option Bytes) : Except Error ServiceTable :=
  match services with
  | some data => ServiceTable.load data
  | none => .ok .builtin

/-- The scanner of a corpus of records. -/
def load (probes : Bytes) (services : Option Bytes) (noGuess : Bool) : Except Error Scanner := do
  let table ← servicesOf services
  .ok ⟨← Catalog.load probes table, noGuess⟩

/-- The scanner of a file of directives. -/
def parse (probes : String) (services : Option Bytes) (noGuess : Bool) : Except Error Scanner := do
  let table ← servicesOf services
  .ok ⟨← Catalog.parse probes table, noGuess⟩

/-! ## Requests -/

/-- The ports at which TLS is usual. -/
def usualTlsPorts : List Nat := [443, 8443, 993, 995, 465, 636, 989, 990, 992, 994, 5986]

/-- Send a probe to a service.  When TLS fails, the probe is sent once more in the plain. -/
def deliver (r : ProbeRequest) : ServiceDialog ProbeReply :=
  match r.protocol with
  | .udp => do
      let reply ← .send ⟨r.host, "U:" ++ Text.decimal r.port, .udp, r.data⟩
      pure (reply.map fun b => (b, false))
  | .tcp => do
      let plain : ServiceDialog ProbeReply := do
        let reply ← .send ⟨r.host, Text.decimal r.port, .tcp, r.data⟩
        pure (reply.map fun b => (b, false))
      if r.tls || usualTlsPorts.contains r.port then do
        match ← .send ⟨r.host, Text.decimal r.port, .tls, r.data⟩ with
        | .ok b => pure (.ok (b, true))
        | .error _ => plain
      else plain

/-! ## Services -/

/-- The frame for the service that a port usually has. -/
def guess? (s : Scanner) (port : Nat) (udp : Bool) : Option Frame :=
  (s.catalog.guess? port udp).map fun name => (Frame.new (serviceName name) .guess).addTag "guess"

/-- The frame for what a scan of a port found. -/
def frame? (s : Scanner) (port : Nat) (udp : Bool) : ScanOutcome → Option Frame
  | .matched reading => reading.fingerprint.frames.head?
  | .opened _ => if s.noGuess then none else s.guess? port udp
  | _ => none

/-- Scan a port of a host for a service.  Nothing is sent unless the level is positive. -/
def matchService (s : Scanner) (host port : String) (level : Int) :
    ServiceDialog (Option ServiceResult) :=
  if level ≤ 0 then .done none
  else
    match port? port with
    | none => .done none
    | some (number, udp) => do
        let outcome ← (s.catalog.scan host port (min level.toNat Text.max8)).refine deliver
        pure ((s.frame? number udp outcome).map fun f => { host, port, frame := some f })

end Scanner

end Fingerprinting.Nmap
