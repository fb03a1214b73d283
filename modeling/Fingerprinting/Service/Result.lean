/-
# Service results

What an engine found at a port of a host, and what engines are able to do.
-/
import Fingerprinting.Frame.Set
import Fingerprinting.Vulnerability

namespace Fingerprinting

/-- What an engine can do: match captured responses, or probe services. -/
structure Capability where
  web : Bool
  service : Bool
deriving DecidableEq, Repr, Inhabited

/-- An engine that matches captured responses only. -/
def Capability.webOnly : Capability := ⟨true, false⟩

/-- An engine that probes services only. -/
def Capability.serviceOnly : Capability := ⟨false, true⟩

/-- A match: what was detected, and the vulnerability it reveals. -/
structure Hit where
  frame : Frame
  vuln : Option Vuln := none
deriving Inhabited

/-- The outcome of probing a service. -/
structure ServiceResult where
  host : String
  port : String
  frame : Option Frame
  vuln : Option Vuln := none
deriving Inhabited

end Fingerprinting
