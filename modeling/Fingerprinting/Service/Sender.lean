/-
# Requests to services

A scan of a service sends data to a port of a host over a network, and is answered a reply or an
error.
-/
import Fingerprinting.Dialog
import Fingerprinting.Error
import Fingerprinting.Service.Port

namespace Fingerprinting

/-- Data to be sent to a port of a host. -/
structure ServiceRequest where
  host : String
  port : String
  network : Network
  data : Bytes
deriving DecidableEq, Repr, Inhabited

/-- What became of a request. -/
abbrev ServiceReply := Except Error Bytes

/-- A dialog with a service. -/
abbrev ServiceDialog (α : Type) := Dialog ServiceRequest ServiceReply α

end Fingerprinting
