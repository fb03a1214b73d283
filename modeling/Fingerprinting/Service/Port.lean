/-
# Ports and networks

A port is written as a number, with `U:` before it when it is a UDP port.  `PortSpec.parse` reads
every text: what is no port number counts as port 80.
-/
import Fingerprinting.Text.Blank
import Fingerprinting.Text.Case
import Fingerprinting.Text.Numeral

namespace Fingerprinting

/-! ## Networks -/

/-- The transports that requests are sent over. -/
inductive Network where
  | tcp
  | udp
  | tls
deriving DecidableEq, Repr, Inhabited

/-- The name of a network. -/
def Network.name : Network → String
  | .tcp => "tcp"
  | .udp => "udp"
  | .tls => "tls"

/-- The network with some name in any ASCII case; unknown names mean TCP. -/
def Network.ofName (s : String) : Network :=
  match Text.asciiLower (Text.trim s) with
  | "udp" => .udp
  | "tls" => .tls
  | "ssl" => .tls
  | _ => .tcp

/-! ## Ports -/

/-- A port and whether it is a UDP port. -/
structure PortSpec where
  port : Nat
  udp : Bool
deriving DecidableEq, Repr, Inhabited

namespace PortSpec

/-- What follows the mark of a UDP port. -/
def afterMark? : List Char → Option (List Char)
  | u :: ':' :: rest => if u = 'U' ∨ u = 'u' then some rest else none
  | _ => none

/-- Read a port. -/
def parse (s : String) : PortSpec :=
  let s := Text.trim s
  let (rest, udp) :=
    match afterMark? s.toList with
    | some rest => (String.ofList rest, true)
    | none => (s, false)
  ⟨(Text.decimal? Text.max16 (Text.trim rest)).getD 80, udp⟩

/-- The network to use when another one is asked for. -/
def network (p : PortSpec) (requested : Network) : Network := if p.udp then .udp else requested

/-- A port as it is written. -/
def line (p : PortSpec) : String :=
  if p.udp then "U:" ++ Text.decimal p.port else Text.decimal p.port

end PortSpec

end Fingerprinting
