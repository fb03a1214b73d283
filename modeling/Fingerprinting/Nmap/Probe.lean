/-
# Probes

A probe is what to send to a port, and the rules that recognise the replies.  It lists the ports
that it is meant for, in the plain and inside TLS, and how rarely it is worth sending.

The payload of a probe is written with the escapes of C, and `\x7bHost\x7d` in it stands for the
host.
-/
import Fingerprinting.Nmap.MatchRule
import Fingerprinting.Nmap.PortList
import Fingerprinting.Text.Search

namespace Fingerprinting.Nmap

/-! ## Protocols -/

/-- The transports of probes. -/
inductive Protocol where
  | tcp
  | udp
deriving DecidableEq, Repr, Inhabited

/-- The name of a protocol. -/
def Protocol.name : Protocol → String
  | .tcp => "TCP"
  | .udp => "UDP"

/-- Protocols by the spellings of their names. -/
def Protocol.spellings : List (String × Protocol) :=
  [("TCP", .tcp), ("tcp", .tcp), ("UDP", .udp), ("udp", .udp)]

/-- The protocol with some name. -/
def Protocol.parse (s : String) : Except RuleError Protocol :=
  match spellings.lookup s with
  | some p => .ok p
  | none => .error (.unknownProtocol s)

/-! ## Payloads -/

/-- The byte that a character after a backslash stands for. -/
def escapedByte? (b : UInt8) : Option UInt8 :=
  if b = 0x30 then some 0x00
  else if b = 0x61 then some 0x07
  else if b = 0x62 then some 0x08
  else if b = 0x66 then some 0x0C
  else if b = 0x6E then some 0x0A
  else if b = 0x72 then some 0x0D
  else if b = 0x74 then some 0x09
  else if b = 0x76 then some 0x0B
  else if b = 0x5C ∨ b = 0x22 ∨ b = 0x27 ∨ b = 0x7C then some b
  else none

/-- The byte that the two characters after a backslash and an `x` write as a numeral in hexadecimal.
-/
def numeralByte? (a b : UInt8) : Option UInt8 := do
  let s ← Utf8.decode? [a, b]
  (Text.hexadecimal? Text.max8 s).map Nat.toUInt8

/-- What a backslash and the character after it stand for; a backslash that begins no escape stands
for itself. -/
def escapedBytes (b : UInt8) : Bytes :=
  match escapedByte? b with
  | some c => [c]
  | none => [0x5C, b]

/-- Undo the escapes of a payload, if it has no numeral that cannot be read.  A backslash at the end
stands for itself. -/
def unescapeBytes? : Bytes → Option Bytes
  | [] => some []
  | b :: rest =>
      if b ≠ 0x5C then (unescapeBytes? rest).map (b :: ·)
      else
        match rest with
        | [] => some [b]
        | c :: rest =>
            if c ≠ 0x78 then (unescapeBytes? rest).map (escapedBytes c ++ ·)
            else
              match rest with
              | x :: y :: rest =>
                  (numeralByte? x y).bind fun n => (unescapeBytes? rest).map (n :: ·)
              | _ => none

theorem unescapeBytes?_plain (b : UInt8) (rest : Bytes) (h : b ≠ 0x5C) :
    unescapeBytes? (b :: rest) = (unescapeBytes? rest).map (b :: ·) := by
  rw [unescapeBytes?.eq_def]
  exact if_pos h

theorem unescapeBytes?_escaped (c : UInt8) (rest : Bytes) (h : c ≠ 0x78) :
    unescapeBytes? (0x5C :: c :: rest) = (unescapeBytes? rest).map (escapedBytes c ++ ·) := by
  rw [unescapeBytes?.eq_def]
  exact if_pos h

/-- A numeral after `\x` is read first, and then what follows it. -/
theorem unescapeBytes?_numeral (x y : UInt8) (rest : Bytes) :
    unescapeBytes? (0x5C :: 0x78 :: x :: y :: rest) =
      (numeralByte? x y).bind fun b => (unescapeBytes? rest).map (b :: ·) :=
  rfl

/-- The bytes of a payload. -/
def unescapePayload (s : String) : Except RuleError Bytes :=
  match unescapeBytes? (Utf8.encode s) with
  | some b => .ok b
  | none => .error (.payloadEscape s)

/-! ## Probes -/

/-- A probe. -/
structure Probe where
  name : String
  protocol : Protocol
  rarity : Nat := 0
  ports : PortList := {}
  sslPorts : PortList := {}
  rules : List MatchRule := []
  /-- The name of the probe whose rules are tried next when no rule of this probe matches. -/
  fallback : Option String := none
  payload : Bytes := []

namespace Probe

/-- A probe whose name begins with its protocol. -/
def new (protocol : Protocol) (name : String) (payload : Bytes) : Probe :=
  { name := protocol.name ++ "_" ++ name, protocol, payload }

/-- Whether a probe is meant for a port. -/
def covers (p : Probe) (port : Nat) : Bool := p.ports.contains port || p.sslPorts.contains port

/-- What stands for the host in a payload. -/
def hostMark : Bytes := Utf8.encode "\x7bHost\x7d"

/-- Put a host into a payload: the first mark is searched for, and then those in what follows it. -/
def putHost (host payload : Bytes) : Bytes :=
  match h : Bytes.cut? hostMark payload with
  | none => payload
  | some (before, after) =>
      have := Bytes.length_of_cut? h
      before ++ host ++ putHost host after
termination_by payload.length
decreasing_by
  have hmark : hostMark.length = 6 := by decide +kernel
  omega

/-- What to send to a host. -/
def request (p : Probe) (host : String) : Bytes := putHost (Utf8.encode host) p.payload

/-- What the rules of a probe say about a reply. -/
def respond (p : Probe) (data : Bytes) : Fingerprint := MatchRule.respond data none p.rules

end Probe

end Fingerprinting.Nmap
