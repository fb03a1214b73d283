/-
# Scans

A scan sends the probes that a catalog selects for a port, one after the other, until a reply is
recognised or the port turns out to be closed.  When the service found is TLS, a few more probes try
to find what is inside.

* `Tables.walk` sends some probes;
* `Tables.scan` reads the port, selects the probes and walks along them.
-/
import Fingerprinting.Dialog
import Fingerprinting.Nmap.Tables

namespace Fingerprinting.Nmap

/-! ## Ports -/

/-- What follows the mark of a UDP port. -/
def afterUdpMark? : List Char → Option (List Char)
  | 'U' :: ':' :: rest => some rest
  | 'u' :: ':' :: rest => some rest
  | _ => none

/-- The number of a port and whether it is a UDP port.  There is no port zero. -/
def port? (s : String) : Option (Nat × Bool) :=
  let cs := (Text.trim s).toList
  let (rest, udp) :=
    match afterUdpMark? cs with
    | some rest => (rest, true)
    | none => (cs, false)
  ((Text.decimal? Text.max16 (Text.trim (String.ofList rest))).filter (· != 0)).map
    fun port => (port, udp)

/-! ## Requests -/

/-- A probe on its way to a port. -/
structure ProbeRequest where
  host : String
  port : Nat
  data : Bytes
  tls : Bool
  protocol : Protocol
deriving DecidableEq, Repr, Inhabited

/-- What became of a probe: the reply and whether it came over TLS, or an error. -/
abbrev ProbeReply := Except Error (Bytes × Bool)

/-- A dialog with a port. -/
abbrev ProbeDialog (α : Type) := Dialog ProbeRequest ProbeReply α

/-- Whether an error means that the port is closed. -/
def saysClosed (e : Error) (protocol : Protocol) : Bool :=
  let words := Text.lower e.message
  e.isClosed ||
    (["connection refused", "no route to host", "network is unreachable"].any fun w =>
      Text.mentions w words) ||
    (protocol == .udp && Text.mentions "refused" words)

/-! ## Outcomes -/

/-- A reply and what it says. -/
structure Reading where
  raw : Bytes
  tls : Bool
  fingerprint : Fingerprint
deriving Inhabited

/-- What a scan finds. -/
inductive ScanOutcome where
  /-- No probe has been sent. -/
  | notMatched
  /-- The port is closed. -/
  | closed
  /-- The port is open, and the last of its replies, if it gave any, is not recognised. -/
  | opened (last : Option Reading)
  /-- A reply is recognised. -/
  | matched (reading : Reading)
deriving Inhabited

/-- The reading that an outcome ends with. -/
def ScanOutcome.reading? : ScanOutcome → Option Reading
  | .opened last => last
  | .matched reading => some reading
  | _ => none

namespace Tables

/-! ## One probe -/

/-- What a reply to the probe at a place means. -/
def judge (t : Tables) (place : Nat) (protocol : Protocol) : ProbeReply → ScanOutcome
  | .error e => if saysClosed e protocol then .closed else .opened none
  | .ok (raw, tls) =>
      let reading : Reading := ⟨raw, tls, t.fingerprint raw tls place⟩
      if reading.fingerprint.isMatched then .matched reading else .opened (some reading)

/-- Send the probe at a place, in the plain or over TLS. -/
def sendOver (t : Tables) (host : String) (port : Nat) (tls : Bool) (place : Nat) :
    ProbeDialog ScanOutcome :=
  match t.probes[place]? with
  | none => .done .notMatched
  | some p =>
      .ask ⟨host, port, p.request host, tls, p.protocol⟩ fun reply =>
        .done (t.judge place p.protocol reply)

/-- Whether the probe at a place goes to a port over TLS. -/
def usesTls (t : Tables) (port place : Nat) : Bool :=
  (t.probes[place]?).any fun p => p.sslPorts.contains port

/-- Send the probe at a place. -/
def send (t : Tables) (host : String) (port place : Nat) : ProbeDialog ScanOutcome :=
  t.sendOver host port (t.usesTls port place) place

/-! ## Inside TLS -/

/-- The service that is reported for TLS itself. -/
def tlsService : String := "ssl"

/-- What the first of some probes finds that is recognised; those that have been used are not sent
again, and a closed port ends the search. -/
def findInside (t : Tables) (host : String) (port : Nat) (used : List Nat) :
    List Nat → ProbeDialog (Option Reading)
  | [] => .done none
  | place :: rest =>
      if used.contains place then t.findInside host port used rest
      else do
        match ← t.send host port place with
        | .closed => pure none
        | .matched reading => pure (some reading)
        | _ => t.findInside host port (place :: used) rest

/-- Ask for a web page over TLS. -/
def askWeb (t : Tables) (host : String) (port : Nat) : ProbeDialog (Option Reading) :=
  match t.place? Tuning.webProbe with
  | none => .done none
  | some place => do
      match ← t.sendOver host port true place with
      | .matched reading => pure (some reading)
      | _ => pure none

/-- What is reported for something found inside TLS: not TLS again, and a web server by the name
that it has there. -/
def inside? (r : Reading) : Option Reading :=
  if r.fingerprint.service = tlsService then none
  else if r.fingerprint.service = "http" then
    some { r with fingerprint := { r.fingerprint with service := "https" } }
  else some r

/-- Find out what is inside TLS. -/
def lookInside (t : Tables) (host : String) (port : Nat) (used : List Nat) :
    ProbeDialog (Option Reading) := do
  let found ← t.findInside host port used t.insidePlaces
  let found ←
    if found.all fun r => r.fingerprint.service == tlsService then t.askWeb host port
    else pure found
  pure (found.bind inside?)

/-! ## Walks -/

/-- An outcome after one that did not end the walk: the last reply counts, and of two that are open
without a reply the first one stands. -/
def later (seen : ScanOutcome) : ScanOutcome → ScanOutcome
  | .opened last => .opened (last.or seen.reading?)
  | _ => seen

/-- Send some probes, those that have been used excepted, until one ends the walk. -/
def walk (t : Tables) (host : String) (port : Nat) (used : List Nat) (seen : ScanOutcome) :
    List Nat → ProbeDialog ScanOutcome
  | [] => .done seen
  | place :: rest =>
      if used.contains place then t.walk host port used seen rest
      else do
        match ← t.send host port place with
        | .closed => pure .closed
        | .matched reading =>
            if reading.fingerprint.service = tlsService then do
              match ← t.lookInside host port (place :: used) with
              | some better => pure (.matched better)
              | none => pure (.matched reading)
            else pure (.matched reading)
        | outcome => t.walk host port (place :: used) (later seen outcome) rest

/-- Send the first of some probes, and the others if it does not settle the matter. -/
def walkAll (t : Tables) (host : String) (port : Nat) : List Nat → ProbeDialog ScanOutcome
  | [] => .done .notMatched
  | first :: rest => do
      match ← t.walk host port [] .notMatched [first] with
      | .opened last => do
          match ← t.walk host port [first] .notMatched rest with
          | .notMatched => pure (.opened last)
          | outcome => pure outcome
      | .notMatched => t.walk host port [first] .notMatched rest
      | outcome => pure outcome

/-- Scan a port of a host. -/
def scan (t : Tables) (host port : String) (level : Nat) : ProbeDialog ScanOutcome :=
  match port? port with
  | none => .done .notMatched
  | some (port, true) => t.walk host port [] .notMatched (t.selectUdp port level)
  | some (port, false) =>
      if t.excluded.contains port then .done .notMatched
      else t.walkAll host port (t.select port level)

end Tables

end Fingerprinting.Nmap
