/-
# Collections of fingers

`Fingers` files compiled fingers: those for HTTP, with the active ones and the icons of all of them
indexed, and those for services, indexed by port.  A finger for other protocols is not filed.

* `Fingers.append` compiles and files fingers, one after the other;
* `Fingers.matchHttp` and `Fingers.matchActive` try the fingers for HTTP;
* `Fingers.matchSocket` tries the fingers for a port, then those for any port, then all others.
-/
import Fingerprinting.Corpus
import Fingerprinting.Finger.Match
import Fingerprinting.Service.Sender

namespace Fingerprinting

/-! ## Ports -/

/-- The first and last port of a range. -/
def portRange? (s : String) : Option (Nat × Nat) := do
  let (a, b) ← Text.cut '-' s
  let first ← Text.decimal? Text.max16 (Text.trim a)
  let last ← Text.decimal? Text.max16 (Text.trim b)
  if first ≤ last then some (first, last) else none

/-- The ports of one item of a list: each of a range, or the item itself. -/
def expandItem (item : String) : List String :=
  match portRange? item with
  | some (first, last) => (List.range' first (last + 1 - first)).map Text.decimal
  | none => [item]

/-- The ports of lists whose items are separated by commas. -/
def expandPorts (ports : List String) : List String :=
  let items := ports.flatMap (Text.splitOn ',')
  ((items.map Text.trim).filter (· != "")).flatMap expandItem

/-- The port under which fingers are filed that belong to no port. -/
def anyPort : String := "0"

/-! ## Collections -/

/-- Filed fingers. -/
structure Fingers where
  http : List CompiledFinger := []
  /-- The places of the active ones among the fingers for HTTP. -/
  active : List Nat := []
  socket : List CompiledFinger := []
  /-- Ports, each with the place of a finger for services. -/
  filings : List (String × Nat) := []
  favicons : Favicons := .empty
  options : FingerOptions := {}
deriving Inhabited

namespace Fingers

/-- The number of fingers. -/
def size (s : Fingers) : Nat := s.http.length + s.socket.length

/-- The places of the fingers filed under a port. -/
def group (s : Fingers) (port : String) : List Nat :=
  s.filings.filterMap fun (p, i) => if p = port then some i else none

/-! ## Filing -/

/-- File the icons of a rule. -/
def fileIcons (name : String) (favicons : Favicons) (r : CompiledRule) : Favicons :=
  match r.rule.favicon with
  | none => favicons
  | some icon =>
      let favicons := icon.md5.foldl (fun s hash => s.insertMd5 hash name) favicons
      icon.mmh3.foldl (fun s hash => s.insertMmh3 hash name) favicons

/-- File a finger for HTTP. -/
def addHttp (s : Fingers) (f : CompiledFinger) : Fingers :=
  { s with
    http := s.http ++ [f]
    active := if f.isActive then s.active ++ [s.http.length] else s.active
    favicons := f.rules.foldl (fileIcons f.finger.name) s.favicons }

/-- The ports under which a finger for services is filed. -/
def filingPorts (f : CompiledFinger) : List String :=
  let ports := expandPorts f.ports
  if ports.isEmpty then [anyPort] else ports

/-- File a finger for services. -/
def addSocket (s : Fingers) (f : CompiledFinger) : Fingers :=
  { s with
    socket := s.socket ++ [f]
    filings := s.filings ++ (filingPorts f).map fun p => (p, s.socket.length) }

/-- File a finger according to its protocol. -/
def file (s : Fingers) (f : CompiledFinger) : Fingers :=
  if f.protocol = Finger.httpProtocol then s.addHttp f
  else if f.protocol = "tcp" ∨ f.protocol = "udp" then s.addSocket f
  else s

/-- Compile and file fingers.  Those before one that cannot be compiled stay filed. -/
def append (s : Fingers) : List Finger → Fingers × Option RuleError
  | [] => (s, none)
  | f :: rest =>
      match f.compile false with
      | .ok f => (s.file f).append rest
      | .error e => (s, some e)

/-- The collection of some fingers for HTTP and some for services. -/
def new (http socket : List Finger) (options : FingerOptions) : Except Error Fingers :=
  match append { options } (http ++ socket) with
  | (s, none) => .ok s
  | (_, some e) => .error (.rule e)

/-! ## Matching -/

/-- The frames and vulnerabilities of some hits. -/
def collect (hits : List Hit) : Frames × Vulns :=
  (.ofList (hits.map Hit.frame), (hits.filterMap Hit.vuln).foldl Vulns.add .empty)

/-- What the fingers for HTTP find in a response. -/
def matchHttp (s : Fingers) (c : Content) : Frames × Vulns :=
  collect (s.http.filterMap fun f => f.passive? c s.options)

/-- The hits of some fingers on the replies to their payloads. -/
def probeAll (level : Int) (options : FingerOptions) :
    List CompiledFinger → PayloadDialog (List Hit)
  | [] => .done []
  | f :: rest => do
      let hit ← f.active level options
      let hits ← probeAll level options rest
      pure (hit.toList ++ hits)

/-- What the active fingers for HTTP find in the replies to their payloads. -/
def matchActive (s : Fingers) (level : Int) : PayloadDialog (Frames × Vulns) := do
  let hits ← probeAll level s.options (s.active.filterMap fun i => s.http[i]?)
  pure (collect hits)

/-- The places to try for a port: those filed under it, those filed under any port, and all others,
each once. -/
def candidates (s : Fingers) (port : String) : List Nat :=
  let own := if port = "" then [] else s.group port
  (own ++ s.group anyPort ++ List.range s.socket.length).eraseDups

/-- The hit by the first of some fingers. -/
def firstHit (c : Content) (level : Int) (canSend : Bool) (options : FingerOptions) :
    List CompiledFinger → PayloadDialog (Option Hit)
  | [] => .done none
  | f :: rest => do
      match ← f.matchWith c level canSend options with
      | some hit => pure (some hit)
      | none => firstHit c level canSend options rest

/-- The hit by the first finger for services that matches. -/
def matchSocket (s : Fingers) (c : Content) (port : String) (level : Int) (canSend : Bool) :
    PayloadDialog (Option Hit) :=
  firstHit c level canSend s.options ((s.candidates port).filterMap fun i => s.socket[i]?)

/-! ## Services -/

/-- Send the payloads of a dialog to a port of a host, whose name takes the place of its mark. -/
def toService {α : Type} (host port : String) (d : PayloadDialog α) : ServiceDialog α :=
  d.via (fun payload => ⟨host, port, .tcp, Payload.render payload host⟩) Except.toOption

/-- What the fingers for services find at a port of a host. -/
def matchService (s : Fingers) (host port : String) (level : Int) :
    ServiceDialog (Option ServiceResult) := do
  let key := Text.decimal (PortSpec.parse port).port
  let hit ← toService host port (s.matchSocket {} key level true)
  pure (hit.map fun h => { host, port, frame := some h.frame, vuln := h.vuln })

/-- What a collection of fingers can do. -/
def capability : Capability := ⟨true, true⟩

end Fingers

end Fingerprinting
