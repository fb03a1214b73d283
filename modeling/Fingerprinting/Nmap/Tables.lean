/-
# Tables of probes

Probes, and the tables by which they are found.  Probes are known by their places in a list.  A
table leads from names to places, others hold the places of the probes that go first or last to a
port, of those that open TLS and of those that are sent inside it, and one the place of the fallback
of every probe.  All of them are filled in when a set of probes is built into tables, and from then
on only read.

* `Tables.build` takes the first probe of every name and adds what `Tuning` knows, phase by phase;
* `Tables.select` and `Tables.selectUdp` select probes for a port and a level of thoroughness;
* `Tables.path` follows the fallbacks of a probe, each at most once.
-/
import Fingerprinting.Nmap.ProbeSet
import Fingerprinting.Nmap.ServiceTable
import Fingerprinting.Nmap.Tuning

namespace Fingerprinting.Nmap

/-! ## Registered places -/

/-- The places that are registered for ports; a port stands there at most once. -/
structure Registry where
  entries : List (Nat × List Nat) := []
deriving DecidableEq, Repr, Inhabited

namespace Registry

/-- What is registered for a port. -/
def get (r : Registry) (port : Nat) : List Nat := (r.entries.lookup port).getD []

/-- Change what a list of ports has for a port; a port that is not listed has nothing. -/
def put (port : Nat) (f : List Nat → List Nat) : List (Nat × List Nat) → List (Nat × List Nat)
  | [] => [(port, f [])]
  | (p, places) :: rest =>
      if p = port then (p, f places) :: rest else (p, places) :: put port f rest

/-- Change what is registered for a port. -/
def change (r : Registry) (port : Nat) (f : List Nat → List Nat) : Registry :=
  ⟨put port f r.entries⟩

theorem lookup_put (port other : Nat) (f : List Nat → List Nat)
    (entries : List (Nat × List Nat)) :
    ((put port f entries).lookup other).getD [] =
      if other = port then f ((entries.lookup port).getD [])
      else (entries.lookup other).getD [] := by
  induction entries with
  | nil =>
      simp only [put, List.lookup_cons, List.lookup_nil]
      grind
  | cons entry rest ih =>
      obtain ⟨p, places⟩ := entry
      simp only [put, List.lookup_cons]
      grind

/-- A change of what is registered for a port leaves the other ports alone. -/
theorem get_change (r : Registry) (port other : Nat) (f : List Nat → List Nat) :
    (r.change port f).get other = if other = port then f (r.get port) else r.get other :=
  lookup_put port other f r.entries

end Registry

/-! ## Tables -/

/-- Probes, the ports that are not to be probed, the services that ports usually have, and the
tables that lead to the probes. -/
structure Tables where
  probes : List Probe := []
  excluded : PortList := {}
  services : ServiceTable := {}
  /-- The places of probes by their names. -/
  names : Dictionary Nat := .empty
  /-- The places of the probes that go to a port before those that are meant for it. -/
  first : Registry := {}
  /-- The places of the probes that go to a port after those that are meant for it. -/
  last : Registry := {}
  /-- The places of the probes that open TLS. -/
  tlsPlaces : List Nat := []
  /-- The places of the probes that are sent once TLS has been found. -/
  insidePlaces : List Nat := []
  /-- For every probe, the place of its fallback, if it has one. -/
  fallbackPlaces : List (Option Nat) := []

namespace Tables

/-- The number of probes. -/
def size (t : Tables) : Nat := t.probes.length

/-- The place of the probe with a name. -/
def place? (t : Tables) (name : String) : Option Nat := t.names.get? name

/-- The probe with a name. -/
def probe? (t : Tables) (name : String) : Option Probe := do t.probes[← t.place? name]?

/-- The places of the probes with some names, those that there are. -/
def places (t : Tables) (names : List String) : List Nat := names.filterMap t.place?

/-- The places of the probes that satisfy a test, in order, each with its probe. -/
def placesWhere (t : Tables) (test : Probe → Bool) : List (Probe × Nat) :=
  t.probes.zipIdx.filter fun p => test p.1

/-! ## Building -/

/-- A probe that is worth sending at some level. -/
def rated (p : Probe) : Probe := if p.rarity = 0 then { p with rarity := 1 } else p

/-- Append a probe, unless there is one with its name. -/
def insert (t : Tables) (p : Probe) : Tables :=
  if t.names.contains p.name then t
  else
    { t with
      probes := t.probes ++ [p]
      names := t.names.insert p.name t.probes.length
      fallbackPlaces := t.fallbackPlaces ++ [none] }

/-- Change the probe with a name, if there is one. -/
def modify (t : Tables) (name : String) (f : Probe → Probe) : Tables :=
  match t.place? name with
  | some place => { t with probes := t.probes.modify place f }
  | none => t

/-- Append a rule to a probe.  Answers whether it has been appended: the probe must be there and the
regular expression supported. -/
def addRule (t : Tables) (name directive : String) : Except RuleError (Tables × Bool) :=
  match t.place? name with
  | none => .ok (t, false)
  | some _ => do
      match ← MatchRule.parse directive false with
      | some m => .ok (t.modify name fun p => { p with rules := p.rules ++ [m] }, true)
      | none => .ok (t, false)

/-- Append the rules of the tuning. -/
def addRules (t : Tables) : Tables :=
  Tuning.rules.foldl
    (fun t (name, directives) =>
      directives.foldl
        (fun t directive =>
          match t.addRule name directive with
          | .ok (t, _) => t
          | .error _ => t) t) t

/-- Send line ends to the ports of mail inside TLS too. -/
def addMailPorts (t : Tables) : Tables :=
  t.modify Tuning.lineProbe fun p =>
    { p with sslPorts := Tuning.tlsMailPorts.foldl PortList.push p.sslPorts }

/-- Register the probe with a name, if there is one, before all that go first to a port. -/
def putFirst (t : Tables) (port : Nat) (name : String) : Tables :=
  match t.place? name with
  | some place => { t with first := t.first.change port (place :: ·) }
  | none => t

/-- Register the probe with a name, if there is one, after all that go last to a port. -/
def putLast (t : Tables) (port : Nat) (name : String) : Tables :=
  match t.place? name with
  | some place => { t with last := t.last.change port (· ++ [place]) }
  | none => t

/-- Register the probes of the tuning that go first to their ports.  Every one goes before those
that have been registered, so the last of them is the first to be. -/
def registerAllFirst (t : Tables) : Tables :=
  Tuning.first.foldr
    (fun (ports, names) t =>
      ports.foldl (fun t port => names.foldr (fun name t => t.putFirst port name) t) t) t

/-- Register the probes of the tuning that go last to their ports. -/
def registerAllLast (t : Tables) : Tables :=
  Tuning.last.foldl
    (fun t (ports, names) =>
      ports.foldl (fun t port => names.foldl (fun t name => t.putLast port name) t) t) t

/-- Set the fallbacks of the tuning, to probes that there are. -/
def setFallbacks (t : Tables) : Tables :=
  Tuning.fallbacks.foldl
    (fun t (name, fallback) =>
      match t.place? fallback with
      | some _ => t.modify name fun p => { p with fallback := some fallback }
      | none => t) t

/-- Enter the places of the probes for TLS. -/
def enterTls (t : Tables) : Tables :=
  { t with
    tlsPlaces := t.places Tuning.tlsProbes
    insidePlaces := t.places Tuning.insideProbes }

/-- The place of a fallback, whose name may lack the protocol. -/
def fallbackPlace? (t : Tables) (name : String) : Option Nat :=
  (t.place? name).or ((t.place? ("TCP_" ++ name)).or (t.place? ("UDP_" ++ name)))

/-- Enter the places of all fallbacks. -/
def resolveFallbacks (t : Tables) : Tables :=
  { t with fallbackPlaces := t.probes.map fun p => p.fallback.bind t.fallbackPlace? }

/-- The tables of the first probe of every name. -/
def start (set : ProbeSet) (services : ServiceTable) : Tables :=
  (set.probes.map rated).foldl insert
    { excluded := set.excluded, services := services.extend set.services }

/-- The tables of a set of probes. -/
def build (set : ProbeSet) (services : ServiceTable) : Tables :=
  (start set services).addRules.addMailPorts.registerAllFirst.registerAllLast.setFallbacks
    |>.enterTls.resolveFallbacks

/-! ## Selection -/

/-- The places of probes from the most to the least worth sending; among equals the order stays. -/
def byRarity (ps : List (Probe × Nat)) : List Nat :=
  (ps.mergeSort fun p q => p.1.rarity ≤ q.1.rarity).map Prod.snd

/-- The TCP probes that are meant for a port. -/
def forPort (t : Tables) (port : Nat) : List Nat :=
  let covering := byRarity (t.placesWhere fun p => p.protocol == .tcp && p.covers port)
  (t.first.get port ++ covering ++ t.last.get port).eraseDups

/-- The TCP probes of rarity one up to a level, in the order of rarity. -/
def upToRarity (t : Tables) (level : Nat) : List Nat :=
  (List.range level).flatMap fun r =>
    (t.placesWhere fun p => p.protocol == .tcp && p.rarity == r + 1).map Prod.snd

/-- The probes to send to a TCP port: those up to a level, those that are meant for the port, and
those that open TLS, each once. -/
def select (t : Tables) (port level : Nat) : List Nat :=
  (t.upToRarity level ++ t.forPort port ++ t.tlsPlaces).eraseDups

/-- The probes to send to a UDP port: those up to a level that are meant for the port or for no
port. -/
def selectUdp (t : Tables) (port level : Nat) : List Nat :=
  (t.placesWhere fun p =>
    p.protocol == .udp && p.rarity ≤ level &&
      (p.ports.isEmpty || p.ports.contains port)).map Prod.snd

/-! ## Fallbacks -/

/-- The place of the fallback of the probe at a place. -/
def next? (t : Tables) (place : Nat) : Option Nat := (t.fallbackPlaces[place]?).join

/-- The places along the fallbacks from one on, up to one of those visited; there are at most
`fuel`. -/
def pathFrom (t : Tables) : Nat → List Nat → Nat → List Nat
  | 0, _, _ => []
  | fuel + 1, visited, place =>
      if visited.contains place then []
      else
        place ::
          match t.next? place with
          | some next => t.pathFrom fuel (place :: visited) next
          | none => []

/-- The places along the fallbacks from one on, each once. -/
def path (t : Tables) (place : Nat) : List Nat := t.pathFrom (t.size + 1) [] place

/-- What the first of some probes that recognises a reply says about it. -/
def recognise (t : Tables) (data : Bytes) : List Nat → Fingerprint
  | [] => {}
  | place :: rest =>
      match t.probes[place]? with
      | none => t.recognise data rest
      | some p =>
          let f := p.respond data
          if f.isMatched then f else t.recognise data rest

/-- What a reply to the probe at a place says.  A web server inside TLS is named for that. -/
def fingerprint (t : Tables) (data : Bytes) (tls : Bool) (place : Nat) : Fingerprint :=
  let f := t.recognise data (t.path place)
  let f := if tls ∧ f.service = "http" then { f with service := "https" } else f
  { f with probe := (t.probes[place]?).elim "" Probe.name }

/-! ## Services -/

/-- The service that a port usually has. -/
def guess? (t : Tables) (port : Nat) (udp : Bool) : Option String := t.services.guess? port udp

end Tables

end Fingerprinting.Nmap
