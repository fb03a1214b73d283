/-
# Inspection of probes

Complete JSON views of match rules, probes, catalogs and what scans find.
-/
import Fingerprinting.Inspection.Basic
import Fingerprinting.Nmap.Scanner

namespace Fingerprinting.Nmap

/-- A fingerprint with the attributes of the products that it names. -/
def Fingerprint.view (f : Fingerprint) : Json :=
  match f.json with
  | .object fields =>
      .sorted (fields ++ [("matched", .bool f.isMatched),
        ("cpe_attributes", .array (f.cpes.map fun c => c.2.view))])
  | j => j

/-- The letters of the fields that have a template. -/
def VersionInfo.letters (v : VersionInfo) : List String :=
  [("p", v.product), ("v", v.version), ("i", v.info), ("h", v.hostname), ("o", v.system),
    ("d", v.device)].filterMap fun (letter, t) => if t.isEmpty then none else some letter

/-- A compiled match rule. -/
def MatchRule.view (m : MatchRule) : Json :=
  .sorted [
    ("soft", .bool m.soft),
    ("service", .string m.service),
    ("pattern", .string m.pattern),
    ("regex", .string m.regex.source),
    ("fields", .strings m.info.letters),
    ("cpes", .nat m.info.cpes.length)]

/-- The frames of a fingerprint. -/
def Fingerprint.framesView (f : Fingerprint) : Json := .array (f.frames.map Frame.view)

/-- What a match rule says about a reply. -/
def MatchRule.hitView (m : MatchRule) (reply : Bytes) : Json :=
  let f := m.describe reply
  .sorted [("hit", .bool (m.isMatch reply)), ("fp", f.view), ("frames", f.framesView)]

/-- A probe; of some ports, those that it is meant for. -/
def Probe.view (p : Probe) (ports : List Nat) : Json :=
  let within (l : PortList) : List Nat := ports.filter l.contains
  .sorted [
    ("name", .string p.name),
    ("protocol", .string p.protocol.name),
    ("rarity", .nat p.rarity),
    ("fallback", .orNull .string p.fallback),
    ("payload", p.payload.view),
    ("no_ports", .bool p.ports.isEmpty),
    ("no_ssl_ports", .bool p.sslPorts.isEmpty),
    ("ports", .array ((within p.ports).map .nat)),
    ("ssl_ports", .array ((within p.sslPorts).map .nat)),
    ("covered", .nat (ports.filter p.covers).length),
    ("count", .nat (within p.ports).length),
    ("matches", .array (p.rules.map MatchRule.view))]

/-- A set of probes; of some ports, those that it leaves out. -/
def ProbeSet.view (s : ProbeSet) (ports : List Nat) : Json :=
  .sorted [
    ("probes", .array (s.probes.map fun p => p.view ports)),
    ("exclude", .array ((ports.filter s.excluded.contains).map .nat)),
    ("services", .object (s.services.entries.map fun (k, v) => (k, .string v)))]

/-- The probes of a catalog, each in brief. -/
def Tables.view (t : Tables) : Json :=
  .sorted [
    ("len", .nat t.size),
    ("empty", .bool (t.size == 0)),
    ("services", .nat t.services.size),
    ("probes", .array (t.probes.map fun p =>
      .array [.string p.name, .nat p.rarity, .orNull .string p.fallback, .nat p.rules.length]))]

/-- The names of the probes at some places. -/
def Tables.namesAt (t : Tables) (places : List Nat) : Json :=
  .strings ((places.filterMap fun i => t.probes[i]?).map Probe.name)

/-- The name of an outcome. -/
def ScanOutcome.name : ScanOutcome → String
  | .notMatched => "not_matched"
  | .closed => "closed"
  | .opened _ => "open"
  | .matched _ => "matched"

/-- What a scan finds, by name, with the reply that it ends with. -/
def ScanOutcome.view (o : ScanOutcome) : List (String × Json) := [
  ("status", .string o.name),
  ("response", .orNull (fun (r : Reading) =>
    .sorted [("raw", r.raw.view), ("tls", .bool r.tls), ("fp", r.fingerprint.view)]) o.reading?)]

end Fingerprinting.Nmap
