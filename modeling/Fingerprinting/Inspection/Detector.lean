/-
# Inspection of detectors

Complete JSON views of aliases, detectors, batches and senders.
-/
import Fingerprinting.Batch
import Fingerprinting.Inspection.Basic
import Fingerprinting.Sender.Exchange
import Fingerprinting.Sender.Options

namespace Fingerprinting

/-! ## Aliases -/

/-- An alias with the attributes of its product. -/
def Alias.view (a : Alias) : Json := .sorted [("alias", a.json), ("attrs", a.attributes.view)]

/-- What is known about a spelling, with the name of the alias. -/
def AliasMatch.view : AliasMatch → Json
  | .found a => .strings ["found", a.name]
  | .blocked a => .strings ["blocked", a.name]

/-! ## Engines -/

/-- A loaded engine with what it can do. -/
def Engine.view (e : Engine) : Json :=
  .array [.string e.name.name, .nat e.size, .bool (e.size == 0), .bool e.capability.web,
    .bool e.capability.service]

/-- A loaded engine with what it finds in some responses. -/
def Engine.matchesView (e : Engine) (cs : List Content) : Json :=
  .sorted [
    ("name", .string e.name.name),
    ("len", .nat e.size),
    ("empty", .bool (e.size == 0)),
    ("capability", e.capability.view),
    ("matches", .array (cs.map fun c => (e.matchWeb c).view))]

/-- A loaded engine in brief. -/
def Engine.brief (e : Engine) : Json := .array [.string e.name.name, .nat e.size]

/-- The engines that may be there or not. -/
def EngineName.optional : List EngineName :=
  [.fingers, .fingerprintHub, .wappalyzer, .eHole, .goby, .nmap]

/-- A detector with its engines, which of them are enabled, its icons and the number of aliases. -/
def Detector.view (d : Detector) : Json :=
  .sorted [
    ("show", .string d.line),
    ("order", .strings (d.engines.map fun e => e.name.name)),
    ("aliases", .nat d.aliases.size),
    ("favicons", d.favicons.view),
    ("enabled", .array (d.engines.map fun e => .bool (d.isEnabled e.name))),
    ("typed", .array (EngineName.optional.map fun n => .bool (d.engine? n).isSome))]

/-- The engine with a name, in brief if it is enabled and with what it can do if it is there. -/
def Detector.engineView (d : Detector) (name : String) : Json :=
  let e := (EngineName.ofName? name).bind d.engine?
  .sorted [
    ("enabled", .orNull Engine.brief (e.filter fun e => d.isEnabled e.name)),
    ("registered", .orNull Engine.view e)]

/-! ## Corpora and batches -/

/-- Corpora by name, with their number. -/
def Corpora.view (c : Corpora) : Json :=
  let bytes : Option Bytes → Json := .orNull Bytes.view
  .sorted [
    ("count", .nat c.count),
    ("aliases", bytes c.aliases),
    ("fingers_http", bytes c.fingersHttp),
    ("fingers_socket", bytes c.fingersSocket),
    ("fingerprinthub", bytes c.fingerprintHub),
    ("ehole", bytes c.eHole),
    ("goby", bytes c.goby),
    ("wappalyzer", bytes c.wappalyzer),
    ("nmap_probes_json", bytes c.probeRecords),
    ("nmap_probes", .orNull Json.string c.probes),
    ("nmap_services", bytes c.services)]

/-- A target with its line. -/
def Target.view (t : Target) : Json :=
  .sorted [("host", .string t.host), ("port", .string t.port), ("show", .string t.line)]

/-- How far a batch has come. -/
def Progress.view (p : Progress) : Json :=
  .sorted [("total", .nat p.total), ("completed", .nat p.completed),
    ("identified", .nat p.identified)]

/-! ## Senders -/

/-- Waiting times with what follows from them. -/
def SenderOptions.view (o : SenderOptions) : Json :=
  .sorted [
    ("timeout", .nat o.timeout),
    ("tcp_clamp", .nat o.tcpClamp),
    ("udp_clamp", .nat o.udpClamp),
    ("buffer", .nat o.buffer),
    ("tcp_read", .nat o.tcpRead),
    ("udp_read", .nat o.udpRead),
    ("json", o.json)]

end Fingerprinting
