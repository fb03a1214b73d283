/-
# Fingerprints of services

What a reply to a probe says about a service: its name, and the product, version and attributes that
the rule which recognised it reads off the reply.  A fingerprint without a service has not been
recognised.
-/
import Fingerprinting.Frame.Basic
import Fingerprinting.Nmap.Name

namespace Fingerprinting.Nmap

/-- What is known about a service. -/
structure Fingerprint where
  probe : String := ""
  /-- The source of the regular expression that decided. -/
  regex : String := ""
  service : String := ""
  product : String := ""
  version : String := ""
  info : String := ""
  hostname : String := ""
  system : String := ""
  device : String := ""
  /-- Names of products, each with its attributes. -/
  cpes : List (String × Cpe) := []
deriving DecidableEq, Repr, Inhabited

namespace Fingerprint

/-- Whether the service is known. -/
def isMatched (f : Fingerprint) : Bool := f.service != ""

/-! ## Frames -/

/-- A frame with a tag, which is left out when its value is empty. -/
def tagged (lead value : String) (frame : Frame) : Frame :=
  if value = "" then frame else frame.addTag (lead ++ value)

/-- The frame for an application. -/
def applicationFrame (service : String) (a : Cpe) : Frame :=
  let frame := (Frame.new service .nmap).update a
  let frame := if a.product = "" then frame else { frame with product := a.product }
  let frame := if a.version = "" then frame else frame.setVersion a.version
  tagged "vendor:" a.vendor frame

/-- The frame for a service of which no application is known. -/
def plainFrame (f : Fingerprint) (service : String) : Frame :=
  let frame := Frame.new service .nmap
  let frame := if f.product = "" then frame else { frame with product := f.product }
  if f.version = "" then frame else frame.setVersion f.version

/-- The names of applications. -/
def applications (f : Fingerprint) : List (String × Cpe) := f.cpes.filter fun c => c.2.part == "a"

/-- A frame with the tags of a fingerprint. -/
def decorate (f : Fingerprint) (frame : Frame) : Frame :=
  let frame := tagged "" f.info frame
  let frame := tagged "hostname:" f.hostname frame
  let frame := tagged "device:" f.device frame
  let frame := f.applications.foldl (fun frame c => frame.addTag ("cpe:" ++ c.1)) frame
  frame.addFrom .active

/-- The frames for a service: one for each application, or one for the service itself. -/
def frames (f : Fingerprint) : List Frame :=
  if f.isMatched then
    let service := serviceName f.service
    match f.applications with
    | [] => [f.decorate (f.plainFrame service)]
    | apps => apps.map fun c => f.decorate (applicationFrame service c.2)
  else []

/-! ## Written forms -/

/-- A fingerprint as a JSON object. -/
def json (f : Fingerprint) : Json :=
  .object (Json.textField "probe_name" f.probe ++ Json.textField "match_regex" f.regex ++
    Json.textField "service" f.service ++ Json.textField "product_name" f.product ++
    Json.textField "version" f.version ++ Json.textField "info" f.info ++
    Json.textField "hostname" f.hostname ++ Json.textField "operating_system" f.system ++
    Json.textField "device_type" f.device ++ Json.stringsField "cpes" (f.cpes.map Prod.fst))

/-- Read a fingerprint whose names of products have yet to be read. -/
def ofDocument? (d : Document) : Option (Fingerprint × List String) := do
  let names := ["probe_name", "match_regex", "service", "product_name", "version", "info",
    "hostname", "operating_system", "device_type", "cpes"]
  match ← d.slots? (names.map fun n => [n]) with
  | [probe, regex, service, product, version, info, hostname, system, device, cpes] =>
      some (
        { probe := ← Document.text? probe
          regex := ← Document.text? regex
          service := ← Document.text? service
          product := ← Document.text? product
          version := ← Document.text? version
          info := ← Document.text? info
          hostname := ← Document.text? hostname
          system := ← Document.text? system
          device := ← Document.text? device },
        ← Document.strings? cpes)
  | _ => none

/-- A fingerprint with names of products, each read. -/
def withCpes (f : Fingerprint) (names : List String) : Except Error Fingerprint := do
  .ok { f with cpes := ← names.mapM fun name => do .ok (name, ← Cpe.parse name) }

end Fingerprint

end Fingerprinting.Nmap
