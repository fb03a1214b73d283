/-
# Frames

A frame is one product that was detected: its name, version and attributes, the tags it carries and
the provenances that reported it.  The version is mirrored in the attributes, and a frame that an
engine reports carries the engine's name as a tag.
-/
import Fingerprinting.Cpe.Binding
import Fingerprinting.Frame.Provenance

namespace Fingerprinting

/-! ## Matches -/

/-- Which test of a rule decided a match, and how. -/
structure MatchDetail where
  kind : String
  index : Option Nat
  pattern : String
deriving DecidableEq, Repr, Inhabited

/-- The fields of a detail that have a value. -/
def MatchDetail.json (d : MatchDetail) : Json :=
  .object ([("class", Json.string d.kind)] ++
    (match d.index with
      | some i => [("index", Json.nat i)]
      | none => []) ++
    (if d.pattern = "" then [] else [("pattern", .string d.pattern)]))

/-! ## Frames -/

/-- A detected product. -/
structure Frame where
  name : String
  vendor : String := ""
  product : String := ""
  version : String := ""
  cpe : Cpe := {}
  tags : List String := []
  origin : Provenance
  froms : Provenances
  focus : Bool := false
  detail : Option MatchDetail := none
deriving DecidableEq, Repr, Inhabited

namespace Frame

/-- Add a tag, unless the frame has it. -/
def addTag (f : Frame) (tag : String) : Frame :=
  if f.tags.contains tag then f else { f with tags := f.tags ++ [tag] }

/-- Whether the frame has a tag. -/
def hasTag (f : Frame) (tag : String) : Bool := f.tags.contains tag

/-- A frame for an application. -/
def new (name : String) (origin : Provenance) : Frame :=
  let frame : Frame :=
    { name, cpe := .application name, origin, froms := .singleton origin }
  if origin.isEngine then frame.addTag origin.name else frame

/-- Set the version, and mirror it in the attributes. -/
def setVersion (f : Frame) (version : String) : Frame :=
  { f with version, cpe := { f.cpe with version } }

/-- Set the vendor, and mirror it in the attributes; an empty vendor changes nothing. -/
def setVendor (f : Frame) (vendor : String) : Frame :=
  if vendor = "" then f else { f with vendor, cpe := { f.cpe with vendor } }

/-- Set the product, and mirror it in the attributes; an empty product changes nothing. -/
def setProduct (f : Frame) (product : String) : Frame :=
  if product = "" then f else { f with product, cpe := { f.cpe with product } }

/-- Note another provenance. -/
def addFrom (f : Frame) (p : Provenance) : Frame := { f with froms := f.froms.insert p }

/-- Whether every provenance is a guess by port. -/
def isGuess (f : Frame) : Bool :=
  !f.froms.toList.isEmpty && f.froms.toList.all (· == .guess)

/-- Take over attributes that have a value.  The part is an application when there is none, and a
version that the frame already has stays. -/
def update (f : Frame) (a : Cpe) : Frame :=
  let cpe := f.cpe.updated a
  let cpe := if cpe.part = "" then { cpe with part := "a" } else cpe
  let cpe := if f.version = "" then cpe else { cpe with version := f.version }
  { f with
    cpe
    vendor := Cpe.prefer f.vendor a.vendor
    product := Cpe.prefer f.product a.product
    version := if f.version = "" then a.version else f.version }

/-! ## Written forms -/

/-- A frame on one line: its name, its version with underscores for colons, and its provenances. -/
def line (f : Frame) : String :=
  let version :=
    if f.version = "" then ""
    else ":" ++ String.ofList (f.version.toList.map fun c => if c = ':' then '_' else c)
  let froms :=
    match f.froms.toList with
    | [] => ""
    | [p] => if p = .finger then "" else ":" ++ p.name
    | ps => ":(" ++ Text.join " " (ps.map Provenance.name) ++ ")"
  (if f.focus then "focus:" else "") ++ f.name ++ version ++ froms

/-- A frame as a JSON object. -/
def json (f : Frame) : Json :=
  .object ([("name", Json.string f.name)] ++ Json.textField "vendor" f.vendor ++
    Json.textField "product" f.product ++ Json.textField "version" f.version ++
    (if f.tags.isEmpty then [] else [("tags", .strings f.tags)]) ++
    [("froms", .strings f.froms.names)] ++
    (if f.focus then [("is_focus", .bool true)] else []) ++
    (match f.detail with
      | some d => [("match_detail", d.json)]
      | none => []))

end Frame

end Fingerprinting
