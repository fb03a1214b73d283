/-
# The detector

All engines behind one surface.  A detector holds loaded engines in the order in which they are
asked, knows which of them are enabled, and reports what they find under the names of its aliases.

* `Detector.new` builds one from corpora;
* `Detector.matchWeb` matches a response, `Detector.matchService` probes a service.

The engine for icons is always there.  It knows the icons of the other engines, and is asked only
when it is named.
-/
import Fingerprinting.Alias
import Fingerprinting.Engine

namespace Fingerprinting

/-- Engines, and the aliases under which they report. -/
structure Detector where
  engines : List Engine := []
  enabled : List EngineName := []
  aliases : Aliases := .empty

namespace Detector

/-! ## Building -/

/-- The engines with the one for icons at the end, if it is not among them. -/
def withFavicon (engines : List Engine) : List Engine :=
  if engines.any fun e => e.name == .favicon then engines else engines ++ [.favicon .empty]

/-- The engines whose icons are collected; of two names for an icon, that of the later engine
counts. -/
def iconSources : List EngineName := [.fingers, .fingerprintHub, .eHole]

/-- The icons of some engines. -/
def iconsOf (engines : List Engine) : Favicons :=
  (iconSources.flatMap fun n => engines.filter fun e => e.name == n).foldl
    (fun s e => s.extend e.favicons) .empty

/-- Give an engine for icons what it is to know. -/
def fillIcons (icons : Favicons) : Engine → Engine
  | .favicon _ => .favicon icons
  | e => e

/-- The aliases that fingers for HTTP bring, one for each. -/
def seedOf : Engine → List Alias
  | .fingers s => s.http.map fun f =>
      Alias.withSpelling { name := f.finger.name, cpe := f.finger.cpe } EngineName.fingers.name
        f.finger.name
  | _ => []

/-- Build engines. -/
def new (o : EngineOptions) : Except Error Detector := do
  let loaded ← o.names.mapM (Engine.loadNamed o)
  let engines := (withFavicon loaded).map (fillIcons (iconsOf loaded))
  .ok
    { engines
      enabled := (loaded.map Engine.name).filter (· != .favicon)
      aliases := ← Aliases.load (loaded.flatMap seedOf) o.corpora.aliases }

/-! ## Engines -/

/-- The engine with a name. -/
def engine? (d : Detector) (name : EngineName) : Option Engine :=
  d.engines.find? fun e => e.name == name

/-- Whether an engine is enabled. -/
def isEnabled (d : Detector) (name : EngineName) : Bool := d.enabled.contains name

/-- Enable an engine that is there. -/
def enable (d : Detector) (name : EngineName) : Detector :=
  if (d.engine? name).isSome ∧ !d.isEnabled name then { d with enabled := d.enabled ++ [name] }
  else d

/-- Disable an engine. -/
def disable (d : Detector) (name : EngineName) : Detector :=
  { d with enabled := d.enabled.filter (· != name) }

/-- The enabled engines, in the order in which they are asked. -/
def active (d : Detector) : List Engine := d.engines.filter fun e => d.isEnabled e.name

/-- The icons that are known. -/
def favicons (d : Detector) : Favicons := (d.engine? .favicon).elim .empty Engine.favicons

/-- The engines with the numbers of their rules, on one line. -/
def line (d : Detector) : String :=
  Text.join " " (d.engines.map fun e => e.name.name ++ ":" ++ Text.decimal e.size)

/-! ## Matching -/

/-- Fold the frames that an engine finds in a response into others, under the names of their
aliases. -/
def fold (d : Detector) (c : Content) (frames : Frames) (e : Engine) : Frames :=
  d.aliases.merge e.name.name frames (e.matchWeb c)

/-- What the enabled engines find in a response. -/
def matchWeb (d : Detector) (c : Content) : Frames :=
  (d.active.filter fun e => e.name != .favicon && e.capability.web).foldl (d.fold c) .empty

/-- What some engines find in a response, enabled or not. -/
def matchWebWith (d : Detector) (names : List EngineName) (c : Content) : Frames :=
  ((names.filterMap d.engine?).filter fun e => e.capability.web).foldl (d.fold c) .empty

/-- What the enabled engines find in a response once it has been parsed and written in normal form.
-/
def detect (d : Detector) (raw : Bytes) : Except Error Frames := do
  let r ← HttpResponse.parse raw
  .ok (d.matchWeb (.ofHttp r.write))

/-- What some engines find at a port of a host. -/
def probeAll (host port : String) (level : Int) : List Engine → ServiceDialog (List ServiceResult)
  | [] => .done []
  | e :: rest => do
      let result ← e.matchService host port level
      let results ← probeAll host port level rest
      pure (result.toList ++ results)

/-- What the enabled engines find at a port of a host. -/
def matchService (d : Detector) (host port : String) (level : Int) :
    ServiceDialog (List ServiceResult) :=
  probeAll host port level (d.active.filter fun e => e.capability.service)

end Detector

end Fingerprinting
