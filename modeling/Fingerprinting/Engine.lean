/-
# Engines

Six engines detect products, each from a corpus of its own, and a seventh knows icons.  An `Engine`
is any of them, loaded: it may match captured responses, probe services, or both.
-/
import Fingerprinting.Corpora
import Fingerprinting.EHole
import Fingerprinting.Finger.Load
import Fingerprinting.Goby.Basic
import Fingerprinting.Hub
import Fingerprinting.Nmap.Scanner
import Fingerprinting.Wappalyzer.Basic

namespace Fingerprinting

/-! ## Names -/

/-- The engines. -/
inductive EngineName where
  | fingers
  | fingerprintHub
  | wappalyzer
  | eHole
  | goby
  | nmap
  | favicon
deriving DecidableEq, Repr, Inhabited

namespace EngineName

/-- All engines, in the order in which they are asked. -/
def all : List EngineName :=
  [.fingers, .fingerprintHub, .wappalyzer, .eHole, .goby, .nmap, .favicon]

/-- The name of an engine. -/
def name : EngineName → String
  | .fingers => "fingers"
  | .fingerprintHub => "fingerprinthub"
  | .wappalyzer => "wappalyzer"
  | .eHole => "ehole"
  | .goby => "goby"
  | .nmap => "nmap"
  | .favicon => "favicon"

/-- The engine with a name. -/
def ofName? (s : String) : Option EngineName := all.find? fun e => e.name == s

@[simp] theorem ofName?_name (e : EngineName) : ofName? e.name = some e := by
  cases e <;> decide

end EngineName

/-! ## Options -/

/-- How engines are to be built. -/
structure EngineOptions where
  /-- The engines to build, in the order in which they are asked; none means all. -/
  engines : List String := []
  corpora : Corpora := {}
  noGuess : Bool := false
  opsec : Bool := false
  matchDetail : Bool := false

/-- The names of the engines to build, in lower case and each once. -/
def EngineOptions.names (o : EngineOptions) : List String :=
  if o.engines.isEmpty then EngineName.all.map EngineName.name
  else
    ((o.engines.map fun name => Text.lower (Text.trim name)).filter (· != "")).eraseDups

/-! ## Engines -/

/-- A loaded engine. -/
inductive Engine where
  | fingers (s : Fingers)
  | fingerprintHub (s : Hub)
  | wappalyzer (s : Wappalyzer)
  | eHole (s : EHole)
  | goby (s : Goby)
  | nmap (s : Nmap.Scanner)
  | favicon (s : Favicons)

namespace Engine

/-- Which engine it is. -/
def name : Engine → EngineName
  | .fingers _ => .fingers
  | .fingerprintHub _ => .fingerprintHub
  | .wappalyzer _ => .wappalyzer
  | .eHole _ => .eHole
  | .goby _ => .goby
  | .nmap _ => .nmap
  | .favicon _ => .favicon

/-- The number of rules. -/
def size : Engine → Nat
  | .fingers s => s.size
  | .fingerprintHub s => s.size
  | .wappalyzer s => s.size
  | .eHole s => s.size
  | .goby s => s.size
  | .nmap s => s.size
  | .favicon s => s.size

/-- What the engine can do. -/
def capability : Engine → Capability
  | .fingers _ => Fingers.capability
  | .nmap _ => Nmap.Scanner.capability
  | _ => .webOnly

/-- The icons that the engine knows. -/
def favicons : Engine → Favicons
  | .fingers s => s.favicons
  | .fingerprintHub s => s.favicons
  | .eHole s => s.favicons
  | .favicon s => s
  | _ => .empty

/-- What the engine finds in a response. -/
def matchWeb (c : Content) : Engine → Frames
  | .fingers s => (s.matchHttp c).1
  | .fingerprintHub s => s.matchWeb c
  | .wappalyzer s => s.matchWeb c
  | .eHole s => s.matchWeb c
  | .goby s => s.matchWeb c
  | .nmap _ => .empty
  | .favicon s => s.matchWeb c

/-- What the engine finds at a port of a host. -/
def matchService (host port : String) (level : Int) : Engine → ServiceDialog (Option ServiceResult)
  | .fingers s => s.matchService host port level
  | .nmap s => s.matchService host port level
  | _ => .done none

/-! ## Loading -/

/-- Load a corpus, or do without. -/
def loadOr {α : Type} (default : α) (load : Bytes → Except Error α) :
    Option Bytes → Except Error α
  | some data => load data
  | none => .ok default

/-- Load the scanner: from records, else from directives, else from the bundled ones. -/
def loadScanner (c : Corpora) (noGuess : Bool) : Except Error Nmap.Scanner :=
  match c.probeRecords with
  | some records => Nmap.Scanner.load records c.services noGuess
  | none => Nmap.Scanner.parse (c.probes.getD Nmap.bundledProbes) c.services noGuess

/-- Load an engine; without its corpus it has no rules.  Icons come from other engines. -/
def load (o : EngineOptions) : EngineName → Except Error Engine
  | .fingers => do
      let options : FingerOptions := ⟨o.opsec, o.matchDetail⟩
      let http := o.corpora.fingersHttp.getD []
      .ok (.fingers (← Fingers.ofCorpora http o.corpora.fingersSocket options))
  | .fingerprintHub => do
      .ok (.fingerprintHub (← loadOr ⟨[], .empty⟩ Hub.load o.corpora.fingerprintHub))
  | .wappalyzer => do .ok (.wappalyzer (← loadOr ⟨.empty⟩ Wappalyzer.load o.corpora.wappalyzer))
  | .eHole => do .ok (.eHole (← loadOr ⟨[], .empty⟩ EHole.load o.corpora.eHole))
  | .goby => do .ok (.goby (← loadOr ⟨[]⟩ Goby.load o.corpora.goby))
  | .nmap => do .ok (.nmap (← loadScanner o.corpora o.noGuess))
  | .favicon => .ok (.favicon .empty)

/-- Load an engine by name. -/
def loadNamed (o : EngineOptions) (name : String) : Except Error Engine :=
  match EngineName.ofName? name with
  | some e => load o e
  | none => .error (.unknownEngine name)

end Engine

end Fingerprinting
