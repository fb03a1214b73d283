/-
# EHole fingers

An EHole finger looks for keywords or regular expressions in the header or the body of a response,
all of which must be found.  The keywords of some fingers are hash numbers of icons, which are
matched elsewhere.
-/
import Fingerprinting.Corpus
import Fingerprinting.Favicon
import Fingerprinting.Regex.Basic

namespace Fingerprinting

/-! ## Records -/

/-- What the keywords of a finger are. -/
inductive EHoleMethod where
  | keyword
  | regular
  | icon
deriving DecidableEq, Repr, Inhabited

/-- Where a finger looks. -/
inductive EHoleLocation where
  | body
  | header
  | title
deriving DecidableEq, Repr, Inhabited

/-- A finger as it is written. -/
structure EHoleFinger where
  name : String
  method : EHoleMethod
  location : EHoleLocation
  keywords : List String := []
deriving DecidableEq, Repr, Inhabited

/-- Read a method. -/
def EHoleMethod.ofDocument? : Document → Option EHoleMethod :=
  Document.oneOf? [("keyword", .keyword), ("regular", .regular), ("faviconhash", .icon)]

/-- Read a location. -/
def EHoleLocation.ofDocument? : Document → Option EHoleLocation :=
  Document.oneOf? [("body", .body), ("header", .header), ("title", .title)]

/-- Read a finger. -/
def EHoleFinger.ofDocument? (d : Document) : Option EHoleFinger := do
  match ← d.slots? [["cms"], ["method"], ["location"], ["keyword"]] with
  | [name, method, location, keywords] =>
      some
        { name := ← Document.required? Document.string? name
          method := ← Document.required? EHoleMethod.ofDocument? method
          location := ← Document.required? EHoleLocation.ofDocument? location
          keywords := ← Document.strings? keywords }
  | _ => none

/-! ## Rules -/

/-- A finger with what to look for. -/
structure EHoleRule where
  finger : EHoleFinger
  literals : List Bytes := []
  regexes : List Regex := []

namespace EHoleFinger

/-- The finger before it is known what to look for. -/
def bare (f : EHoleFinger) : EHoleRule := { finger := f }

/-- Compile a regular expression of a finger. -/
def regex (f : EHoleFinger) (source : String) : Except RuleError Regex :=
  match Regex.compile ("(?i)" ++ source) with
  | .ok r => .ok r
  | .error _ => .error (.pattern ("ehole " ++ f.name))

/-- The rule of a finger. -/
def compile (f : EHoleFinger) : Except RuleError EHoleRule :=
  match f.method with
  | .keyword => .ok { f.bare with literals := f.keywords.map fun k => Utf8.encode (Text.lower k) }
  | .regular => do .ok { f.bare with regexes := ← f.keywords.mapM f.regex }
  | .icon => .ok f.bare

end EHoleFinger

namespace EHoleRule

/-- Where a rule looks, in lower case. -/
def haystack? (r : EHoleRule) (c : Content) : Option Bytes :=
  match r.finger.location with
  | .header => c.headerLower?
  | _ => c.bodyLower?

/-- Whether a response has all that a rule looks for. -/
def fits (r : EHoleRule) (c : Content) : Bool :=
  match r.haystack? c, r.finger.method with
  | some b, .keyword => r.literals.all fun k => Bytes.contains k b
  | some b, .regular => r.regexes.all fun re => re.isMatch b
  | _, _ => false

end EHoleRule

/-! ## Collections -/

/-- The fingers of a corpus. -/
structure EHole where
  rules : List EHoleRule
  favicons : Favicons
deriving Inhabited

namespace EHole

/-- File the icons of a finger. -/
def fileIcons (s : Favicons) (f : EHoleFinger) : Favicons :=
  if f.method = .icon then f.keywords.foldl (fun s hash => s.insertMmh3 hash f.name) s else s

/-- Compile fingers and file their icons. -/
def ofFingers (fingers : List EHoleFinger) : Except RuleError EHole := do
  .ok ⟨← fingers.mapM EHoleFinger.compile, fingers.foldl fileIcons .empty⟩

/-- Read the fingers from a corpus. -/
def ofDocument? (d : Document) : Option (List EHoleFinger) := do
  match ← d.slots? [["fingerprint"]] with
  | [fingers] => Document.required? (Document.listOf? EHoleFinger.ofDocument?) fingers
  | _ => none

/-- Read a corpus. -/
def load (data : Bytes) : Except Error EHole := do
  let fingers ← Corpus.ofJson ofDocument? (← Corpus.unpack data)
  (ofFingers fingers).mapError .rule

/-- The number of fingers. -/
def size (s : EHole) : Nat := s.rules.length

/-- The frames of the fingers that a response fits. -/
def matchWeb (s : EHole) (c : Content) : Frames :=
  .ofList ((s.rules.filter fun r => r.fits c).map fun r => Frame.new r.finger.name .eHole)

end EHole

end Fingerprinting
