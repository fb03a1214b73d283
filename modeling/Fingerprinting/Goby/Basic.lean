/-
# Goby fingers

A Goby finger tests whether features occur in a response, gives each test a label, and combines the
labels by a logic.
-/
import Fingerprinting.Corpus
import Fingerprinting.Favicon
import Fingerprinting.Goby.Logic

namespace Fingerprinting

/-! ## Records -/

/-- A labelled test: whether a feature occurs, or does not. -/
structure GobyTest where
  label : String
  feature : String
  isEqual : Bool := false
deriving DecidableEq, Repr, Inhabited

/-- A finger as it is written. -/
structure GobyFinger where
  name : String
  logic : String
  tests : List GobyTest := []
deriving DecidableEq, Repr, Inhabited

/-- Read a test. -/
def GobyTest.ofDocument? (d : Document) : Option GobyTest := do
  match ← d.slots? [["label"], ["feature"], ["is_equal"]] with
  | [label, feature, isEqual] =>
      some
        { label := ← Document.required? Document.string? label
          feature := ← Document.required? Document.string? feature
          isEqual := ← Document.flag? isEqual }
  | _ => none

/-- Read a finger. -/
def GobyFinger.ofDocument? (d : Document) : Option GobyFinger := do
  match ← d.slots? [["name"], ["logic"], ["rule"]] with
  | [name, logic, tests] =>
      some
        { name := ← Document.required? Document.string? name
          logic := ← Document.required? Document.string? logic
          tests := ← Document.orElse? [] (Document.listOf? GobyTest.ofDocument?) tests }
  | _ => none

/-! ## Rules -/

/-- A finger with its features in lower case and its logic read. -/
structure GobyRule where
  finger : GobyFinger
  logic : Option Goby.Expr := none
deriving Inhabited

namespace GobyFinger

/-- The finger before its logic is read. -/
def bare (f : GobyFinger) : GobyRule := { finger := f }

/-- The rule of a finger. -/
def compile (f : GobyFinger) : Except RuleError GobyRule :=
  match Goby.Expr.parse f.logic with
  | .error e => .error (.inside ("goby " ++ f.name) e)
  | .ok logic =>
      .ok
        { finger :=
            { f with tests := f.tests.map fun t => { t with feature := Text.lower t.feature } }
          logic }

end GobyFinger

namespace GobyRule

/-- Whether a response in lower case passes a test. -/
def passes (raw : Bytes) (t : GobyTest) : Bool :=
  Bytes.contains (Utf8.encode t.feature) raw == t.isEqual

/-- The truth of a label: of several tests with one label the last counts, and other labels are
false. -/
def truth (r : GobyRule) (raw : Bytes) (label : String) : Bool :=
  match r.finger.tests.reverse.find? fun t => t.label == label with
  | some t => passes raw t
  | none => false

/-- Whether a response in lower case fits a rule. -/
def fits (r : GobyRule) (raw : Bytes) : Bool :=
  match r.logic with
  | some e => e.eval (r.truth raw)
  | none => false

end GobyRule

/-! ## Collections -/

/-- The fingers of a corpus. -/
structure Goby where
  rules : List GobyRule
deriving Inhabited

namespace Goby

/-- Compile fingers. -/
def ofFingers (fingers : List GobyFinger) : Except RuleError Goby := do
  .ok ⟨← fingers.mapM GobyFinger.compile⟩

/-- Read a corpus. -/
def load (data : Bytes) : Except Error Goby := do
  let fingers ← Corpus.ofJson (Document.listOf? GobyFinger.ofDocument?) (← Corpus.unpack data)
  (ofFingers fingers).mapError .rule

/-- The number of fingers. -/
def size (s : Goby) : Nat := s.rules.length

/-- The frames of the fingers that a response fits. -/
def matchWeb (s : Goby) (c : Content) : Frames :=
  .ofList ((s.rules.filter fun r => r.fits c.lower).map fun r => Frame.new r.finger.name .goby)

end Goby

end Fingerprinting
