/-
# Loading fingers

A corpus of fingers is a list of them in JSON or YAML.  Its first byte that is not blank tells
which: a bracket or a packed file means JSON, and an empty corpus has no fingers.
-/
import Fingerprinting.Finger.Store

namespace Fingerprinting.Fingers

/-- Read fingers from a list. -/
def ofDocument? : Document → Option (List Finger) := Document.listOf? Finger.ofDocument?

/-- Read the fingers of a corpus. -/
def load (data : Bytes) : Except Error (List Finger) :=
  match Corpus.firstByte? data with
  | none => .ok []
  | some b =>
      if b = 0x5B ∨ b = 0x7B ∨ b = 0x1F then Corpus.ofJson ofDocument? data
      else Corpus.ofYaml ofDocument? data

/-- The collection of a corpus for HTTP and one for services. -/
def ofCorpora (http : Bytes) (socket : Option Bytes) (options : FingerOptions) :
    Except Error Fingers := do
  let http ← load http
  let socket ←
    match socket with
    | some data => load data
    | none => .ok []
  new http socket options

/-- Compile and file the fingers of a corpus in YAML. -/
def appendYaml (s : Fingers) (data : Bytes) : Fingers × Option Error :=
  match Corpus.ofYaml ofDocument? data with
  | .error e => (s, some e)
  | .ok fingers =>
      let (s, e) := s.append fingers
      (s, e.map .rule)

end Fingerprinting.Fingers
