/-
# Corpora

A corpus is a file of rules.  It may be packed with gzip, and holds JSON or YAML.  `Corpus.ofJson`
and `Corpus.ofYaml` read one with the reader of its records.
-/
import Fingerprinting.Error
import Fingerprinting.Gzip.Basic
import Fingerprinting.Json.Basic
import Fingerprinting.Yaml.Document

namespace Fingerprinting.Corpus

/-- The bytes of a corpus, unpacked if they are packed. -/
def unpack (data : Bytes) : Except Error Bytes :=
  if Gzip.isGzip data then
    match Gzip.decompress? data with
    | some b => .ok b
    | none => .error (.corpus .gzip)
  else .ok data

/-- Read a corpus in JSON. -/
def ofJson {α : Type} (read : Document → Option α) (data : Bytes) : Except Error α := do
  match (Document.ofJson? (← unpack data)).bind read with
  | some a => .ok a
  | none => .error (.corpus .json)

/-- Read a corpus in YAML. -/
def ofYaml {α : Type} (read : Document → Option α) (data : Bytes) : Except Error α := do
  match (Document.ofYaml? (← unpack data)).bind read with
  | some a => .ok a
  | none => .error (.corpus .yaml)

/-- Blank bytes. -/
def isBlankByte (b : UInt8) : Bool :=
  b == 0x20 || b == 0x09 || b == 0x0A || b == 0x0C || b == 0x0D

/-- The first byte that is not blank. -/
def firstByte? (data : Bytes) : Option UInt8 := data.find? fun b => !isBlankByte b

/-- The form in which names are compared: in lower case, without hyphens, underscores and spaces. -/
def normalName (s : String) : String :=
  String.ofList ((Text.lower s).toList.filter fun c => !(c == '-' || c == '_' || c == ' '))

end Fingerprinting.Corpus
