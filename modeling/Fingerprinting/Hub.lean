/-
# Hub records

A record of the hub tells by a status, by headers and by keywords that a response belongs to a
product; all of them must fit.  Records may also list digests of icons, which are matched elsewhere.
-/
import Fingerprinting.Corpus
import Fingerprinting.Favicon

namespace Fingerprinting

/-! ## Records -/

/-- A record as it is written. -/
structure HubRecord where
  name : String := ""
  path : String := ""
  method : String := ""
  status : Nat := 0
  headers : Dictionary String := .empty
  keywords : List String := []
  icons : List String := []
deriving DecidableEq, Repr, Inhabited

/-- Read a record. -/
def HubRecord.ofDocument? (d : Document) : Option HubRecord := do
  match ← d.slots? [["name"], ["path"], ["method", "request_method"], ["status_code"], ["headers"],
      ["keyword"], ["favicon_hash"]] with
  | [name, path, method, status, headers, keywords, icons] =>
      some
        { name := ← Document.text? name
          path := ← Document.text? path
          method := ← Document.text? method
          status := ← Document.count? Text.max16 status
          headers :=
            .ofList (← Document.orElse? [] (Document.mapOf? Document.string?) headers)
          keywords := ← Document.strings? keywords
          icons := ← Document.strings? icons }
  | _ => none

/-! ## Rules -/

/-- A record with what to look for in lower case. -/
structure HubRule where
  record : HubRecord
  headers : List (String × String) := []
  keywords : List Bytes := []
deriving Inhabited

namespace HubRecord

/-- The record before it is known what to look for. -/
def bare (r : HubRecord) : HubRule := { record := r }

/-- The rule of a record. -/
def compile (r : HubRecord) : HubRule where
  record := r
  headers := r.headers.entries.map fun (k, v) => (Text.lower k, Text.lower v)
  keywords := r.keywords.map fun k => Utf8.encode (Text.lower k)

end HubRecord

namespace HubRule

/-- Whether the value of a header is as expected; a star expects any value that is not empty. -/
def expects (expected value : String) : Bool :=
  if expected = "*" then value != "" else Text.mentions expected (Text.lower value)

/-- Whether a response has every header. -/
def fitsHeaders (r : HubRule) (c : Content) : Bool :=
  r.headers.all fun (name, expected) => (c.headerValues name).any (expects expected)

/-- Whether a response has every keyword. -/
def fitsBody (r : HubRule) (c : Content) : Bool :=
  r.keywords.all fun k => Bytes.contains k c.bodyOrRawLower

/-- Whether a response fits a record.  A record without headers and keywords fits none. -/
def fits (r : HubRule) (c : Content) : Bool :=
  (r.record.status == 0 || c.status == some r.record.status) &&
    (!r.headers.isEmpty || !r.keywords.isEmpty) && r.fitsHeaders c && r.fitsBody c

end HubRule

/-! ## Collections -/

/-- The records of a corpus. -/
structure Hub where
  rules : List HubRule
  favicons : Favicons
deriving Inhabited

namespace Hub

/-- Compile records and file their icons. -/
def ofRecords (records : List HubRecord) : Hub where
  rules := records.map HubRecord.compile
  favicons :=
    records.foldl (fun s r => r.icons.foldl (fun s hash => s.insertMd5 hash r.name) s) .empty

/-- Read a corpus, in JSON when it begins with a bracket and else in YAML. -/
def load (data : Bytes) : Except Error Hub := do
  let data ← Corpus.unpack data
  let read := Document.listOf? HubRecord.ofDocument?
  let isJson := (Corpus.firstByte? data).any fun b => b == 0x5B || b == 0x7B
  let records ← if isJson then Corpus.ofJson read data else Corpus.ofYaml read data
  .ok (ofRecords records)

/-- The number of records. -/
def size (s : Hub) : Nat := s.rules.length

/-- The frames of the records that a response fits. -/
def matchWeb (s : Hub) (c : Content) : Frames :=
  .ofList ((s.rules.filter fun r => r.fits c).map fun r =>
    (Frame.new r.record.name .finger).addTag Provenance.fingerprintHub.name)

end Hub

end Fingerprinting
