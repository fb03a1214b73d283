/-
# Vulnerabilities

A vulnerability that a rule reveals, with the payload that showed it and details of the product.
`Vulns` keeps one for each name, in the order of the names.

* `Vulns.enter` adds one under its own name and answers whether the name is new, `Vulns.add` only
  adds;
* `Vulns.absorbAll` folds all of another set in under their names in lower case and counts the new
  names, `Vulns.merge` only folds.
-/
import Fingerprinting.Frame.Basic
import Fingerprinting.Text.Escape

namespace Fingerprinting

/-! ## Severity -/

/-- How bad a vulnerability is. -/
inductive Severity where
  | info
  | medium
  | high
  | critical
  | unknown
deriving DecidableEq, Repr, Inhabited

namespace Severity

/-- The name of a severity. -/
def name : Severity → String
  | .info => "info"
  | .medium => "medium"
  | .high => "high"
  | .critical => "critical"
  | .unknown => "unknown"

/-- The severity with some name; other names are unknown. -/
def ofName : String → Severity
  | "info" => .info
  | "medium" => .medium
  | "high" => .high
  | "critical" => .critical
  | _ => .unknown

/-- Severities are numbered from one. -/
def rank : Severity → Nat
  | .info => 1
  | .medium => 2
  | .high => 3
  | .critical => 4
  | .unknown => 5

end Severity

/-! ## Vulnerabilities -/

/-- A vulnerability; payload and details are sorted by key. -/
structure Vuln where
  name : String
  severity : Severity
  tags : List String := []
  payload : List (String × Json) := []
  detail : List (String × List String) := []
  frame : Option Frame := none
deriving Inhabited

namespace Vuln

/-- Whether the vulnerability has a tag. -/
def hasTag (v : Vuln) (tag : String) : Bool := v.tags.contains tag

/-- The payload on one line. -/
def payloadLine (v : Vuln) : String :=
  Text.join "," (v.payload.map fun (k, j) =>
    match j with
    | .string s => k ++ "=" ++ s
    | j => k ++ "=" ++ j.compact)

/-- The details on one line. -/
def detailLine (v : Vuln) : String :=
  Text.join " " (v.detail.map fun (k, values) => k ++ ":" ++ Text.join "," values)

/-- A vulnerability on one line. -/
def line (v : Vuln) : String :=
  let payload := v.payloadLine
  let detail := v.detailLine
  v.name ++ (if payload = "" then "" else " payloads:" ++ Text.escape payload) ++
    (if detail = "" then "" else " detail:" ++ Text.escape detail)

/-- A vulnerability as a JSON object. -/
def json (v : Vuln) : Json :=
  .object ([("name", Json.string v.name), ("severity", .string v.severity.name)] ++
    (if v.tags.isEmpty then [] else [("tags", .strings v.tags)]) ++
    (if v.payload.isEmpty then [] else [("payload", .object v.payload)]) ++
    (if v.detail.isEmpty then []
      else [("detail", .object (v.detail.map fun (k, values) => (k, .strings values)))]))

/-- A vulnerability with name and tags in lower case. -/
def filed (v : Vuln) : Vuln :=
  { v with name := Text.lower v.name, tags := v.tags.map Text.lower }

/-- The vulnerability with the tags of another that it lacks. -/
def addTags (v : Vuln) (tags : List String) : Vuln :=
  { v with
    tags := tags.foldl (fun ts tag => if ts.contains tag then ts else ts ++ [tag]) v.tags }

end Vuln

/-! ## Sets -/

/-- Vulnerabilities in the order of their names, which are distinct. -/
structure Vulns where
  toList : List Vuln
deriving Inhabited

namespace Vulns

/-- No vulnerabilities. -/
def empty : Vulns := ⟨[]⟩

/-- The number of vulnerabilities. -/
def size (s : Vulns) : Nat := s.toList.length

/-- Whether there are none. -/
def isEmpty (s : Vulns) : Bool := s.toList.isEmpty

/-- The vulnerability with a name. -/
def get? (s : Vulns) (name : String) : Option Vuln := s.toList.find? fun v => v.name == name

/-- Whether there is one with a name. -/
def contains (s : Vulns) (name : String) : Bool := (s.get? name).isSome

/-- The one whose name comes first. -/
def first? (s : Vulns) : Option Vuln := s.toList.head?

/-- Put a vulnerability in its place, in the place of one of the same name if there is one. -/
def put (v : Vuln) : List Vuln → List Vuln
  | [] => [v]
  | w :: rest =>
      if v.name < w.name then v :: w :: rest
      else if v.name = w.name then v :: rest
      else w :: put v rest

/-- Add a vulnerability, unless there is one of its name.  Answers whether the name is new. -/
def enter (s : Vulns) (v : Vuln) : Vulns × Bool :=
  if s.contains v.name then (s, false) else (⟨put v s.toList⟩, true)

/-- Add a vulnerability, unless there is one of its name. -/
def add (s : Vulns) (v : Vuln) : Vulns := (s.enter v).1

/-- Fold a filed vulnerability in: one of a known name only brings its tags.  Answers whether the
name is new. -/
def absorb (s : Vulns) (v : Vuln) : Vulns × Bool :=
  match s.get? v.name with
  | some w => (⟨put (w.addTags v.tags) s.toList⟩, false)
  | none => (⟨put v s.toList⟩, true)

/-- File a vulnerability and fold it into a set, and count it when its name is new. -/
def tally (r : Vulns × Nat) (v : Vuln) : Vulns × Nat :=
  let (s, new) := r.1.absorb v.filed
  (s, if new then r.2 + 1 else r.2)

/-- Fold another set in, with names and tags in lower case.  Answers how many names are new. -/
def absorbAll (s t : Vulns) : Vulns × Nat := t.toList.foldl tally (s, 0)

/-- Fold another set in, with names and tags in lower case. -/
def merge (s t : Vulns) : Vulns := (s.absorbAll t).1

/-- Whether some vulnerability has a tag. -/
def hasTag (s : Vulns) (tag : String) : Bool := s.toList.any fun v => v.hasTag tag

/-- The vulnerabilities on one line. -/
def line (s : Vulns) : String :=
  Text.join "" (s.toList.map fun v => "[ " ++ v.severity.name ++ ": " ++ v.line ++ " ] ")

/-- The vulnerabilities as a JSON object. -/
def json (s : Vulns) : Json := .object (s.toList.map fun v => (v.name, v.json))

end Vulns

end Fingerprinting
