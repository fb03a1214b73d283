/-
# Reports

What was found, as lines of text or of JSON.  In text, columns have fixed widths counted in
characters, and a value that is too wide for its column is cut.  In JSON, the fields of every object
are in the order of their names.
-/
import Fingerprinting.Detector

namespace Fingerprinting

/-- The forms of a report. -/
inductive ReportFormat where
  | text
  | json
deriving DecidableEq, Repr, Inhabited

namespace Report

/-! ## Columns -/

/-- A text with blanks after it up to a width. -/
def padRight (width : Nat) (s : String) : String :=
  s ++ String.ofList (List.replicate (width - s.length) ' ')

/-- A text with blanks before it up to a width. -/
def padLeft (width : Nat) (s : String) : String :=
  String.ofList (List.replicate (width - s.length) ' ') ++ s

/-- A text of at most some width; dots stand for what has been cut. -/
def truncate (width : Nat) (s : String) : String :=
  if width < s.length then String.ofList (s.toList.take (width - 3)) ++ "..." else s

/-- A line of three columns. -/
def row (name version froms : String) : String :=
  padRight 28 name ++ " " ++ padRight 14 version ++ " " ++ padRight 36 froms

/-- The line between the parts of a table. -/
def rule : String := String.ofList (List.replicate 80 '-')

/-! ## Durations -/

/-- A number with leading zeros up to three digits. -/
def threeDigits (n : Nat) : String :=
  String.ofList (List.replicate (3 - (Text.decimal n).length) '0') ++ Text.decimal n

/-- A duration in milliseconds for people: the two largest units that it has. -/
def durationLine (ms : Nat) : String :=
  let seconds := ms / 1000
  let rest := ms % 1000
  if seconds = 0 then Text.decimal rest ++ "ms"
  else if seconds < 60 then
    if rest = 0 then Text.decimal seconds ++ "s"
    else Text.decimal seconds ++ "." ++ threeDigits rest ++ "s"
  else if seconds % 60 = 0 then Text.decimal (seconds / 60) ++ "m"
  else Text.decimal (seconds / 60) ++ "m " ++ Text.decimal (seconds % 60) ++ "s"

/-- A duration in nanoseconds as seconds. -/
def seconds (ns : Nat) : Float :=
  Float.ofNat (ns / 1000000000) + Float.ofNat (ns % 1000000000) / 1000000000

/-! ## JSON -/

mutual

/-- A value with the fields of every object in the order of their names. -/
def ordered : Json → Json
  | .array items => .array (orderedItems items)
  | .object fields => .sorted (orderedFields fields)
  | j => j

/-- Some values, each in order. -/
def orderedItems : List Json → List Json
  | [] => []
  | j :: rest => ordered j :: orderedItems rest

/-- Some fields, each value in order. -/
def orderedFields : List (String × Json) → List (String × Json)
  | [] => []
  | (name, j) :: rest => (name, ordered j) :: orderedFields rest

end

/-- The lines of a JSON value. -/
def jsonLines (j : Json) : List String := Text.splitOn '\n' (ordered j).pretty

/-- A frame with its name as a formatted string. -/
def frameJson (f : Frame) : Json :=
  match f.json with
  | .object fields => .object (fields ++ [("cpe", .string f.cpe.formatted)])
  | j => j

/-- The result for a service. -/
def serviceJson (r : ServiceResult) : Json :=
  .object [("host", .string r.host), ("port", .string r.port),
    ("framework", .orNull frameJson r.frame), ("vuln", .orNull Vuln.json r.vuln)]

/-! ## Reports -/

/-- The lines about frames. -/
def framesLines (format : ReportFormat) (s : Frames) : List String :=
  match format with
  | .json => jsonLines (.array (s.toList.map frameJson))
  | .text =>
      if s.isEmpty then ["No frameworks identified."]
      else
        [rule, row "NAME" "VERSION" "FROM", rule] ++
          (s.toList.map fun f =>
            row (truncate 28 f.name) (truncate 14 f.version) (Text.join "," f.froms.names)) ++
          [rule]

/-- The line about a service. -/
def serviceLine (r : ServiceResult) : String :=
  padRight 28 (r.host ++ ":" ++ r.port) ++ " " ++ r.frame.elim "unknown" Frame.line

/-- The lines that sum a run of some nanoseconds up. -/
def summaryLines (identified ns : Nat) : List String :=
  ["", "Summary:", "  Identified: " ++ Text.decimal identified,
    "  Duration: " ++ durationLine (ns / 1000000)]

/-- The lines about services after a run of some nanoseconds. -/
def servicesLines (format : ReportFormat) (results : List ServiceResult) (ns : Nat) : List String :=
  match format with
  | .json =>
      jsonLines (.object [
        ("info", .object [
          ("duration_seconds", .number (.double (seconds ns))),
          ("duration_formatted", .string (durationLine (ns / 1000000))),
          ("identified", .nat results.length)]),
        ("results", .array (results.map serviceJson))])
  | .text =>
      (if results.isEmpty then ["No service identified."] else results.map serviceLine) ++
        summaryLines results.length ns

/-- The lines about a batch after a run of some nanoseconds. -/
def batchLines (format : ReportFormat) (results : List ServiceResult) (ns : Nat) : List String :=
  match format with
  | .json => servicesLines .json results ns
  | .text => results.map serviceLine ++ summaryLines results.length ns

/-- The lines about the engines of a detector. -/
def enginesLines (format : ReportFormat) (d : Detector) : List String :=
  match format with
  | .json =>
      jsonLines (.object [
        ("engines", .array (d.engines.map fun e =>
          .object [("name", .string e.name.name), ("rules", .nat e.size),
            ("enabled", .bool (d.isEnabled e.name))])),
        ("aliases", .nat d.aliases.size)])
  | .text =>
      [padRight 16 "ENGINE" ++ " " ++ padLeft 8 "RULES" ++ "  ENABLED"] ++
        (d.engines.map fun e =>
          padRight 16 e.name.name ++ " " ++ padLeft 8 (Text.decimal e.size) ++ "  " ++
            (if d.isEnabled e.name then "yes" else "no")) ++
        ["aliases: " ++ Text.decimal d.aliases.size]

end Report

end Fingerprinting
