/-
# Carrying out

What an invocation does, given what it finds in its surroundings: the folder of corpora and the file
that it is about.  Both are known from the invocation, so they are fetched beforehand, and all that
is left to do is a dialog with services.
-/
import Fingerprinting.Batch
import Fingerprinting.CommandLine.Arguments
import Fingerprinting.CommandLine.Help

namespace Fingerprinting.CommandLine

/-! ## Surroundings -/

/-- Where a command takes its input from. -/
inductive Source where
  | standardInput
  | file (path : String)
deriving DecidableEq, Repr

/-- The input of a command. -/
def Command.source? : Command → Option Source
  | .web input _ => some (if input = "-" then .standardInput else .file input)
  | .favicon input => some (.file input)
  | .batch targets _ _ _ => some (.file targets)
  | _ => none

/-- What an invocation finds: the folder of corpora, and the bytes of its input if they can be read.
-/
structure Surroundings where
  folder : Except Error Corpora.Folder := .ok .empty
  input : Option Bytes := none

/-! ## Failures -/

/-- Why an invocation fails. -/
inductive RunError where
  | corpora (folder : String)
  | engines
  | standardInput
  | file (path : String)
  | notHttp (input : String)
  | targets
deriving DecidableEq, Repr

/-- The failure in words. -/
def RunError.message : RunError → String
  | .corpora folder => "Failed to load corpora from " ++ folder
  | .engines => "Failed to initialise engines"
  | .standardInput => "Failed to read stdin"
  | .file path => "Failed to read " ++ path
  | .notHttp input => input ++ " is not an HTTP response"
  | .targets => "Invalid target list"

/-- The failure to read an input. -/
def Source.failure : Source → RunError
  | .standardInput => .standardInput
  | .file path => .file path

/-! ## Findings -/

/-- What an invocation reports. -/
inductive Findings where
  | frames (s : Frames)
  | services (results : List ServiceResult)
  | batch (results : List ServiceResult)
  | engines (d : Detector)

/-- The lines of a report after a run of some nanoseconds. -/
def Findings.lines (format : ReportFormat) (ns : Nat) : Findings → List String
  | .frames s => Report.framesLines format s
  | .services results => Report.servicesLines format results ns
  | .batch results => Report.batchLines format results ns
  | .engines d => Report.enginesLines format d

/-! ## Running -/

/-- Give a failure its place among those of an invocation. -/
def orFail {α : Type} (failure : RunError) : Except Error α → Except RunError α
  | .ok a => .ok a
  | .error _ => .error failure

/-- The corpora of an invocation. -/
def Invocation.corpora (i : Invocation) (s : Surroundings) : Except RunError Corpora :=
  match i.resources with
  | none => .ok {}
  | some path => orFail (.corpora path) (s.folder.bind Corpora.ofFolder)

/-- The detector of an invocation. -/
def Invocation.detector (i : Invocation) (s : Surroundings) : Except RunError Detector := do
  let corpora ← i.corpora s
  orFail .engines (Detector.new
    { engines := i.engines, corpora, opsec := i.opsec, noGuess := i.noGuess })

/-- The input of a command. -/
def Command.input (c : Command) (s : Surroundings) : Except RunError Bytes :=
  match s.input with
  | some b => .ok b
  | none => .error (c.source?.elim .standardInput Source.failure)

/-- The targets of a list. -/
def targetsOf (path : String) (b : Bytes) : Except RunError (List Target) :=
  match Utf8.decode? b with
  | some text => orFail .targets (Target.parseList text)
  | none => .error (.file path)

/-- A dialog that is over. -/
def settled (r : Except RunError Findings) : ServiceDialog (Except RunError Findings) := .done r

/-- Carry out a command. -/
def Command.run (d : Detector) (s : Surroundings) (c : Command) :
    ServiceDialog (Except RunError Findings) :=
  match c with
  | .web input parse =>
      settled do
        let raw ← c.input s
        if parse then .ok (.frames (← orFail (.notHttp input) (d.detect raw)))
        else .ok (.frames (d.matchWeb (.ofHttp raw)))
  | .favicon _ =>
      settled do .ok (.frames (.ofList (d.favicons.ofIcon? (← c.input s)).toList))
  | .service host port level _ => do
      let results ← d.matchService host port level
      pure (.ok (.services results))
  | .batch path _ level _ =>
      match (c.input s).bind (targetsOf path) with
      | .error e => .done (.error e)
      | .ok targets => do
          let state ← d.matchAll level {} targets
          pure (.ok (.batch state.results))
  | .engines => settled (.ok (.engines d))

/-- Carry out an invocation. -/
def Invocation.run (i : Invocation) (s : Surroundings) :
    ServiceDialog (Except RunError Findings) :=
  match i.detector s with
  | .error e => .done (.error e)
  | .ok d => i.command.run d s

/-! ## Outcomes -/

/-- What the program leaves: an exit code, lines on standard output, and a failure in words. -/
structure Outcome where
  code : Nat
  lines : List String := []
  failure : Option String := none

/-- The outcome when nothing is carried out. -/
def Declined.outcome : Declined → Outcome
  | .malformed => { code := 2 }
  | .help command => { code := 0, lines := helpLines command }
  | .version => { code := 0, lines := [versionLine] }

/-- The outcome of an invocation after a run of some nanoseconds. -/
def Invocation.outcome (i : Invocation) (ns : Nat) : Except RunError Findings → Outcome
  | .ok found => { code := 0, lines := found.lines i.format ns }
  | .error e => { code := 1, failure := some e.message }

end Fingerprinting.CommandLine
