/-
# The command line

What the program can be asked to do.  An `Invocation` is one command with the options that all
commands share; the other modules of this folder read one from arguments and carry it out.
-/
import Fingerprinting.Report
import Fingerprinting.Sender.Options

namespace Fingerprinting.CommandLine

/-! ## Commands -/

/-- The names of the commands. -/
inductive CommandName where
  | web
  | favicon
  | service
  | batch
  | engines
deriving DecidableEq, Repr, Inhabited

namespace CommandName

/-- All commands. -/
def all : List CommandName := [.web, .favicon, .service, .batch, .engines]

/-- The word for a command. -/
def word : CommandName → String
  | .web => "web"
  | .favicon => "favicon"
  | .service => "service"
  | .batch => "batch"
  | .engines => "engines"

/-- The command for a word. -/
def ofWord? (s : String) : Option CommandName := all.find? fun c => c.word == s

end CommandName

/-- A command and what it is about. -/
inductive Command where
  /-- Match a captured response, after parsing it if so desired. -/
  | web (input : String) (parse : Bool)
  /-- Look an icon up. -/
  | favicon (input : String)
  /-- Probe a port of a host. -/
  | service (host port : String) (level : Int) (sender : SenderOptions)
  /-- Probe the targets of a list. -/
  | batch (targets : String) (concurrency : Nat) (level : Int) (sender : SenderOptions)
  /-- List the engines. -/
  | engines
deriving Repr, Inhabited

/-- A command with the options that all commands share. -/
structure Invocation where
  command : Command
  /-- The folder of corpora. -/
  resources : Option String := none
  engines : List String := []
  format : ReportFormat := .text
  opsec : Bool := false
  noGuess : Bool := false
deriving Repr, Inhabited

/-- Why nothing is carried out. -/
inductive Declined where
  /-- The arguments make no command. -/
  | malformed
  /-- The program is asked how to use it, or a command of it. -/
  | help (command : Option CommandName)
  /-- The program is asked for its version. -/
  | version
deriving DecidableEq, Repr

end Fingerprinting.CommandLine
