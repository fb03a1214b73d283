/-
# Help

How the program is used, as it tells those who ask.
-/
import Fingerprinting.CommandLine.Basic

namespace Fingerprinting.CommandLine

/-- The name of the program. -/
def programName : String := "sigil"

/-- The program and its version. -/
def versionLine : String := programName ++ " 0.1.0"

/-- What a command is for. -/
def CommandName.about : CommandName → String
  | .web => "Match a captured HTTP response (file or - for stdin)"
  | .favicon => "Look up a favicon file by hash"
  | .service => "Actively identify one service"
  | .batch => "Identify every `host port` line of a file"
  | .engines => "List loaded engines and rule counts"

/-- The operands of a command, each with what it is. -/
def CommandName.operandHelp : CommandName → List (String × String)
  | .web => [("<INPUT>", "")]
  | .favicon => [("<INPUT>", "")]
  | .service => [("<HOST>", ""), ("<PORT>", "Port, U:<port> for UDP")]
  | .batch => [("<TARGETS>", "")]
  | .engines => []

/-- A row about an option: a word that tells its place among others, its form, and what it does. -/
structure OptionHelp where
  key : String
  form : String
  about : String

/-- The options of every command. -/
def sharedHelp : List OptionHelp := [
  ⟨"v", "-v, --verbose...", "Increase verbosity (-v, -vv, -vvv)"⟩,
  ⟨"json-logs", "    --json-logs", "Emit logs as JSON lines"⟩,
  ⟨"r", "-r, --resources <RESOURCES>", "Directory holding corpus files (plain or .gz)"⟩,
  ⟨"e", "-e, --engines <ENGINES>", "Engines to load, comma separated. Default: all"⟩,
  ⟨"o", "-o, --format <FORMAT>", "Output format [default: text] [possible values: text, json]"⟩,
  ⟨"opsec", "    --opsec", "Skip active fingers flagged opsec"⟩,
  ⟨"no-guess", "    --no-guess", "Do not report port-table guesses"⟩]

/-- The options for sending, after what is said about each before its default and its values. -/
def senderHelp (level timeout preset : String) : List OptionHelp := [
  ⟨"l", "-l, --level <LEVEL>", level ++ "[default: 1]"⟩,
  ⟨"timeout-ms", "    --timeout-ms <TIMEOUT_MS>", timeout⟩,
  ⟨"preset", "    --preset <PRESET>",
    preset ++ "[default: balanced] [possible values: fast, balanced, accurate]"⟩]

/-- The options of a command only. -/
def CommandName.optionHelp : CommandName → List OptionHelp
  | .web => [⟨"parse", "    --parse", "Parse and normalise the response (chunked bodies) first"⟩]
  | .service =>
      senderHelp "Probe rarity ceiling, 1-9 "
        "Per-probe timeout in milliseconds, overrides the preset"
        "Sender preset: fast, balanced, accurate "
  | .batch =>
      ⟨"c", "-c, --concurrency <CONCURRENCY>", "Max concurrent workers [default: 50]"⟩ ::
        senderHelp "" "" ""
  | _ => []

/-- Two lists of options in turns; of the two whose turn it is, the one with the smaller key is
first. -/
def takeTurns : List OptionHelp → List OptionHelp → List OptionHelp
  | [], others => others
  | own, [] => own
  | a :: own, b :: others =>
      if a.key < b.key then a :: b :: takeTurns own others else b :: a :: takeTurns own others

/-- The rows about options. -/
def optionRows (options : List OptionHelp) : List (String × String) :=
  (options.map fun o => (o.form, o.about)) ++ [("-h, --help", "Print help")]

/-- A table of two columns under a heading; an empty table has no heading. -/
def helpTable (heading : String) (rows : List (String × String)) : List String :=
  if rows.isEmpty then []
  else
    let width := rows.foldl (fun n r => max n r.1.length) 0
    ["", heading] ++ rows.map fun (a, b) => "  " ++ Report.padRight width a ++ "  " ++ b

/-- The help for the program, or for a command. -/
def helpLines : Option CommandName → List String
  | none =>
      ["Multi-engine service and web fingerprinting", "",
        "Usage: " ++ programName ++ " [OPTIONS] <COMMAND>"] ++
        helpTable "Commands:" ((CommandName.all.map fun c => (c.word, c.about)) ++
          [("help", "Print this message or the help of the given subcommand(s)")]) ++
        helpTable "Options:" (optionRows sharedHelp ++ [("-V, --version", "Print version")])
  | some c =>
      let operands := c.operandHelp.map fun o => " " ++ o.1
      [c.about, "", "Usage: " ++ programName ++ " " ++ c.word ++ " [OPTIONS]" ++
        Text.join "" operands] ++
        helpTable "Arguments:" c.operandHelp ++
        helpTable "Options:" (optionRows (takeTurns c.optionHelp sharedHelp))

end Fingerprinting.CommandLine
