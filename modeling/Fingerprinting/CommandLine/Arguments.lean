/-
# Arguments

Reading an invocation from arguments.  Options come before or after the command, in long form as
`--level 2` or `--level=2`, or in short form as `-l 2`, `-l2` or `-l=2`; short flags may share a
hyphen.  What follows `--` is no option.  An option that is given both before and after the command
counts as it is given after.

* `Level.read` reads the options and operands of one level: of the program, or of a command;
* `Invocation.ofArguments` puts both levels together.
-/
import Fingerprinting.CommandLine.Basic

namespace Fingerprinting.CommandLine

/-! ## Options -/

/-- The options. -/
inductive Key where
  | verbose
  | jsonLogs
  | resources
  | engines
  | format
  | opsec
  | noGuess
  | parse
  | level
  | timeout
  | preset
  | concurrency
  | help
  | version
deriving DecidableEq, Repr, Inhabited

namespace Key

/-- The long form. -/
def long : Key → String
  | .verbose => "verbose"
  | .jsonLogs => "json-logs"
  | .resources => "resources"
  | .engines => "engines"
  | .format => "format"
  | .opsec => "opsec"
  | .noGuess => "no-guess"
  | .parse => "parse"
  | .level => "level"
  | .timeout => "timeout-ms"
  | .preset => "preset"
  | .concurrency => "concurrency"
  | .help => "help"
  | .version => "version"

/-- The short form. -/
def short? : Key → Option Char
  | .verbose => some 'v'
  | .resources => some 'r'
  | .engines => some 'e'
  | .format => some 'o'
  | .level => some 'l'
  | .concurrency => some 'c'
  | .help => some 'h'
  | .version => some 'V'
  | _ => none

/-- Whether the option has a value. -/
def takesValue : Key → Bool
  | .resources => true
  | .engines => true
  | .format => true
  | .level => true
  | .timeout => true
  | .preset => true
  | .concurrency => true
  | _ => false

/-- Whether the option may be given several times. -/
def repeats : Key → Bool
  | .verbose => true
  | .engines => true
  | _ => false

/-- The options of every command. -/
def shared : List Key := [.verbose, .jsonLogs, .resources, .engines, .format, .opsec, .noGuess]

end Key

/-- The forms of reports by name. -/
def formats : List (String × ReportFormat) := [("text", .text), ("json", .json)]

/-- The value of a level. -/
def levelOf? (s : String) : Option Int := Text.signed? Text.maxSigned32 s

/-- Whether a text may be the value of an option. -/
def Key.accepts (value : String) : Key → Bool
  | .resources => value != ""
  | .format => (formats.lookup value).isSome
  | .level => (levelOf? value).isSome
  | .timeout => (Text.decimal? Text.max64 value).isSome
  | .concurrency => (Text.decimal? Text.max64 value).isSome
  | .preset => (SenderOptions.presets.lookup value).isSome
  | _ => true

/-! ## Levels -/

/-- What may be given at one level. -/
structure Level where
  keys : List Key
  /-- The number of operands. -/
  operands : Nat
  /-- The command whose level it is; none is the level of the program. -/
  command : Option CommandName
deriving Inhabited

/-- The level of the program. -/
def Level.program : Level := ⟨Key.shared ++ [.help, .version], 0, none⟩

/-- The level of a command. -/
def Level.ofCommand (c : CommandName) : Level :=
  let keys := Key.shared ++ [.help]
  match c with
  | .web => ⟨keys ++ [.parse], 1, some c⟩
  | .favicon => ⟨keys, 1, some c⟩
  | .service => ⟨keys ++ [.level, .timeout, .preset], 2, some c⟩
  | .batch => ⟨keys ++ [.concurrency, .level, .timeout, .preset], 1, some c⟩
  | .engines => ⟨keys, 0, some c⟩

/-- What has been given at one level. -/
structure Given where
  options : List (Key × String) := []
  operands : List String := []
deriving Inhabited

namespace Given

/-- The values of an option, in order. -/
def values (g : Given) (key : Key) : List String :=
  g.options.filterMap fun (k, v) => if k = key then some v else none

/-- Whether an option is given. -/
def has (g : Given) (key : Key) : Bool := g.options.any fun o => o.1 == key

end Given

namespace Level

/-- Note an option.  Being asked for help ends the reading, as does being asked for the version. -/
def note (l : Level) (g : Given) (key : Key) (value : String) : Except Declined Given :=
  if key = .help then .error (.help l.command)
  else if key = .version then .error .version
  else if !key.accepts value || (g.has key && !key.repeats) then .error .malformed
  else .ok { g with options := g.options ++ [(key, value)] }

/-- Note an operand. -/
def operand (l : Level) (g : Given) (value : String) : Except Declined Given :=
  if g.operands.length < l.operands then .ok { g with operands := g.operands ++ [value] }
  else .error .malformed

/-- Whether an argument looks like an option. -/
def isOption (arg : String) : Bool := arg.toList.head? == some '-' && arg != "-"

/-- Read short options that share a hyphen.  The last of them may have its value in the next
argument, and is answered then. -/
def shorts (l : Level) (g : Given) : List Char → Except Declined (Given × Option Key)
  | [] => .ok (g, none)
  | c :: rest =>
      match l.keys.find? fun k => k.short? == some c with
      | none => .error .malformed
      | some key =>
          if !key.takesValue then do l.shorts (← l.note g key "") rest
          else
            match rest with
            | [] => .ok (g, some key)
            | '=' :: value => do .ok (← l.note g key (String.ofList value), none)
            | value => do .ok (← l.note g key (String.ofList value), none)

/-- Read a long option.  It may have its value in the next argument, and is answered then. -/
def longOption (l : Level) (g : Given) (body : String) : Except Declined (Given × Option Key) :=
  let (name, value) :=
    match Text.cut '=' body with
    | some (name, value) => (name, some value)
    | none => (body, none)
  match l.keys.find? fun k => k.long == name with
  | none => .error .malformed
  | some key =>
      match key.takesValue, value with
      | true, some value => do .ok (← l.note g key value, none)
      | true, none => .ok (g, some key)
      | false, none => do .ok (← l.note g key "", none)
      | false, some _ => .error .malformed

/-- Read the options of an argument. -/
def option (l : Level) (g : Given) (arg : String) : Except Declined (Given × Option Key) :=
  match Text.after "--" arg with
  | some body => l.longOption g body
  | none => l.shorts g (arg.toList.drop 1)

/-- What a level leaves: what has been given, and the first command with the arguments after it. -/
abbrev Reading := Given × Option (CommandName × List String)

/-- Read operands only. -/
def readOperands (l : Level) (g : Given) : List String → Except Declined Given
  | [] => .ok g
  | arg :: rest => do l.readOperands (← l.operand g arg) rest

/-- The help that is asked for by the word for it and perhaps the word for a command. -/
def helpOf : List String → Declined
  | [] => .help none
  | [word] =>
      match CommandName.ofWord? word with
      | some c => .help (some c)
      | none => .malformed
  | _ => .malformed

/-- Read a level. -/
def read (l : Level) (g : Given) : List String → Except Declined Reading
  | [] => .ok (g, none)
  | arg :: rest =>
      let command := if l.command.isNone then CommandName.ofWord? arg else none
      match command with
      | some c => .ok (g, some (c, rest))
      | none =>
          if l.command.isNone && arg == "help" then .error (helpOf rest)
          else if arg = "--" then do .ok (← l.readOperands g rest, none)
          else if isOption arg then do
            match ← l.option g arg with
            | (g, none) => l.read g rest
            | (g, some key) =>
                match rest with
                | [] => .error .malformed
                | value :: rest =>
                    if isOption value then .error .malformed
                    else l.read (← l.note g key value) rest
          else do l.read (← l.operand g arg) rest

end Level

/-! ## Invocations -/

namespace Invocation

/-- The values of an option, given at the level of the command or else at that of the program. -/
def valuesOf (outer inner : Given) (key : Key) : List String :=
  if inner.has key then inner.values key else outer.values key

/-- The options for sending. -/
def senderOf (g : Given) : SenderOptions :=
  let timeout := (g.values .timeout).head?.bind (Text.decimal? Text.max64)
  let preset := (g.values .preset).headD "balanced"
  (SenderOptions.ofPreset preset timeout).toOption.getD {}

/-- The command that is given; paths are not empty. -/
def commandOf (c : CommandName) (g : Given) : Except Declined Command :=
  let level := ((g.values .level).head?.bind levelOf?).getD 1
  match c, g.operands with
  | .web, [input] => .ok (.web input (g.has .parse))
  | .favicon, [input] => if input = "" then .error .malformed else .ok (.favicon input)
  | .service, [host, port] => .ok (.service host port level (senderOf g))
  | .batch, [targets] =>
      let concurrency := ((g.values .concurrency).head?.bind (Text.decimal? Text.max64)).getD 50
      if targets = "" then .error .malformed
      else .ok (.batch targets concurrency level (senderOf g))
  | .engines, [] => .ok .engines
  | _, _ => .error .malformed

/-- Read an invocation. -/
def ofArguments (args : List String) : Except Declined Invocation := do
  match ← Level.program.read {} args with
  | (_, none) => .error .malformed
  | (outer, some (c, rest)) =>
      let (inner, _) ← (Level.ofCommand c).read {} rest
      let values := valuesOf outer inner
      .ok
        { command := ← commandOf c inner
          resources := (values .resources).head?
          engines := (values .engines).flatMap (Text.splitOn ',')
          format := ((values .format).head?.bind fun s => formats.lookup s).getD .text
          opsec := outer.has .opsec || inner.has .opsec
          noGuess := outer.has .noGuess || inner.has .noGuess }

end Invocation

end Fingerprinting.CommandLine
