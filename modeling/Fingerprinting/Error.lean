/-
# Errors

Why loading a corpus, compiling a rule, reading a text or talking to a peer fails.  Every cause is a
constructor; `Error.message` is the one place where causes are put into words.

A transport reports failures in its own words.  `Error.reported` keeps them together with the kind
of the failure, and `Error.ofSystem` finds the kind of a failure that the system reports.
-/
import Fingerprinting.Text.Case
import Fingerprinting.Text.Numeral

namespace Fingerprinting

/-! ## Kinds -/

/-- The kinds of errors. -/
inductive ErrorKind where
  | corpus
  | rule
  | network
  | refused
  | unreachable
  | timeout
  | tls
  | io
  | parse
  | config
  | engine
deriving DecidableEq, Repr

/-- How a message of each kind begins. -/
def ErrorKind.lead : ErrorKind → String
  | .corpus => "Corpus load error: "
  | .rule => "Rule compile error: "
  | .network => "Network error: "
  | .refused => "connection refused: "
  | .unreachable => "unreachable: "
  | .timeout => "Timeout error: "
  | .tls => "TLS error: "
  | .io => "I/O error: "
  | .parse => "Parse error: "
  | .config => "Configuration error: "
  | .engine => "engine not found: "

/-! ## Causes -/

/-- What a corpus file was taken for when it could not be read. -/
inductive CorpusFormat where
  | json
  | yaml
  | gzip
  /-- A text file that is not UTF-8, by name. -/
  | textFile (name : String)
  /-- A file that could not be read, by path. -/
  | file (path : String)
deriving DecidableEq, Repr

/-- The format's name. -/
def CorpusFormat.name : CorpusFormat → String
  | .json => "json"
  | .yaml => "yaml"
  | .gzip => "gzip"
  | .textFile name => name
  | .file path => path

/-- Why a text is not what it should be. -/
inductive ParseError where
  | emptyResponse
  | statusLine (line : String)
  | statusCode (line : String)
  | notACpe (text : String)
  | tooManyComponents (text : String)
  | invalidPart (part : String)
  | missingPort (line : String)
  | emptyTarget
  | invalidTarget (line : String)
deriving DecidableEq, Repr

/-- The cause in words. -/
def ParseError.text : ParseError → String
  | .emptyResponse => "empty response"
  | .statusLine line => "malformed status line: " ++ line
  | .statusCode line => "malformed status code: " ++ line
  | .notACpe text => "not a cpe: " ++ text
  | .tooManyComponents text => "too many cpe components: " ++ text
  | .invalidPart part => "invalid cpe part: " ++ part
  | .missingPort line => "missing port: " ++ line
  | .emptyTarget => "empty target"
  | .invalidTarget line => "invalid target: " ++ line

/-- Why a rule cannot be compiled. -/
inductive RuleError where
  /-- A regular expression is malformed; the subject says whose. -/
  | pattern (subject : String)
  /-- A Base64 segment of a payload cannot be decoded. -/
  | base64Segment
  | unterminatedSegment (kind : String)
  | oddHex (text : String)
  | invalidHex (text : String)
  /-- A token of a logic that nothing expects, in backquotes. -/
  | trailingToken (token logic : String)
  /-- Half of an operator of a logic, with its place in bytes. -/
  | halfOperator (op : Char) (place : Nat) (logic : String)
  | unexpectedChar (c : Char) (place : Nat) (logic : String)
  | unbalancedParenthesis
  | noLabel (token : String)
  | unexpectedEnd
  | unknownProtocol (name : String)
  | portItem (item : String)
  | payloadEscape (text : String)
  | noService (source : String)
  | matchDirective (args : String)
  | probeDirective (args : String)
  | numberExpected (args : String)
  | fallbackDirective (args : String)
  | beforeProbe (directive : String)
  /-- A cause inside a part of a rule, for instance a line of a file. -/
  | inside (subject : String) (cause : RuleError)
deriving DecidableEq, Repr

/-- The cause in words. -/
def RuleError.text : RuleError → String
  | .pattern subject => subject
  | .base64Segment => "b64de segment"
  | .unterminatedSegment kind => "unterminated " ++ kind ++ " segment"
  | .oddHex text => "odd hex length: " ++ text
  | .invalidHex text => "invalid hex: " ++ text
  | .trailingToken token logic => "unexpected " ++ token ++ " in logic `" ++ logic ++ "`"
  | .halfOperator op place logic =>
      "single `" ++ op.toString ++ "` at " ++ Text.decimal place ++ " in logic `" ++ logic ++ "`"
  | .unexpectedChar c place logic =>
      "unexpected `" ++ c.toString ++ "` at " ++ Text.decimal place ++ " in logic `" ++ logic ++ "`"
  | .unbalancedParenthesis => "unbalanced `(` in logic"
  | .noLabel token => "expected label, found " ++ token
  | .unexpectedEnd => "unexpected end of logic"
  | .unknownProtocol name => "unknown probe protocol: " ++ name
  | .portItem item => "bad port list item: " ++ item
  | .payloadEscape text => "bad \\x escape in payload: " ++ text
  | .noService source => "match without service: " ++ source
  | .matchDirective args => "malformed match directive: " ++ args
  | .probeDirective args => "malformed Probe: " ++ args
  | .numberExpected args => "expected a number, got `" ++ args ++ "`"
  | .fallbackDirective args => "malformed fallback: " ++ args
  | .beforeProbe directive => "`" ++ directive ++ "` before any Probe"
  | .inside subject cause => subject ++ ": " ++ ErrorKind.rule.lead ++ cause.text

/-! ## Errors -/

/-- An error. -/
inductive Error where
  | corpus (format : CorpusFormat)
  | rule (cause : RuleError)
  | parse (cause : ParseError)
  /-- A directory for corpora that is not there. -/
  | noDirectory (path : String)
  | unknownEngine (name : String)
  /-- A failure that came with words of its own. -/
  | reported (kind : ErrorKind) (text : String)
deriving DecidableEq, Repr

namespace Error

/-- The kind of an error. -/
def kind : Error → ErrorKind
  | .corpus _ => .corpus
  | .rule _ => .rule
  | .parse _ => .parse
  | .noDirectory _ => .config
  | .unknownEngine _ => .engine
  | .reported kind _ => kind

/-- An error without its kind, in words. -/
def text : Error → String
  | .corpus format => format.name
  | .rule cause => cause.text
  | .parse cause => cause.text
  | .noDirectory path => "resource directory " ++ path ++ " not found"
  | .unknownEngine name => name
  | .reported _ text => text

/-- An error in words. -/
def message (e : Error) : String := e.kind.lead ++ e.text

/-- Whether the peer refused or could not be reached. -/
def isClosed (e : Error) : Bool := e.kind == .refused || e.kind == .unreachable

end Error

/-! ## Failures of the system -/

/-- The kinds of failures that the system tells apart. -/
inductive SystemFailure where
  | refused
  | timedOut
  | wouldBlock
  | other
deriving DecidableEq, Repr

/-- Whether `needle` occurs in a text. -/
def Text.mentions (needle text : String) : Bool :=
  occurs needle.toList text.toList
where
  /-- Whether a text occurs in another one. -/
  occurs (needle : List Char) : List Char → Bool
    | [] => needle.isEmpty
    | c :: rest => needle.isPrefixOf (c :: rest) || occurs needle rest

/-- The error for a failure of the system with its words.  A refusal and a timeout are known by
kind; an unreachable network, and refusals of another kind, by the words. -/
def Error.ofSystem (failure : SystemFailure) (words : String) : Error :=
  let low := Text.lower words
  match failure with
  | .refused => .reported .refused words
  | .timedOut => .reported .timeout words
  | .wouldBlock => .reported .timeout words
  | .other =>
      if Text.mentions "no route to host" low || Text.mentions "network is unreachable" low then
        .reported .unreachable words
      else if Text.mentions "refused" low then .reported .refused words
      else .reported .io words

end Fingerprinting
