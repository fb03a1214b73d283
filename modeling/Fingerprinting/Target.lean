/-
# Targets

A target is a port of a host.  It is written as `host port` or `host:port`, where the port may have
the mark of a UDP port, and a host in brackets may contain colons.  A list of targets has one a
line; lines that begin with `#` are comments.
-/
import Fingerprinting.Error
import Fingerprinting.Text.Blank

namespace Fingerprinting

/-- A port of a host. -/
structure Target where
  host : String
  port : String
deriving DecidableEq, Repr, Inhabited

namespace Target

/-- The parts of a text before the first occurrence of `mark`, and after the first character of it.
-/
def cutAt (mark : List Char) : List Char → Option (List Char × List Char)
  | [] => none
  | c :: rest =>
      if mark.isPrefixOf (c :: rest) then some ([], rest)
      else (cutAt mark rest).map fun (before, after) => (c :: before, after)

/-- The host and the port of a pair: what stands before the mark of a UDP port, or else before the
last colon. -/
def splitPair (pair : String) : Option (String × String) :=
  let marked := (cutAt ":U:".toList pair.toList).or (cutAt ":u:".toList pair.toList)
  match marked with
  | some (host, port) => some (String.ofList host, String.ofList port)
  | none => Text.cutLast ':' pair

/-- A host without the brackets around it. -/
def bareHost (host : String) : String :=
  String.ofList (Text.trimEndChars (· == ']') (Text.trimStartChars (· == '[') host.toList))

/-- The number of a port, without the mark of a UDP port. -/
def number? (port : String) : Option Nat :=
  let digits := ((Text.after "U:" port).or (Text.after "u:" port)).getD port
  Text.decimal? Text.max16 digits

/-- A target of a host and a port that has a number. -/
def check (line host port : String) : Except Error Target :=
  let host := bareHost host
  if host = "" ∨ (number? port).isNone then .error (.parse (.invalidTarget line))
  else .ok ⟨host, port⟩

/-- Read a target. -/
def parse (s : String) : Except Error Target :=
  let line := Text.trim s
  match Text.words line with
  | [] => .error (.parse .emptyTarget)
  | [pair] =>
      match splitPair pair with
      | some (host, port) => check line host port
      | none => .error (.parse (.missingPort line))
  | host :: port :: _ => check line host port

/-- Read a list of targets. -/
def parseList (s : String) : Except Error (List Target) :=
  (((Text.lines s).map Text.trim).filter fun l => l != "" && l.toList.head? != some '#').mapM parse

/-- A target on one line. -/
def line (t : Target) : String :=
  if t.host.toList.contains ':' then "[" ++ t.host ++ "]:" ++ t.port else t.host ++ ":" ++ t.port

end Target

end Fingerprinting
