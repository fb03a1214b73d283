/-
# Templates

A template is a text in which `$1` or `$P(1)` stands for what a group of a match took.  Other dollar
signs stand for themselves, and a rendered template has no line breaks.
-/
import Fingerprinting.Regex.Basic
import Fingerprinting.Text.Numeral

namespace Fingerprinting.Nmap

/-- A part of a template. -/
inductive TemplateToken where
  | literal (s : String)
  | group (index : Nat)
deriving DecidableEq, Repr, Inhabited

/-- A text with references to groups. -/
abbrev Template := List TemplateToken

namespace Template

/-- Put the open literal, kept in reverse, before some parts. -/
def close (literal : List Char) (more : List TemplateToken) : List TemplateToken :=
  if literal.isEmpty then more else .literal (String.ofList literal.reverse) :: more

/-- The group that the characters after a dollar sign refer to, and how many they are. -/
def reference? : List Char → Option (Nat × Nat)
  | 'P' :: '(' :: d :: ')' :: _ => (Text.digitValue? d).map fun n => (n, 4)
  | d :: _ => (Text.digitValue? d).map fun n => (n, 1)
  | [] => none

/-- Read the rest of a template; `literal` is the open literal in reverse, and `skip` characters
belong to the last reference. -/
def parseFrom (literal : List Char) : Nat → List Char → Template
  | _, [] => close literal []
  | skip + 1, _ :: rest => parseFrom literal skip rest
  | 0, c :: rest =>
      match if c = '$' then reference? rest else none with
      | some (n, length) => close literal (.group n :: parseFrom [] length rest)
      | none => parseFrom (c :: literal) 0 rest

/-- Read a template. -/
def parse (s : String) : Template := parseFrom [] 0 s.toList

/-- Whether a character breaks a line. -/
def isLineBreak (c : Char) : Bool := c == '\n' || c == '\r'

/-- The text of a part, given the texts of groups. -/
def tokenText (group : Nat → String) : TemplateToken → String
  | .literal s => s
  | .group n => group n

/-- The text of a template, given the texts of groups. -/
def render (t : Template) (group : Nat → String) : String :=
  String.ofList ((t.flatMap fun p => (tokenText group p).toList).filter fun c => !isLineBreak c)

end Template

end Fingerprinting.Nmap
