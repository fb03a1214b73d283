/-
# Patterns with versions

A pattern is a regular expression with options, between separators: `version:` gives a template for
the version, and `confidence:` a number.  A template refers to the groups of a match by `\1`, and
chooses between two texts by `\1?present:absent`.
-/
import Fingerprinting.Error
import Fingerprinting.Regex.Basic
import Fingerprinting.Text.Blank

namespace Fingerprinting.Wappalyzer

/-! ## Templates -/

/-- A part of a template. -/
inductive VersionToken where
  | literal (s : String)
  | group (index : Nat)
  | choice (group : Nat) (present absent : List VersionToken)
deriving Repr, Inhabited

/-- A template for a version. -/
abbrev VersionTemplate := List VersionToken

namespace VersionTemplate

/-- Put the open literal, kept in reverse, before some parts. -/
def close (literal : List Char) (more : List VersionToken) : List VersionToken :=
  if literal.isEmpty then more else .literal (String.ofList literal.reverse) :: more

/-- The two texts of a choice. -/
def branches (cs : List Char) : List Char × List Char :=
  (cs.takeWhile (· != ':'), (cs.dropWhile (· != ':')).drop 1)

/-- The first text of a choice is no longer than the choice. -/
theorem length_present_le (cs : List Char) : (branches cs).1.length ≤ cs.length := by
  simpa [branches] using (List.takeWhile_prefix (p := (· != ':')) (l := cs)).length_le

/-- The second text of a choice is no longer than the choice. -/
theorem length_absent_le (cs : List Char) : (branches cs).2.length ≤ cs.length := by
  have h := (List.dropWhile_suffix (p := (· != ':')) (l := cs)).length_le
  simp only [branches, List.length_drop]
  omega

/-- Read the rest of a template, `literal` being the open literal in reverse. -/
def parseFrom (literal : List Char) (cs : List Char) : List VersionToken :=
  match cs with
  | [] => close literal []
  | c :: rest =>
      match rest with
      | [] => close (c :: literal) []
      | d :: rest =>
          match if c = '\\' then Text.digitValue? d else none with
          | none => parseFrom (c :: literal) (d :: rest)
          | some n =>
              match rest with
              | '?' :: rest =>
                  have := length_present_le rest
                  have := length_absent_le rest
                  close literal
                    [.choice n (parseFrom [] (branches rest).1) (parseFrom [] (branches rest).2)]
              | rest => close literal (.group n :: parseFrom [] rest)
  termination_by cs.length
  decreasing_by all_goals (simp_all; try omega)

/-- Read a template. -/
def parse (s : String) : VersionTemplate := parseFrom [] s.toList

/-- The text of a template without references to groups. -/
def literal? : VersionTemplate → Option String
  | [] => some ""
  | .literal s :: rest => (literal? rest).map fun t => s ++ t
  | _ => none

mutual

/-- The text of a part, given the texts of groups. -/
def renderToken (group : Nat → String) : VersionToken → String
  | .literal s => s
  | .group n => group n
  | .choice n present absent =>
      if group n = "" then renderTokens group absent else renderTokens group present

/-- The text of some parts, given the texts of groups. -/
def renderTokens (group : Nat → String) : List VersionToken → String
  | [] => ""
  | t :: rest => renderToken group t ++ renderTokens group rest

end

/-- The version that a template gives, given the texts of groups. -/
def render (t : VersionTemplate) (group : Nat → String) : String :=
  Text.trim (renderTokens group t)

end VersionTemplate

/-! ## Patterns -/

/-- A pattern; without a regular expression it matches everything. -/
structure Pattern where
  regex : Option Regex
  version : VersionTemplate := []
  confidence : Nat := 100

/-- What separates the options of a pattern. -/
def separator : List Char := ['\\', ';']

/-- The parts of a text between separators, `part` being the open one in reverse. -/
def splitFrom (part : List Char) : List Char → List (List Char)
  | [] => [part.reverse]
  | '\\' :: ';' :: rest => part.reverse :: splitFrom [] rest
  | c :: rest => splitFrom (c :: part) rest

/-- The parts of a text between separators. -/
def split (s : String) : List String := (splitFrom [] s.toList).map String.ofList

namespace Pattern

/-- Take over an option; other options are left alone. -/
def withOption (p : Pattern) (option : String) : Pattern :=
  match Text.after "version:" option with
  | some v => { p with version := .parse v }
  | none =>
      match Text.after "confidence:" option with
      | some c => { p with confidence := (Text.decimal? Text.max8 (Text.trim c)).getD 100 }
      | none => p

/-- Read a pattern. -/
def parse (s : String) : Except RuleError Pattern := do
  let parts := split s
  let source := parts.head?.getD ""
  let regex ←
    if source = "" then .ok none
    else
      match Regex.compile ("(?i)" ++ source) with
      | .ok r => .ok (some r)
      | .error _ => .error (.pattern ("wappalyzer pattern " ++ source))
  .ok ((parts.drop 1).foldl withOption { regex })

/-- The version that a pattern finds in a byte string that it matches. -/
def version? (p : Pattern) (b : Bytes) : Option String :=
  match p.regex with
  | none => some (p.version.render fun _ => "")
  | some r => (r.captures? b).map fun c => p.version.render c.text

end Pattern

end Fingerprinting.Wappalyzer
