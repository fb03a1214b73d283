/-
# Regular expressions over bytes

`Regex.compile` turns the text of a pattern into a regular expression, and `Regex.captures?` finds
the preferred match in a byte string together with what its groups took.

Patterns match bytes.  A class matches whole characters in UTF-8 unless Unicode mode is off; bytes
that are no character are matched in byte mode only.
-/
import Fingerprinting.Regex.Search
import Fingerprinting.Regex.Size

namespace Fingerprinting

open Regex in
/-- A compiled regular expression. -/
structure Regex where
  source : String
  program : Program

namespace Regex

/-- Compile a pattern. -/
def compile (source : String) : Except PatternError Regex := do
  let p ← Pattern.parse source
  let e ← Expr.ofPattern p
  if maxSize < e.size then .error .tooLarge else .ok ⟨source, .ofExpr e⟩

/-- What a match took: the bytes searched and the noted positions. -/
structure Captures where
  bytes : Array UInt8
  slots : Slots

/-- The bytes of a group of a match, if the group took part in it.  Group zero is the whole match.
-/
def Captures.group? (c : Captures) (index : Nat) : Option Bytes :=
  match c.slots.lookup (2 * index), c.slots.lookup (2 * index + 1) with
  | some a, some b => some (c.bytes.extract a b).toList
  | _, _ => none

/-- The text of a group, empty when the group took no part in the match. -/
def Captures.text (c : Captures) (index : Nat) : String :=
  match c.group? index with
  | some b => Utf8.lossy b
  | none => ""

/-- The preferred match in a byte string. -/
def captures? (r : Regex) (b : Bytes) : Option Captures :=
  let bytes := b.toArray
  (r.program.search bytes).map fun slots => ⟨bytes, slots⟩

/-- The matches from `start` on, each after the one before it; `last` is the end of the one before.
An empty match at the end of another is passed over. -/
def capturesFrom (r : Regex) (bytes : Array UInt8) : Nat → Nat → Option Nat → List Captures
  | 0, _, _ => []
  | fuel + 1, start, last =>
      match r.program.searchAt bytes start with
      | none => []
      | some slots =>
          let finish := (slots.lookup 1).getD start
          if slots.lookup 0 == some finish && last == some finish then
            capturesFrom r bytes fuel (start + 1) last
          else ⟨bytes, slots⟩ :: capturesFrom r bytes fuel finish (some finish)

/-- All matches in a byte string, none overlapping another. -/
def allCaptures (r : Regex) (b : Bytes) : List Captures :=
  let bytes := b.toArray
  capturesFrom r bytes (2 * bytes.size + 3) 0 none

/-- Whether the pattern matches somewhere in a byte string. -/
def isMatch (r : Regex) (b : Bytes) : Bool := (r.captures? b).isSome

end Regex

end Fingerprinting
