/-
# Size of compiled expressions

A pattern may be short and still describe a very large automaton, since counted repetitions
multiply.  Such patterns are refused before anything is laid down.  The measure is the memory of a
byte automaton for the expression: a fixed amount for each state, and more for each way out of a
state with several.
-/
import Fingerprinting.Regex.Expr

namespace Fingerprinting.Regex

open Unicode (RangeSet)

/-- Memory of a state. -/
def stateSize : Nat := 32

/-- Memory of one of several ways out of a state, by byte range. -/
def rangeSize : Nat := 8

/-- Memory of one of several ways out of a state, without a byte. -/
def branchSize : Nat := 4

/-- The most memory that an expression may take. -/
def maxSize : Nat := 10 * 1024 * 1024

/-- Memory of a state with several byte ranges. -/
def sparseSize (ranges : Nat) : Nat :=
  stateSize + if ranges ≤ 1 then 0 else rangeSize * ranges

/-- How many blocks of `unit` numbers a set touches, as runs of neighbouring blocks. -/
def blockRuns (unit : Nat) (s : RangeSet) : RangeSet :=
  .ofRanges (s.ranges.map fun r => (r.1 / unit, r.2 / unit))

/-- Memory of the automaton for one character of a set in UTF-8: a state for each block of 64 code
points that the set touches without filling it, and one more level for each of the longer forms. -/
def charSize (s : RangeSet) : Nat :=
  match s.ranges.getLast? with
  | none => stateSize
  | some (_, top) =>
      if top < 0x80 then sparseSize s.ranges.length
      else
        let partly := s.ranges.foldl
          (fun n r => n + (if r.1 % 64 = 0 then 0 else 1) + (if r.2 % 64 = 63 then 0 else 1)) 0
        let blocks := (blockRuns 64 s).ranges.length
        let pages := (blockRuns 4096 s).ranges.length
        stateSize * (partly + pages + 4) + rangeSize * (s.ranges.length + blocks + pages)

/-- Memory of the automaton for an expression. -/
def Expr.size : Expr → Nat
  | .empty => stateSize
  | .char set => charSize set
  | .byte set => sparseSize set.ranges.length
  | .look _ => stateSize
  | .group _ body => body.size + 2 * stateSize
  | .cat a b => a.size + b.size
  | .alt a b => a.size + b.size + stateSize + 2 * branchSize
  | .iterate least most _ body =>
      match most with
      | some most =>
          body.size * max least most + (stateSize + 2 * branchSize) * (most - least) + stateSize
      | none => body.size * max least 1 + stateSize + 2 * branchSize

end Fingerprinting.Regex
