/-
# Programs

An expression as numbered instructions, each naming the instruction that follows it.  A program is
built from its end backwards, so that the place to go on from is known when an instruction is laid
down; a loop reserves its own place first and fills it in once its body is there.

A choice lists the branch to be tried first; so the order in which branches are tried is the order
in which matches are preferred.
-/
import Fingerprinting.Regex.Expr

namespace Fingerprinting.Regex

open Unicode (RangeSet)

/-- One instruction. -/
inductive Instr where
  /-- The whole expression has matched. -/
  | done
  /-- Take one character of a set. -/
  | char (set : RangeSet) (next : Nat)
  /-- Take one byte of a set. -/
  | byte (set : RangeSet) (next : Nat)
  /-- Go on where a condition holds. -/
  | look (l : Look) (next : Nat)
  /-- Go on at `first`, and failing that at `second`. -/
  | choice (first second : Nat)
  /-- Note the position in a slot. -/
  | note (slot : Nat) (next : Nat)
deriving Repr, DecidableEq

/-- Numbered instructions and the one to begin at. -/
structure Program where
  code : Array Instr
  start : Nat
deriving Repr

/-- The choice between staying in a loop and leaving it. -/
def stayOrLeave (greedy : Bool) (stay leave : Nat) : Instr :=
  if greedy then .choice stay leave else .choice leave stay

/-- Lay down one instruction, and answer with its number. -/
def push (code : Array Instr) (i : Instr) : Array Instr × Nat := (code.push i, code.size)

/-- A way to lay down the instructions of an expression in front of a given one. -/
abbrev Layout := Array Instr → Nat → Array Instr × Nat

/-- Lay down `body` a number of times in sequence. -/
def layTimes (body : Layout) : Nat → Layout
  | 0, code, next => (code, next)
  | n + 1, code, next =>
      let (code, next) := layTimes body n code next
      body code next

/-- Lay down `body` at most a number of times, each time with the choice to leave for good. -/
def layOptional (greedy : Bool) (body : Layout) (leave : Nat) : Nat → Layout
  | 0, code, next => (code, next)
  | n + 1, code, next =>
      let (code, next) := layOptional greedy body leave n code next
      let (code, stay) := body code next
      push code (stayOrLeave greedy stay leave)

/-- Lay down a loop that takes `body` once or more. -/
def layLoop (greedy : Bool) (body : Layout) : Layout := fun code next =>
  let (code, again) := push code .done
  let (code, stay) := body code again
  (code.setIfInBounds again (stayOrLeave greedy stay next), stay)

/-- Lay down a loop that takes `body` any number of times.  When `body` may take nothing, the choice
to skip the loop stands apart from the choice to repeat it, so that an empty round ends the loop and
is still preferred in its order. -/
def layStar (greedy consumes : Bool) (body : Layout) : Layout := fun code next =>
  if consumes then
    let (code, again) := push code .done
    let (code, stay) := body code again
    (code.setIfInBounds again (stayOrLeave greedy stay next), again)
  else
    let (code, stay) := layLoop greedy body code next
    push code (stayOrLeave greedy stay next)

/-- Lay down an expression. -/
def Expr.lay : Expr → Layout
  | .empty, code, next => (code, next)
  | .char set, code, next => push code (.char set next)
  | .byte set, code, next => push code (.byte set next)
  | .look l, code, next => push code (.look l next)
  | .group index body, code, next =>
      let (code, close) := push code (.note (2 * index + 1) next)
      let (code, inner) := body.lay code close
      push code (.note (2 * index) inner)
  | .cat a b, code, next =>
      let (code, next) := b.lay code next
      a.lay code next
  | .alt a b, code, next =>
      let (code, second) := b.lay code next
      let (code, first) := a.lay code next
      push code (.choice first second)
  | .iterate least most greedy body, code, next =>
      match most with
      | some most =>
          let (code, next) := layOptional greedy body.lay next (most - least) code next
          layTimes body.lay least code next
      | none =>
          match least with
          | 0 => layStar greedy body.consumes body.lay code next
          | n + 1 =>
              let (code, next) := layLoop greedy body.lay code next
              layTimes body.lay n code next

/-- The program of an expression: the bounds of the whole match are group zero. -/
def Program.ofExpr (e : Expr) : Program :=
  let (code, start) := (Expr.group 0 e).lay #[.done] 0
  ⟨code, start⟩

end Fingerprinting.Regex
