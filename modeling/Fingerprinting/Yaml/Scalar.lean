/-
# YAML scalars

How the text of a scalar is written: as it is, between quotes, or as a block of lines.  Line breaks
inside plain and quoted scalars are folded: one break becomes a space, and of several the first is
dropped.
-/
import Fingerprinting.Yaml.Cursor

namespace Fingerprinting.Yaml

/-! ## Gaps -/

/-- Blanks and line breaks between two words of a scalar. -/
structure Gap where
  blanks : List Char := []
  first : Option Char := none
  others : List Char := []
  /-- Whether a line has ended in the gap; blanks after that do not count. -/
  broken : Bool := false
deriving Repr, Inhabited

namespace Gap

/-- Line breaks folded. -/
def fold (first : Option Char) (others : List Char) : List Char :=
  if first = some '\n' then if others.isEmpty then [' '] else others
  else first.toList ++ others

/-- What a gap stands for. -/
def text (g : Gap) : List Char := if g.broken then fold g.first g.others else g.blanks

/-- Read blanks and breaks.  After a break, a tab before the column `margin` is refused. -/
def read? (margin : Int) : Nat → Gap → Cursor → Option (Gap × Cursor)
  | 0, _, _ => none
  | fuel + 1, g, c =>
      match c.takeBreak? with
      | some (x, next) =>
          if g.broken then read? margin fuel { g with others := g.others ++ [x] } next
          else read? margin fuel { g with blanks := [], first := some x, broken := true } next
      | none =>
          match c.next? with
          | some x =>
              if !isBlank x then some (g, c)
              else if g.broken then
                if x == '\t' && c.column < margin then none else read? margin fuel g (c.skip 1)
              else read? margin fuel { g with blanks := g.blanks ++ [x] } (c.skip 1)
          | none => some (g, c)

end Gap

/-! ## Plain scalars -/

/-- Characters that end a plain scalar in a flow collection. -/
def isFlowEnd (c : Char) : Bool := c == ',' || c == '[' || c == ']' || c == '{' || c == '}'

/-- A word of a plain scalar.  A colon ends it when a blank follows; in a flow collection, a colon
before an indicator is refused. -/
def plainWord? (flow : Bool) : Nat → Cursor → Option (List Char × Cursor)
  | 0, _ => none
  | fuel + 1, c =>
      match c.next? with
      | none => some ([], c)
      | some x =>
          if isBlank x || isBreak x then some ([], c)
          else if flow && x == ':' && (c.at? 1).any fun y => isFlowEnd y || y == '?' then none
          else if (x == ':' && c.endsWordAt 1) || (flow && isFlowEnd x) then some ([], c)
          else do
            let (word, next) ← plainWord? flow fuel (c.skip 1)
            some (x :: word, next)

/-- Read a plain scalar after the text `acc` and a gap.  Besides the text and the place after it,
tell whether a line has ended since the last word. -/
def plainFrom? (flow : Bool) (margin : Int) :
    Nat → List Char → Gap → Cursor → Option (List Char × Bool × Cursor)
  | 0, _, _, _ => none
  | fuel + 1, acc, gap, c =>
      if c.seesDocumentMarks || c.sees '#' then some (acc, gap.broken, c)
      else do
        let (word, next) ← plainWord? flow (c.rest.length + 1) c
        let (acc, gap) := if word.isEmpty then (acc, gap) else (acc ++ gap.text ++ word, {})
        if !(next.seesBlank || next.seesBreak) then some (acc, gap.broken, next)
        else
          let (gap, next) ← Gap.read? margin (next.rest.length + 1) gap next
          if !flow && next.column < margin then some (acc, gap.broken, next)
          else plainFrom? flow margin fuel acc gap next

/-- Read a plain scalar. -/
def plain? (flow : Bool) (margin : Int) (c : Cursor) : Option (List Char × Bool × Cursor) :=
  plainFrom? flow margin (c.rest.length + 1) [] {} c

/-! ## Quoted scalars -/

/-- The character that a letter after a backslash stands for. -/
def escaped? (c : Char) : Option Char :=
  match c with
  | '0' => some '\x00'
  | 'a' => some '\x07'
  | 'b' => some '\x08'
  | 't' => some '\t'
  | '\t' => some '\t'
  | 'n' => some '\n'
  | 'v' => some '\x0b'
  | 'f' => some '\x0c'
  | 'r' => some '\r'
  | 'e' => some '\x1b'
  | ' ' => some ' '
  | '"' => some '"'
  | '/' => some '/'
  | '\\' => some '\\'
  | 'N' => some '\u0085'
  | '_' => some '\u00a0'
  | 'L' => some '\u2028'
  | 'P' => some '\u2029'
  | _ => none

/-- The number of hexadecimal digits after a letter after a backslash. -/
def escapeDigits? (c : Char) : Option Nat :=
  match c with
  | 'x' => some 2
  | 'u' => some 4
  | 'U' => some 8
  | _ => none

/-- The character with some hexadecimal number. -/
def numbered? (digits : List Char) : Option Char := do
  let n ← Text.magnitude? Text.hexDigitValue? 16 digits
  if n.isValidChar then some (Char.ofNat n) else none

/-- Read an escape after its backslash. -/
def escape? (c : Cursor) : Option (Char × Cursor) := do
  let letter ← c.next?
  match escapeDigits? letter with
  | some n =>
      let c := c.skip 1
      let digits := c.rest.take n
      if digits.length < n then none else some (← numbered? digits, c.skip n)
  | none => some (← escaped? letter, c.skip 1)

/-- A word of a quoted scalar, and whether an escaped line break ends it. -/
def quotedWord? (quote : Char) : Nat → Cursor → Option (List Char × Bool × Cursor)
  | 0, _ => none
  | fuel + 1, c => do
      let single := quote == '\''
      let more (x : Char) (next : Cursor) : Option (List Char × Bool × Cursor) := do
        let (word, broken, next) ← quotedWord? quote fuel next
        some (x :: word, broken, next)
      match c.next? with
      | none => some ([], false, c)
      | some x =>
          if isBlank x || isBreak x then some ([], false, c)
          else if single && x == quote && c.at? 1 == some quote then more x (c.skip 2)
          else if x == quote then some ([], false, c)
          else if !single && x == '\\' then
            match (c.skip 1).takeBreak? with
            | some (_, next) => some ([], true, next)
            | none =>
                let (y, next) ← escape? (c.skip 1)
                more y next
          else more x (c.skip 1)

/-- Read a quoted scalar after its opening quote and the text `acc`. -/
def quotedFrom? (quote : Char) : Nat → List Char → Cursor → Option (List Char × Cursor)
  | 0, _, _ => none
  | fuel + 1, acc, c =>
      if c.seesDocumentMarks || c.next?.isNone then none
      else do
        let (word, broken, next) ← quotedWord? quote (c.rest.length + 1) c
        let acc := acc ++ word
        if next.sees quote then some (acc, next.skip 1)
        else
          let (gap, next) ← Gap.read? (-1) (next.rest.length + 1) { broken } next
          quotedFrom? quote fuel (acc ++ gap.text) next

/-- Read a quoted scalar. -/
def quoted? (quote : Char) (c : Cursor) : Option (List Char × Cursor) :=
  quotedFrom? quote (c.rest.length + 1) [] (c.skip 1)

/-! ## Blocks of lines -/

/-- What becomes of the line breaks that end a block. -/
inductive Chomping where
  | clip
  | strip
  | keep
deriving DecidableEq, Repr

/-- The header of a block: the columns by which it is indented, if it says so, and its chomping. -/
structure BlockHeader where
  increment : Option Nat := none
  chomping : Chomping := .clip

/-- The chomping that a sign asks for. -/
def chomping? (c : Cursor) : Option Chomping :=
  if c.sees '+' then some .keep else if c.sees '-' then some .strip else none

/-- The increment that a digit asks for; zero is refused. -/
def increment? (c : Cursor) : Option (Option Nat) :=
  match c.next?.bind Text.digitValue? with
  | some 0 => none
  | some n => some (some n)
  | none => some none

/-- Read the header of a block, which may have a sign and a digit in either order. -/
def blockHeader? (c : Cursor) : Option (BlockHeader × Cursor) := do
  match chomping? c with
  | some chomping =>
      let c := c.skip 1
      match ← increment? c with
      | some n => some (⟨some n, chomping⟩, c.skip 1)
      | none => some (⟨none, chomping⟩, c)
  | none =>
      match ← increment? c with
      | some n =>
          let c := c.skip 1
          match chomping? c with
          | some chomping => some (⟨some n, chomping⟩, c.skip 1)
          | none => some (⟨some n, .clip⟩, c)
      | none => some ({}, c)

/-- Read indentation and empty lines.  Without an indentation all spaces count, and the widest run
is told. -/
def blockBreaks? (indent : Option Int) :
    Nat → Int → List Char → Cursor → Option (Int × List Char × Cursor)
  | 0, _, _, _ => none
  | fuel + 1, widest, breaks, c =>
      let room :=
        match indent with
        | some n => (n - c.column).toNat
        | none => c.rest.length
      let c := c.skip ((c.rest.take room).takeWhile (· == ' ')).length
      let widest := max widest c.column
      let inMargin :=
        match indent with
        | some n => decide (c.column < n)
        | none => true
      if inMargin && c.sees '\t' then none
      else
        match c.takeBreak? with
        | some (x, next) => blockBreaks? indent fuel widest (breaks ++ [x]) next
        | none => some (widest, breaks, c)

/-- Text of a block so far, with what has been read since. -/
structure BlockText where
  text : List Char := []
  /-- The break that ended the last line. -/
  last : Option Char := none
  /-- The breaks of empty lines since. -/
  breaks : List Char := []
  /-- Whether the last line began with a blank, so that its break is not folded. -/
  afterBlank : Bool := false

/-- The text of a block before its next line, which begins with a blank or not. -/
def BlockText.join (b : BlockText) (literal blank : Bool) : List Char :=
  if !literal && b.last == some '\n' && !b.afterBlank && !blank then
    b.text ++ (if b.breaks.isEmpty then [' '] else b.breaks)
  else b.text ++ b.last.toList ++ b.breaks

/-- Read the lines of a block at some indentation. -/
def blockLines? (literal : Bool) (indent : Int) :
    Nat → BlockText → Cursor → Option (BlockText × Cursor)
  | 0, _, _ => none
  | fuel + 1, b, c =>
      if c.column ≠ indent || c.next?.isNone then some (b, c)
      else do
        let blank := c.seesBlank
        let (line, c) := c.span fun x => !isBreak x
        let text := b.join literal blank ++ line
        let (last, c) :=
          match c.takeBreak? with
          | some (x, next) => (some x, next)
          | none => (none, c)
        let (_, breaks, c) ← blockBreaks? (some indent) (c.rest.length + 1) 0 [] c
        blockLines? literal indent fuel ⟨text, last, breaks, blank⟩ c

/-- Read a block inside a collection that is indented by `outer` columns. -/
def block? (literal : Bool) (outer : Int) (c : Cursor) : Option (List Char × Cursor) := do
  let (header, c) ← blockHeader? (c.skip 1)
  let c ← c.endLine?
  let given := header.increment.map fun n => if 0 ≤ outer then outer + n else (n : Int)
  let (widest, breaks, c) ← blockBreaks? given (c.rest.length + 1) 0 [] c
  let indent := given.getD (max (max widest (outer + 1)) 1)
  let (b, c) ← blockLines? literal indent (c.rest.length + 1) { breaks } c
  let tail :=
    match header.chomping with
    | .strip => []
    | .clip => b.last.toList
    | .keep => b.last.toList ++ b.breaks
  some (b.text ++ tail, c)

end Fingerprinting.Yaml
