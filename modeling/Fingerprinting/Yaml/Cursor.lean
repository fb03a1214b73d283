/-
# Places in a YAML text

A cursor is the rest of a text together with its place.  Lines end at the line breaks of YAML, which
are more than the line feed; reading one gives the form in which it counts.
-/
import Fingerprinting.Document

namespace Fingerprinting.Yaml

/-! ## Characters -/

/-- Characters that end a line. -/
def isBreak (c : Char) : Bool :=
  c == '\r' || c == '\n' || c == '\u0085' || c == '\u2028' || c == '\u2029'

/-- Blanks inside a line. -/
def isBlank (c : Char) : Bool := c == ' ' || c == '\t'

/-- Characters of names. -/
def isWord (c : Char) : Bool :=
  ('0' ≤ c && c ≤ '9') || ('A' ≤ c && c ≤ 'Z') || ('a' ≤ c && c ≤ 'z') || c == '_' || c == '-'

/-- Characters that a text may hold. -/
def isAllowed (c : Char) : Bool :=
  let n := c.toNat
  n == 0x09 || n == 0x0A || n == 0x0D || (0x20 ≤ n && n ≤ 0x7E) || n == 0x85 ||
    (0xA0 ≤ n && n ≤ 0xFFFD) || 0x10000 ≤ n

/-! ## Cursors -/

/-- The rest of a text, and how many characters, lines and columns precede it. -/
structure Cursor where
  rest : List Char
  index : Nat := 0
  line : Nat := 0
  column : Nat := 0
deriving Repr, Inhabited

namespace Cursor

/-- The character `n` places ahead. -/
def at? (c : Cursor) (n : Nat) : Option Char := c.rest[n]?

/-- The next character. -/
def next? (c : Cursor) : Option Char := c.rest.head?

/-- Whether the next character is this one. -/
def sees (c : Cursor) (x : Char) : Bool := c.next? == some x

/-- Whether the character `n` places ahead is a blank, a break or the end. -/
def endsWordAt (c : Cursor) (n : Nat) : Bool :=
  match c.at? n with
  | none => true
  | some x => isBlank x || isBreak x

/-- Whether the next character is a blank. -/
def seesBlank (c : Cursor) : Bool := c.next?.any isBlank

/-- Whether the next character ends a line. -/
def seesBreak (c : Cursor) : Bool := c.next?.any isBreak

/-- Whether the line ends here. -/
def endsLine (c : Cursor) : Bool := c.next?.all isBreak

/-- Go past `n` characters of a line. -/
def skip (c : Cursor) (n : Nat) : Cursor :=
  { c with rest := c.rest.drop n, index := c.index + n, column := c.column + n }

/-- Go past the characters that satisfy `p`. -/
def skipWhile (p : Char → Bool) (c : Cursor) : Cursor := c.skip (c.rest.takeWhile p).length

/-- The characters ahead that satisfy `p`, and the place after them. -/
def span (p : Char → Bool) (c : Cursor) : List Char × Cursor :=
  (c.rest.takeWhile p, c.skipWhile p)

/-- The place after `n` characters that end a line. -/
def newLine (c : Cursor) (n : Nat) : Cursor :=
  ⟨c.rest.drop n, c.index + n, c.line + 1, 0⟩

/-- Go past a line break.  The separators of lines and paragraphs keep their form, and all other
breaks count as line feeds. -/
def takeBreak? (c : Cursor) : Option (Char × Cursor) :=
  match c.rest with
  | '\r' :: '\n' :: _ => some ('\n', c.newLine 2)
  | x :: _ =>
      if x == '\u2028' || x == '\u2029' then some (x, c.newLine 1)
      else if isBreak x then some ('\n', c.newLine 1)
      else none
  | [] => none

/-- Go past a line break if there is one. -/
def skipBreak (c : Cursor) : Cursor :=
  match c.takeBreak? with
  | some (_, c) => c
  | none => c

/-- Go past a comment. -/
def skipComment (c : Cursor) : Cursor := if c.sees '#' then c.skipWhile fun x => !isBreak x else c

/-- Go past the blanks and the comment that end a line, and past its break; something else is
refused. -/
def endLine? (c : Cursor) : Option Cursor :=
  let c := (c.skipWhile isBlank).skipComment
  if c.endsLine then some c.skipBreak else none

/-- Whether three marks stand at the beginning of a line, and nothing else before the next blank. -/
def seesMarks (c : Cursor) (x : Char) : Bool :=
  c.column == 0 && c.sees x && c.at? 1 == some x && c.at? 2 == some x && c.endsWordAt 3

/-- Whether a document begins or ends here. -/
def seesDocumentMarks (c : Cursor) : Bool := c.seesMarks '-' || c.seesMarks '.'

end Cursor

end Fingerprinting.Yaml
