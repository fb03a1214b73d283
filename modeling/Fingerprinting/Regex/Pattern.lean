/-
# Pattern trees

What the text of a regular expression says, before its flags are taken into account.  A tree keeps
the letters, classes and flag changes as they are written; `Regex.Expr` gives them a meaning.

Concatenation and alternation are binary here.  A chain of either counts as one level of nesting,
which is what `Pattern.height` measures.
-/
import Fingerprinting.Unicode.RangeSet

namespace Fingerprinting.Regex

/-! ## Leaves -/

/-- Switches that a pattern can turn on and off. -/
inductive Flag where
  | caseInsensitive
  | multiLine
  | dotMatchesNewline
  | swapGreed
  | unicode
  | carriageReturn
  | extended
deriving DecidableEq, Repr

/-- A literal character, and whether it was written as a two-digit hexadecimal escape. -/
structure Literal where
  char : Char
  hexPair : Bool
deriving DecidableEq, Repr

/-- Positions that an anchor asks for. -/
inductive Anchor where
  | lineStart
  | lineEnd
  | textStart
  | textEnd
  | wordBoundary
  | notWordBoundary
  | wordStart
  | wordEnd
  | wordStartHalf
  | wordEndHalf
deriving DecidableEq, Repr

/-- The classes with a letter of their own. -/
inductive LetterClass where
  | digit
  | space
  | word
deriving DecidableEq, Repr

/-- The classes written as `[:name:]`. -/
inductive AsciiClass where
  | alnum | alpha | ascii | blank | cntrl | digit | graph
  | lower | print | punct | space | upper | word | xdigit
deriving DecidableEq, Repr

/-- A class of characters by Unicode property: a name on its own, or a name and a value. -/
structure Property where
  name : String
  value : Option String
  negated : Bool
deriving DecidableEq, Repr

/-! ## Bracketed classes -/

/-- Operations between two operands of a bracketed class. -/
inductive SetOperation where
  | intersection
  | difference
  | symmetricDifference
deriving DecidableEq, Repr

/-- The inside of a bracketed class. -/
inductive ClassSet where
  | nothing
  | range (lo hi : Literal)
  | letter (kind : LetterClass) (negated : Bool)
  | ascii (kind : AsciiClass) (negated : Bool)
  | property (p : Property)
  | bracket (negated : Bool) (inner : ClassSet)
  | both (a b : ClassSet)
  | combine (op : SetOperation) (a b : ClassSet)
deriving Repr

/-- Levels of nesting; `inUnion` says that the node stands in a union already counted. -/
def ClassSet.heightFrom (inUnion : Bool) : ClassSet → Nat
  | .bracket _ inner => inner.heightFrom false + 1
  | .both a b => max (a.heightFrom true) (b.heightFrom true) + (if inUnion then 0 else 1)
  | .combine _ a b => max (a.heightFrom false) (b.heightFrom false) + 1
  | _ => 0

/-! ## Patterns -/

/-- Flags to set (`true`) and to clear (`false`), in the order written. -/
abbrev FlagChange := List (Flag × Bool)

/-- What a pair of parentheses does. -/
inductive GroupKind where
  /-- Captures under a number from one on. -/
  | capture (index : Nat)
  /-- Only groups, with flags that end with the group. -/
  | scope (change : FlagChange)
deriving Repr

/-- A pattern as written. -/
inductive Pattern where
  | empty
  | flags (change : FlagChange)
  | literal (l : Literal)
  | dot
  | anchor (a : Anchor)
  | letter (kind : LetterClass) (negated : Bool)
  | property (p : Property)
  | bracket (negated : Bool) (set : ClassSet)
  | iterate (least : Nat) (most : Option Nat) (greedy : Bool) (body : Pattern)
  | group (kind : GroupKind) (body : Pattern)
  | cat (a b : Pattern)
  | alt (a b : Pattern)
deriving Repr

/-- The chain that a node's parent belongs to. -/
inductive Chain where
  | cat
  | alt
  | neither
deriving DecidableEq

/-- Levels of nesting below a node whose parent belongs to `chain`. -/
def Pattern.heightFrom (chain : Chain) : Pattern → Nat
  | .bracket _ set => set.heightFrom false + 1
  | .iterate _ _ _ body => body.heightFrom .neither + 1
  | .group _ body => body.heightFrom .neither + 1
  | .cat a b => max (a.heightFrom .cat) (b.heightFrom .cat) + (if chain = .cat then 0 else 1)
  | .alt a b => max (a.heightFrom .alt) (b.heightFrom .alt) + (if chain = .alt then 0 else 1)
  | _ => 0

/-- Levels of nesting in a pattern. -/
def Pattern.height (p : Pattern) : Nat := p.heightFrom .neither

/-- The sequence of some patterns. -/
def Pattern.ofSequence : List Pattern → Pattern
  | [] => .empty
  | [p] => p
  | p :: rest => .cat p (ofSequence rest)

/-- The alternation of some patterns. -/
def Pattern.ofBranches : List Pattern → Pattern
  | [] => .empty
  | [p] => p
  | p :: rest => .alt p (ofBranches rest)

end Fingerprinting.Regex
