/-
# Reading regular expressions

The written form of patterns.  `Pattern.parse` reads a whole pattern from left to right, keeping the
open groups on a stack; every piece between two of its steps is read by a small function that
answers with the rest of the text.

In extended mode blanks and comments between the tokens of a pattern are dropped; `skip` does so,
and is called wherever a token has ended.
-/
import Fingerprinting.Regex.Pattern
import Fingerprinting.Text.Blank
import Fingerprinting.Text.Case
import Fingerprinting.Text.Numeral

namespace Fingerprinting.Regex

/-- Why a pattern is refused. -/
inductive PatternError where
  | unexpectedEnd
  | lookAround
  | groupUnclosed
  | groupUnopened
  | groupName
  | unknownFlag
  | repeatedFlag
  | danglingNegation
  | nothingToRepeat
  | repetitionCount
  | backreference
  | unknownEscape
  | hexadecimalEscape
  | wordBoundaryName
  | classUnclosed
  | classEscape
  | classRange
  | unknownProperty
  | unicodeInByteMode
  | tooDeep
  | tooLarge
deriving DecidableEq, Repr

/-! ## Blanks in extended mode -/

/-- Drop blanks and comments; `inComment` says that a comment is open. -/
def dropFiller (inComment : Bool) : List Char → List Char
  | [] => []
  | c :: rest =>
      if inComment then dropFiller (c != '\n') rest
      else if Text.isBlank c then dropFiller false rest
      else if c = '#' then dropFiller true rest
      else c :: rest

/-- Drop blanks and comments when in extended mode. -/
def skip (extended : Bool) (cs : List Char) : List Char :=
  if extended then dropFiller false cs else cs

/-! ## Escapes -/

/-- What one token of a pattern, inside or outside a class, can be. -/
inductive Atom where
  | literal (l : Literal)
  | anchor (a : Anchor)
  | letter (kind : LetterClass) (negated : Bool)
  | property (p : Property)
  | dot

/-- A character that stands for itself. -/
def Literal.plain (c : Char) : Literal := ⟨c, false⟩

/-- Characters that mean something in some place of a pattern. -/
def isMeta (c : Char) : Bool := "\\.+*?()|[]\x7b\x7d^$#&-~".toList.contains c

/-- Characters that a backslash may precede without changing them. -/
def isEscapable (c : Char) : Bool :=
  isMeta c || (c.toNat < 0x80 && !Text.isAsciiAlphanumeric c && c != '<' && c != '>')

/-- The character with this number, unless it is a surrogate or too large. -/
def charOfNumber? (n : Nat) : Option Char :=
  if h : n.isValidChar then some (Char.ofNatAux n h) else none

/-- Exactly `count` hexadecimal digits, with filler between them. -/
def readHexDigits (extended : Bool) : Nat → Nat → List Char → Except PatternError (Nat × List Char)
  | 0, acc, cs => .ok (acc, cs)
  | _ + 1, _, [] => .error .unexpectedEnd
  | count + 1, acc, c :: rest =>
      match Text.hexDigitValue? c with
      | none => .error .hexadecimalEscape
      | some d =>
          match count with
          | 0 => .ok (acc * 16 + d, skip extended rest)
          | _ => readHexDigits extended count (acc * 16 + d) (skip extended rest)

/-- Hexadecimal digits up to a closing brace; the filler around them has been dropped. -/
def readHexBraced (acc : Option Nat) : List Char → Except PatternError (Nat × List Char)
  | [] => .error .unexpectedEnd
  | '\x7d' :: rest =>
      match acc with
      | some n => .ok (n, rest)
      | none => .error .hexadecimalEscape
  | c :: rest =>
      match Text.hexDigitValue? c with
      | some d => readHexBraced (some (acc.getD 0 * 16 + d)) rest
      | none => .error .hexadecimalEscape

/-- Without filler up to the first closing brace, in extended mode. -/
def skipInBraces (extended : Bool) (cs : List Char) : List Char :=
  if extended then dropAll cs.length cs else cs
where
  /-- Drop the filler before each character. -/
  dropAll : Nat → List Char → List Char
    | 0, cs => cs
    | bound + 1, cs =>
        match dropFiller false cs with
        | [] => []
        | '\x7d' :: rest => '\x7d' :: rest
        | c :: rest => c :: dropAll bound rest

/-- A hexadecimal escape after its letter: `digits` digits, or any number of them in braces. -/
def readHexEscape (extended : Bool) (digits : Nat) (cs : List Char) :
    Except PatternError (Atom × List Char) :=
  match skip extended cs with
  | [] => .error .unexpectedEnd
  | '\x7b' :: rest => do
      let (n, rest) ← readHexBraced none (skipInBraces extended rest)
      match charOfNumber? n with
      | some c => .ok (.literal ⟨c, false⟩, skip extended rest)
      | none => .error .hexadecimalEscape
  | rest => do
      let (n, rest) ← readHexDigits extended digits 0 rest
      match charOfNumber? n with
      | some c => .ok (.literal ⟨c, digits == 2⟩, rest)
      | none => .error .hexadecimalEscape

/-- Split at the first occurrence of `sep`. -/
def cutAt (sep : List Char) : List Char → Option (List Char × List Char)
  | [] => none
  | c :: rest =>
      match Text.stripStart sep (c :: rest) with
      | some tail => some ([], tail)
      | none => (cutAt sep rest).map fun (a, b) => (c :: a, b)

/-- The property that a braced name asks for: `name!=value`, `name:value`, `name=value` or `name`.
-/
def propertyNamed (negated : Bool) (name : List Char) : Property :=
  match cutAt ['!', '='] name with
  | some (n, v) => ⟨String.ofList n, some (String.ofList v), !negated⟩
  | none =>
      match cutAt [':'] name with
      | some (n, v) => ⟨String.ofList n, some (String.ofList v), negated⟩
      | none =>
          match cutAt ['='] name with
          | some (n, v) => ⟨String.ofList n, some (String.ofList v), negated⟩
          | none => ⟨String.ofList name, none, negated⟩

/-- A property escape after its letter: one letter, or a name in braces. -/
def readProperty (extended negated : Bool) (cs : List Char) :
    Except PatternError (Atom × List Char) :=
  match skip extended cs with
  | [] => .error .unexpectedEnd
  | '\x7b' :: rest =>
      match cutAt ['\x7d'] (skipInBraces extended rest) with
      | some (name, rest) => .ok (.property (propertyNamed negated name), rest)
      | none => .error .unexpectedEnd
  | '\\' :: _ => .error .unknownProperty
  | c :: rest => .ok (.property ⟨String.singleton c, none, negated⟩, skip extended rest)

/-- Letters and hyphens of a word boundary's name, with filler between them. -/
def readBoundaryName (extended : Bool) (bound : Nat) (name : List Char) (cs : List Char) :
    Except PatternError (List Char × List Char) :=
  match bound, cs with
  | bound + 1, c :: rest =>
      if c.isAlpha || c = '-' then
        readBoundaryName extended bound (c :: name) (skip extended rest)
      else if c = '\x7d' then .ok (name.reverse, rest)
      else .error .wordBoundaryName
  | _, _ => .error .wordBoundaryName

/-- A word boundary after its letter, which a name in braces may follow.  Braces that hold no name
are left for a repetition. -/
def readBoundary (extended : Bool) (cs : List Char) : Except PatternError (Atom × List Char) :=
  match cs with
  | '\x7b' :: rest =>
      match skip extended rest with
      | [] => .error .unexpectedEnd
      | c :: rest =>
          if c.isAlpha || c = '-' then do
            let (name, rest) ← readBoundaryName extended (rest.length + 1) [] (c :: rest)
            match String.ofList name with
            | "start" => .ok (.anchor .wordStart, rest)
            | "end" => .ok (.anchor .wordEnd, rest)
            | "start-half" => .ok (.anchor .wordStartHalf, rest)
            | "end-half" => .ok (.anchor .wordEndHalf, rest)
            | _ => .error .wordBoundaryName
          else .ok (.anchor .wordBoundary, cs)
  | _ => .ok (.anchor .wordBoundary, cs)

/-- An escape after its backslash. -/
def readEscape (extended : Bool) : List Char → Except PatternError (Atom × List Char)
  | [] => .error .unexpectedEnd
  | c :: rest =>
      let control (n : Nat) : Except PatternError (Atom × List Char) :=
        .ok (.literal (.plain (Char.ofNat n)), rest)
      if '0' ≤ c ∧ c ≤ '9' then .error .backreference
      else if isEscapable c then .ok (.literal (.plain c), rest)
      else
        match c with
        | 'x' => readHexEscape extended 2 rest
        | 'u' => readHexEscape extended 4 rest
        | 'U' => readHexEscape extended 8 rest
        | 'p' => readProperty extended false rest
        | 'P' => readProperty extended true rest
        | 'd' => .ok (.letter .digit false, rest)
        | 'D' => .ok (.letter .digit true, rest)
        | 's' => .ok (.letter .space false, rest)
        | 'S' => .ok (.letter .space true, rest)
        | 'w' => .ok (.letter .word false, rest)
        | 'W' => .ok (.letter .word true, rest)
        | 'a' => control 0x07
        | 'f' => control 0x0C
        | 't' => control 0x09
        | 'n' => control 0x0A
        | 'r' => control 0x0D
        | 'v' => control 0x0B
        | 'A' => .ok (.anchor .textStart, rest)
        | 'z' => .ok (.anchor .textEnd, rest)
        | 'b' => readBoundary extended rest
        | 'B' => .ok (.anchor .notWordBoundary, rest)
        | '<' => .ok (.anchor .wordStart, rest)
        | '>' => .ok (.anchor .wordEnd, rest)
        | _ => .error .unknownEscape

/-! ## Bracketed classes -/

/-- An operand of a class: its items so far, and the operation that waits for it with its left side.
-/
structure Operand where
  items : ClassSet
  pending : Option (ClassSet × SetOperation)

/-- An operand without items. -/
def Operand.start : Operand := ⟨.nothing, none⟩

/-- Add one item. -/
def Operand.add (o : Operand) (item : ClassSet) : Operand :=
  match o.items with
  | .nothing => { o with items := item }
  | items => { o with items := .both items item }

/-- The set of everything read so far. -/
def Operand.close (o : Operand) : ClassSet :=
  match o.pending with
  | none => o.items
  | some (left, op) => .combine op left o.items

/-- Begin the right side of an operation. -/
def Operand.combine (o : Operand) (op : SetOperation) : Operand := ⟨.nothing, some (o.close, op)⟩

/-- A class that has been opened: its operand, and whether it is negated. -/
structure OpenClass where
  negated : Bool
  operand : Operand

/-- The beginning of a class after its bracket: a negation, leading hyphens, and a closing bracket
in first place, which stands for itself. -/
def openClass (extended : Bool) (cs : List Char) : Except PatternError (OpenClass × List Char) :=
  match skip extended cs with
  | [] => .error .classUnclosed
  | '^' :: rest =>
      match skip extended rest with
      | [] => .error .classUnclosed
      | rest => hyphens rest.length true .start rest
  | rest => hyphens rest.length false .start rest
where
  /-- Take the leading hyphens, then a closing bracket if nothing was taken. -/
  hyphens : Nat → Bool → Operand → List Char → Except PatternError (OpenClass × List Char)
    | bound + 1, negated, o, '-' :: rest =>
        hyphens bound negated (o.add (.range (.plain '-') (.plain '-'))) (skip extended rest)
    | _, _, _, [] => .error .classUnclosed
    | _, negated, o, c :: rest =>
        match o.items with
        | .nothing =>
            if c = ']' then
              match skip extended rest with
              | [] => .error .classUnclosed
              | rest => .ok (⟨negated, o.add (.range (.plain ']') (.plain ']'))⟩, rest)
            else .ok (⟨negated, o⟩, c :: rest)
        | _ => .ok (⟨negated, o⟩, c :: rest)

/-- The class with this name between `[:` and `:]`. -/
def asciiClass? : String → Option AsciiClass
  | "alnum" => some .alnum
  | "alpha" => some .alpha
  | "ascii" => some .ascii
  | "blank" => some .blank
  | "cntrl" => some .cntrl
  | "digit" => some .digit
  | "graph" => some .graph
  | "lower" => some .lower
  | "print" => some .print
  | "punct" => some .punct
  | "space" => some .space
  | "upper" => some .upper
  | "word" => some .word
  | "xdigit" => some .xdigit
  | _ => none

/-- A named class at an opening bracket, if there is one. -/
def readAsciiClass (cs : List Char) : Option (ClassSet × List Char) :=
  match cs with
  | '[' :: ':' :: rest =>
      let (negated, rest) :=
        match rest with
        | '^' :: rest => (true, rest)
        | _ => (false, rest)
      let name := rest.takeWhile (· != ':')
      match rest.dropWhile (· != ':') with
      | ':' :: ']' :: rest =>
          (asciiClass? (String.ofList name)).map fun kind => (.ascii kind negated, rest)
      | _ => none
  | _ => none

/-- One item of a class, before it is known whether it begins a range. -/
def readClassAtom (extended : Bool) : List Char → Except PatternError (Atom × List Char)
  | [] => .error .classUnclosed
  | '\\' :: rest => readEscape extended rest
  | c :: rest => .ok (.literal (.plain c), rest)

/-- The set of one item. -/
def Atom.toClass : Atom → Except PatternError ClassSet
  | .literal l => .ok (.range l l)
  | .letter kind negated => .ok (.letter kind negated)
  | .property p => .ok (.property p)
  | .anchor _ => .error .classEscape
  | .dot => .error .classEscape

/-- The character of an item that bounds a range. -/
def Atom.toBound : Atom → Except PatternError Literal
  | .literal l => .ok l
  | _ => .error .classRange

/-- Whether the text after a hyphen makes the hyphen stand for itself. -/
def hyphenStands (extended : Bool) (rest : List Char) : Bool :=
  match skip extended rest with
  | ']' :: _ => true
  | '-' :: _ => true
  | _ => false

/-- An item or a range of a class. -/
def readClassItem (extended : Bool) (cs : List Char) :
    Except PatternError (ClassSet × List Char) := do
  let (first, rest) ← readClassAtom extended cs
  match skip extended rest with
  | [] => .error .classUnclosed
  | '-' :: rest =>
      if hyphenStands extended rest then
        .ok (← first.toClass, '-' :: rest)
      else
        match skip extended rest with
        | [] => .error .classUnclosed
        | rest => do
            let (last, rest) ← readClassAtom extended rest
            let lo ← first.toBound
            let hi ← last.toBound
            if lo.char.toNat ≤ hi.char.toNat then .ok (.range lo hi, rest) else .error .classRange
  | rest => .ok (← first.toClass, rest)

/-- Add an item to a class. -/
def OpenClass.add (c : OpenClass) (item : ClassSet) : OpenClass :=
  { c with operand := c.operand.add item }

/-- Begin the right side of an operation in a class. -/
def OpenClass.combine (c : OpenClass) (op : SetOperation) : OpenClass :=
  { c with operand := c.operand.combine op }

/-- Read the rest of a class, `cur` being the innermost open class and `outer` those around it.
Every step takes a character, so the length of the text bounds their number. -/
def readClassFrom (extended : Bool) (bound : Nat) (cur : OpenClass) (outer : List OpenClass)
    (cs : List Char) : Except PatternError (Pattern × List Char) :=
  match bound with
  | 0 => .error .classUnclosed
  | bound + 1 =>
      match skip extended cs with
      | [] => .error .classUnclosed
      | ']' :: rest =>
          match outer with
          | [] => .ok (.bracket cur.negated cur.operand.close, rest)
          | parent :: outer =>
              readClassFrom extended bound (parent.add (.bracket cur.negated cur.operand.close))
                outer rest
      | '&' :: '&' :: rest => readClassFrom extended bound (cur.combine .intersection) outer rest
      | '-' :: '-' :: rest => readClassFrom extended bound (cur.combine .difference) outer rest
      | '~' :: '~' :: rest =>
          readClassFrom extended bound (cur.combine .symmetricDifference) outer rest
      | '[' :: rest =>
          match readAsciiClass ('[' :: rest) with
          | some (item, rest) => readClassFrom extended bound (cur.add item) outer rest
          | none => do
              let (inner, rest) ← openClass extended rest
              readClassFrom extended bound inner (cur :: outer) rest
      | rest => do
          let (item, rest) ← readClassItem extended rest
          readClassFrom extended bound (cur.add item) outer rest

/-- A bracketed class after its opening bracket. -/
def readClass (extended : Bool) (cs : List Char) : Except PatternError (Pattern × List Char) := do
  let (c, rest) ← openClass extended cs
  readClassFrom extended (rest.length + 1) c [] rest

/-! ## Repetitions -/

/-- A number between filler, and blanks in any mode. -/
def readCount (extended : Bool) (cs : List Char) : Except PatternError (Nat × List Char) :=
  digits (cs.length + 1) none (cs.dropWhile Text.isBlank)
where
  /-- Take the digits, then the blanks after them. -/
  digits : Nat → Option Nat → List Char → Except PatternError (Nat × List Char)
    | bound + 1, acc, c :: rest =>
        match Text.digitValue? c with
        | some d => digits bound (some (acc.getD 0 * 10 + d)) (skip extended rest)
        | none => finish acc (c :: rest)
    | _, acc, cs => finish acc cs
  /-- Check the number. -/
  finish (acc : Option Nat) (cs : List Char) : Except PatternError (Nat × List Char) :=
    match acc with
    | none => .error .repetitionCount
    | some n =>
        if n ≤ Text.max32 then .ok (n, skip extended (cs.dropWhile Text.isBlank))
        else .error .repetitionCount

/-- The counts of a repetition in braces, after the opening brace. -/
def readCounts (extended : Bool) (cs : List Char) :
    Except PatternError ((Nat × Option Nat) × List Char) := do
  let (least, rest) ← readCount extended (skip extended cs)
  match rest with
  | '\x7d' :: rest => .ok ((least, some least), rest)
  | ',' :: rest =>
      match skip extended rest with
      | '\x7d' :: rest => .ok ((least, none), rest)
      | rest => do
          let (most, rest) ← readCount extended rest
          match rest with
          | '\x7d' :: rest =>
              if least ≤ most then .ok ((least, some most), rest) else .error .repetitionCount
          | _ => .error .repetitionCount
  | _ => .error .repetitionCount

/-! ## Groups -/

/-- The flag with this letter. -/
def flag? : Char → Option Flag
  | 'i' => some .caseInsensitive
  | 'm' => some .multiLine
  | 's' => some .dotMatchesNewline
  | 'U' => some .swapGreed
  | 'u' => some .unicode
  | 'R' => some .carriageReturn
  | 'x' => some .extended
  | _ => none

/-- Flags up to a colon or a closing parenthesis, which is left in place.  `negated` says that a
hyphen has been read, `dangling` that it was read last. -/
def readFlags (change : FlagChange) (negated dangling : Bool) : List Char →
    Except PatternError (FlagChange × List Char)
  | [] => .error .unexpectedEnd
  | c :: rest =>
      if c = ':' || c = ')' then
        if dangling then .error .danglingNegation else .ok (change, c :: rest)
      else if c = '-' then
        if negated then .error .repeatedFlag else readFlags change true true rest
      else
        match flag? c with
        | none => .error .unknownFlag
        | some f =>
            if change.any fun item => item.1 == f then .error .repeatedFlag
            else readFlags (change ++ [(f, !negated)]) negated false rest

/-- The last thing a change says about a flag. -/
def FlagChange.state? (change : FlagChange) (f : Flag) : Option Bool :=
  (change.find? fun item => item.1 == f).map Prod.snd

/-- A character that a group's name may hold, in first place or later. -/
def isNameChar (first : Bool) (c : Char) : Bool :=
  c == '_' || (if first then Text.isAlphabetic c
    else c == '.' || c == '[' || c == ']' || Text.isAlphanumeric c)

/-- The name of a group up to its closing angle bracket. -/
def readGroupName (used : List String) (cs : List Char) :
    Except PatternError (String × List Char) :=
  let name := cs.takeWhile (· != '>')
  match cs.dropWhile (· != '>'), name with
  | '>' :: rest, c :: more =>
      if isNameChar true c && more.all (isNameChar false) && !used.contains (String.ofList name)
      then .ok (String.ofList name, rest)
      else .error .groupName
  | _, _ => .error .groupName

/-- What an opening parenthesis begins. -/
inductive Opening where
  /-- A group that captures, with its name if it has one. -/
  | capture (name : Option String)
  /-- A group with flags of its own. -/
  | scope (change : FlagChange)
  /-- Flags for the rest of the enclosing group. -/
  | flags (change : FlagChange)

/-- What follows an opening parenthesis, up to the group's contents. -/
def readOpening (extended : Bool) (used : List String) (cs : List Char) :
    Except PatternError (Opening × List Char) :=
  match skip extended cs with
  | '?' :: '=' :: _ => .error .lookAround
  | '?' :: '!' :: _ => .error .lookAround
  | '?' :: '<' :: '=' :: _ => .error .lookAround
  | '?' :: '<' :: '!' :: _ => .error .lookAround
  | '?' :: 'P' :: '<' :: rest => named rest
  | '?' :: '<' :: rest => named rest
  | '?' :: rest => do
      let (change, rest) ← readFlags [] false false rest
      match rest with
      | ':' :: rest => .ok (.scope change, rest)
      | _ :: rest => if change.isEmpty then .error .nothingToRepeat else .ok (.flags change, rest)
      | [] => .error .unexpectedEnd
  | rest => .ok (.capture none, rest)
where
  /-- A group with a name. -/
  named (rest : List Char) : Except PatternError (Opening × List Char) := do
    let (name, rest) ← readGroupName used rest
    .ok (.capture (some name), rest)

/-! ## Patterns -/

/-- A group that has been opened, with what stood before it in the enclosing group. -/
structure OpenGroup where
  kind : GroupKind
  branches : List Pattern
  items : List Pattern
  extended : Bool

/-- Where the reader of patterns stands: the finished branches and the items of the current branch,
both in reverse, the open groups, the number of captures and their names. -/
structure Place where
  extended : Bool
  branches : List Pattern
  items : List Pattern
  groups : List OpenGroup
  captures : Nat
  names : List String

/-- The contents of the current group. -/
def Place.contents (s : Place) : Pattern :=
  .ofBranches ((Pattern.ofSequence s.items.reverse :: s.branches).reverse)

/-- Add an item to the current branch. -/
def Place.add (s : Place) (p : Pattern) : Place := { s with items := p :: s.items }

/-- Begin a new branch. -/
def Place.branch (s : Place) : Place :=
  { s with items := [], branches := .ofSequence s.items.reverse :: s.branches }

/-- Enter what an opening parenthesis begins. -/
def Place.enter (s : Place) : Opening → Place
  | .flags change =>
      { s with
        extended := (FlagChange.state? change .extended).getD s.extended
        items := .flags change :: s.items }
  | .scope change =>
      { s with
        extended := (FlagChange.state? change .extended).getD s.extended
        branches := []
        items := []
        groups := ⟨.scope change, s.branches, s.items, s.extended⟩ :: s.groups }
  | .capture name =>
      { s with
        branches := []
        items := []
        groups := ⟨.capture (s.captures + 1), s.branches, s.items, s.extended⟩ :: s.groups
        captures := s.captures + 1
        names := name.toList ++ s.names }

/-- Leave the current group. -/
def Place.leave (s : Place) : Except PatternError Place :=
  match s.groups with
  | [] => .error .groupUnopened
  | g :: rest =>
      .ok { s with
        extended := g.extended
        branches := g.branches
        items := .group g.kind s.contents :: g.items
        groups := rest }

/-- Repeat the last item of the current branch. -/
def Place.iterate (s : Place) (least : Nat) (most : Option Nat) (greedy : Bool) :
    Except PatternError Place :=
  match s.items with
  | [] => .error .nothingToRepeat
  | .empty :: _ => .error .nothingToRepeat
  | .flags _ :: _ => .error .nothingToRepeat
  | p :: items => .ok { s with items := .iterate least most greedy p :: items }

/-- The pattern of an item outside classes. -/
def Atom.toPattern : Atom → Pattern
  | .literal l => .literal l
  | .anchor a => .anchor a
  | .letter kind negated => .letter kind negated
  | .property p => .property p
  | .dot => .dot

/-- Whether a repetition is greedy, which a question mark after it denies. -/
def takeGreed : List Char → Bool × List Char
  | '?' :: rest => (false, rest)
  | rest => (true, rest)

/-- One step of the reader on a text that does not begin with filler. -/
def Place.step (s : Place) (c : Char) (rest : List Char) :
    Except PatternError (Place × List Char) :=
  match c with
  | '(' => do
      let (opening, rest) ← readOpening s.extended s.names rest
      .ok (s.enter opening, rest)
  | ')' => do .ok (← s.leave, rest)
  | '|' => .ok (s.branch, rest)
  | '[' => do
      let (p, rest) ← readClass s.extended rest
      .ok (s.add p, rest)
  | '?' => repeated 0 (some 1) rest
  | '*' => repeated 0 none rest
  | '+' => repeated 1 none rest
  | '\x7b' => do
      if s.items.isEmpty then .error .nothingToRepeat
      let ((least, most), rest) ← readCounts s.extended rest
      repeated least most (skip s.extended rest)
  | '\\' => do
      let (a, rest) ← readEscape s.extended rest
      .ok (s.add a.toPattern, rest)
  | '.' => .ok (s.add .dot, rest)
  | '^' => .ok (s.add (.anchor .lineStart), rest)
  | '$' => .ok (s.add (.anchor .lineEnd), rest)
  | c => .ok (s.add (.literal (.plain c)), rest)
where
  /-- Repeat the last item, with the greed that the text says. -/
  repeated (least : Nat) (most : Option Nat) (rest : List Char) :
      Except PatternError (Place × List Char) := do
    let (greedy, rest) := takeGreed rest
    .ok (← s.iterate least most greedy, rest)

/-- Read a pattern to the end of the text.  Every step takes a character, so the length of the text
bounds their number. -/
def Place.run (bound : Nat) (s : Place) (cs : List Char) : Except PatternError Pattern :=
  match bound, skip s.extended cs with
  | _, [] => if s.groups.isEmpty then .ok s.contents else .error .groupUnclosed
  | 0, _ => .error .groupUnclosed
  | bound + 1, c :: rest => do
      let (s, rest) ← s.step c rest
      s.run bound rest

/-- The deepest nesting that a pattern may have. -/
def maxHeight : Nat := 250

/-- The pattern that a text writes. -/
def Pattern.parse (text : String) : Except PatternError Pattern := do
  let cs := text.toList
  let p ← Place.run cs.length ⟨false, [], [], [], 0, []⟩ cs
  if p.height ≤ maxHeight then .ok p else .error .tooDeep

end Fingerprinting.Regex
