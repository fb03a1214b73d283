/-
# YAML tokens

A YAML text is read as a list of tokens.  Indentation opens and closes block collections, and a
scalar turns out to be a key when a colon follows it on its line; the token that marks it as a key
is then put before it.

* `Token.scan?` gives the tokens of a text, or nothing when the text has no tokens.
-/
import Fingerprinting.Text.Utf8
import Fingerprinting.Yaml.Scalar

namespace Fingerprinting.Yaml

/-- A token. -/
inductive Token where
  | version (major minor : Nat)
  | tagDirective (handle lead : String)
  | documentStart
  | documentEnd
  | blockSequenceStart
  | blockMappingStart
  | blockEnd
  | flowSequenceStart
  | flowSequenceEnd
  | flowMappingStart
  | flowMappingEnd
  | blockEntry
  | flowEntry
  | key
  | value
  | alias (name : String)
  | anchor (name : String)
  | tag (handle suffix : String)
  | scalar (style : ScalarStyle) (text : String)
deriving DecidableEq, Repr, Inhabited

/-! ## Scanners -/

/-- A place at which a key may have begun. -/
structure PossibleKey where
  /-- Whether only a key may stand there. -/
  required : Bool
  /-- How many tokens precede it. -/
  tokens : Nat
  index : Nat
  line : Nat
  column : Nat
deriving Repr

/-- A scanner: where it is, the tokens so far with the last one first, the columns of the open block
collections, and the possible key of each open flow collection with the innermost one first. -/
structure Scanner where
  place : Cursor
  tokens : List Token := []
  indent : Int := -1
  outer : List Int := []
  possible : Option PossibleKey := none
  outerPossible : List (Option PossibleKey) := []
  /-- Whether a key may begin here. -/
  keyAllowed : Bool := true
deriving Inhabited

namespace Scanner

/-- Whether a flow collection is open. -/
def inFlow (s : Scanner) : Bool := !s.outerPossible.isEmpty

/-- Add a token. -/
def push (s : Scanner) (t : Token) : Scanner := { s with tokens := t :: s.tokens }

/-- Insert a token after the first `n`. -/
def insertAfter (s : Scanner) (n : Nat) (t : Token) : Scanner :=
  { s with tokens := s.tokens.insertIdx (s.tokens.length - n) t }

/-- Go past `n` characters. -/
def skip (s : Scanner) (n : Nat) : Scanner := { s with place := s.place.skip n }

/-! ## Indentation -/

/-- Open a block collection at a column to the right of the open ones; its token comes after the
first `n`. -/
def roll (s : Scanner) (column : Nat) (n : Nat) (t : Token) : Scanner :=
  if s.inFlow || column ≤ s.indent then s
  else { s with indent := column, outer := s.indent :: s.outer }.insertAfter n t

/-- Close the block collections to the right of a column. -/
def unrollFrom (column : Int) (s : Scanner) : List Int → Scanner
  | [] => { s with outer := [] }
  | next :: outer =>
      if s.indent ≤ column then { s with outer := next :: outer }
      else unrollFrom column { s with indent := next, tokens := .blockEnd :: s.tokens } outer

/-- Close the block collections to the right of a column, unless a flow collection is open. -/
def unroll (s : Scanner) (column : Int) : Scanner :=
  if s.inFlow then s else unrollFrom column s s.outer

/-! ## Keys -/

/-- The number of characters within which a key must end. -/
def maxKey : Nat := 1024

/-- Whether a possible key has ended, because its line has or because it is too long. -/
def isStale (s : Scanner) (k : PossibleKey) : Bool :=
  k.line < s.place.line || k.index + maxKey < s.place.index

/-- Give up a possible key, unless it is required. -/
def dropStale? (s : Scanner) : Option PossibleKey → Option (Option PossibleKey)
  | none => some none
  | some k => if !s.isStale k then some (some k) else if k.required then none else some none

/-- Give up all possible keys that have ended. -/
def dropAllStale? (s : Scanner) : Option Scanner := do
  let possible ← s.dropStale? s.possible
  let outerPossible ← s.outerPossible.mapM s.dropStale?
  some { s with possible, outerPossible }

/-- Give up the innermost possible key, which must not be required. -/
def dropKey? (s : Scanner) : Option Scanner :=
  match s.possible with
  | some k => if k.required then none else some { s with possible := none }
  | none => some s

/-- Note that a key may begin here, if one is allowed. -/
def saveKey? (s : Scanner) : Option Scanner := do
  if !s.keyAllowed then some s
  else
    let required := !s.inFlow && s.indent == s.place.column
    let s ← s.dropKey?
    some
      { s with
        possible :=
          some ⟨required, s.tokens.length, s.place.index, s.place.line, s.place.column⟩ }

/-! ## Blanks -/

/-- Go past blanks, comments and line breaks.  A tab counts as a blank where no key may begin.  A
byte order mark may stand at the beginning of a line, where it takes a column. -/
def toNextToken : Nat → Scanner → Scanner
  | 0, s => s
  | fuel + 1, s =>
      let c := s.place
      let c := if c.column == 0 && c.sees '\uFEFF' then c.skip 1 else c
      let c := c.skipWhile fun x => x == ' ' || (x == '\t' && (s.inFlow || !s.keyAllowed))
      let c := c.skipComment
      match c.takeBreak? with
      | some (_, next) =>
          toNextToken fuel { s with place := next, keyAllowed := s.keyAllowed || !s.inFlow }
      | none => { s with place := c }

/-! ## Directives -/

/-- Read a number of at most nine digits. -/
def versionNumber? (c : Cursor) : Option (Nat × Cursor) := do
  let (digits, next) := c.span fun x => (Text.digitValue? x).isSome
  if 9 < digits.length then none else some (← Text.magnitude? Text.digitValue? 10 digits, next)

/-- Characters of tags.  Inside angle brackets, flow indicators may stand too. -/
def isTagChar (verbatim : Bool) (c : Char) : Bool :=
  isWord c || ";/?:@&=+$.%!~*'()".toList.contains c || (verbatim && ",[]".toList.contains c)

/-- The bytes of a run of percent escapes. -/
def percentRun : List Char → Bytes × List Char
  | '%' :: hi :: lo :: rest =>
      match Text.magnitude? Text.hexDigitValue? 16 [hi, lo] with
      | some n =>
          let (more, rest) := percentRun rest
          (n.toUInt8 :: more, rest)
      | none => ([], '%' :: hi :: lo :: rest)
  | cs => ([], cs)

/-- The text of a tag whose characters may be written as percent escapes. -/
def tagText? : Nat → List Char → Option (List Char)
  | 0, _ => none
  | _, [] => some []
  | fuel + 1, '%' :: rest => do
      let (bytes, rest) := percentRun ('%' :: rest)
      let text ← Utf8.decode? bytes
      if bytes.isEmpty then none else some (text.toList ++ (← tagText? fuel rest))
  | fuel + 1, c :: rest => do some (c :: (← tagText? fuel rest))

/-- Read characters of a tag after a beginning that has been read; there must be some. -/
def tagUri? (verbatim : Bool) (head : List Char) (c : Cursor) : Option (String × Cursor) := do
  let (chars, next) := c.span (isTagChar verbatim)
  if head.isEmpty && chars.isEmpty then none
  else some (String.ofList (head.drop 1 ++ (← tagText? (chars.length + 1) chars)), next)

/-- Read a handle such as `!` or `!name!`. -/
def tagHandle? (c : Cursor) : Option (List Char × Cursor) := do
  if !c.sees '!' then none
  else
    let (name, next) := (c.skip 1).span isWord
    if next.sees '!' then some ('!' :: name ++ ['!'], next.skip 1) else some ('!' :: name, next)

/-- Read a directive. -/
def directive? (c : Cursor) : Option (Token × Cursor) := do
  let (name, c) := (c.skip 1).span isWord
  if name.isEmpty || !c.endsWordAt 0 then none
  let c := c.skipWhile isBlank
  if String.ofList name = "YAML" then
    let (major, c) ← versionNumber? c
    if !c.sees '.' then none
    let (minor, c) ← versionNumber? (c.skip 1)
    some (.version major minor, ← c.endLine?)
  else if String.ofList name = "TAG" then
    let (handle, c) ← tagHandle? c
    if !(handle == ['!'] || (1 < handle.length && handle.getLast? == some '!')) then none
    if !c.seesBlank then none
    let (lead, c) ← tagUri? true [] (c.skipWhile isBlank)
    if !c.endsWordAt 0 then none
    some (.tagDirective (String.ofList handle) lead, ← c.endLine?)
  else none

/-! ## Properties of nodes -/

/-- Read the name of an anchor or an alias. -/
def name? (c : Cursor) : Option (String × Cursor) :=
  let (name, next) := c.span isWord
  if name.isEmpty || !(next.endsWordAt 0 || next.next?.any "?:,]\x7d%@`".toList.contains) then none
  else some (String.ofList name, next)

/-- Read a tag. -/
def tag? (inFlow : Bool) (c : Cursor) : Option (Token × Cursor) := do
  let (t, c) ←
    if c.at? 1 == some '<' then do
      let (suffix, c) ← tagUri? true [] (c.skip 2)
      if !c.sees '>' then none else some (Token.tag "" suffix, c.skip 1)
    else do
      let (handle, c) ← tagHandle? c
      if 1 < handle.length && handle.getLast? == some '!' then
        let (suffix, c) ← tagUri? false [] c
        some (Token.tag (String.ofList handle) suffix, c)
      else
        let (suffix, c) ← tagUri? false handle c
        some (if suffix = "" then Token.tag "" "!" else Token.tag "!" suffix, c)
  if c.endsWordAt 0 || (inFlow && c.sees ',') then some (t, c) else none

/-! ## Tokens -/

/-- Begin something that ends all block collections and cannot be a key. -/
def leaveBlocks? (s : Scanner) : Option Scanner := do
  let s ← (s.unroll (-1)).dropKey?
  some { s with keyAllowed := false }

/-- Add a token of `n` characters. -/
def take (s : Scanner) (n : Nat) (t : Token) : Scanner := (s.skip n).push t

/-- Open a flow collection. -/
def openFlow? (s : Scanner) (t : Token) : Option Scanner := do
  let s ← s.saveKey?
  some
    ({ s with
      outerPossible := s.possible :: s.outerPossible
      possible := none
      keyAllowed := true }.take 1 t)

/-- Close a flow collection. -/
def closeFlow? (s : Scanner) (t : Token) : Option Scanner := do
  let s ← s.dropKey?
  let s :=
    match s.outerPossible with
    | [] => s
    | possible :: outerPossible => { s with possible, outerPossible }
  some ({ s with keyAllowed := false }.take 1 t)

/-- Take the hyphen before an item. -/
def blockEntry? (s : Scanner) : Option Scanner := do
  if !s.inFlow && !s.keyAllowed then none
  let s := s.roll s.place.column s.tokens.length .blockSequenceStart
  let s ← s.dropKey?
  some ({ s with keyAllowed := true }.take 1 .blockEntry)

/-- Take the question mark before a key. -/
def key? (s : Scanner) : Option Scanner := do
  if !s.inFlow && !s.keyAllowed then none
  let s := s.roll s.place.column s.tokens.length .blockMappingStart
  let s ← s.dropKey?
  some ({ s with keyAllowed := !s.inFlow }.take 1 .key)

/-- Take the colon before a value. -/
def value? (s : Scanner) : Option Scanner := do
  match s.possible with
  | some k =>
      let s := s.insertAfter k.tokens .key
      let s := s.roll k.column k.tokens .blockMappingStart
      some ({ s with possible := none, keyAllowed := false }.take 1 .value)
  | none =>
      if !s.inFlow && !s.keyAllowed then none
      let s := s.roll s.place.column s.tokens.length .blockMappingStart
      some ({ s with keyAllowed := !s.inFlow }.take 1 .value)

/-- Take a node or a property of one, after which no key can begin. -/
def takeNode? (s : Scanner) (read : Cursor → Option (Token × Cursor)) : Option Scanner := do
  let s ← s.saveKey?
  let (t, place) ← read s.place
  some ({ s with place, keyAllowed := false }.push t)

/-- Take a block of lines. -/
def block? (s : Scanner) (literal : Bool) : Option Scanner := do
  let s ← s.dropKey?
  let (text, place) ← Yaml.block? literal s.indent s.place
  let style := if literal then ScalarStyle.literal else .folded
  some ({ s with place, keyAllowed := true }.push (.scalar style (String.ofList text)))

/-- Take a plain scalar. -/
def plain? (s : Scanner) : Option Scanner := do
  let s ← s.saveKey?
  let (text, broken, place) ← Yaml.plain? s.inFlow (s.indent + 1) s.place
  some ({ s with place, keyAllowed := broken }.push (.scalar .plain (String.ofList text)))

/-- Whether a plain scalar may begin here, with the character `x`. -/
def beginsPlain (s : Scanner) (x : Char) : Bool :=
  !"-?:,[]\x7b\x7d#&*!|>'\"%@`".toList.contains x ||
    (x == '-' && !(s.place.at? 1).any isBlank) ||
    (!s.inFlow && (x == '?' || x == ':') && !s.place.endsWordAt 1)

/-- Take the token that begins with the character `x`. -/
def token? (s : Scanner) (x : Char) : Option Scanner :=
  let c := s.place
  if c.column == 0 && x == '%' then do
    let s ← s.leaveBlocks?
    let (t, place) ← directive? s.place
    some ({ s with place }.push t)
  else if c.seesMarks '-' then do some ((← s.leaveBlocks?).take 3 .documentStart)
  else if c.seesMarks '.' then do some ((← s.leaveBlocks?).take 3 .documentEnd)
  else if x == '[' then s.openFlow? .flowSequenceStart
  else if x == '{' then s.openFlow? .flowMappingStart
  else if x == ']' then s.closeFlow? .flowSequenceEnd
  else if x == '}' then s.closeFlow? .flowMappingEnd
  else if x == ',' then do
    some ({ ← s.dropKey? with keyAllowed := true }.take 1 .flowEntry)
  else if x == '-' && c.endsWordAt 1 then s.blockEntry?
  else if x == '?' && (s.inFlow || c.endsWordAt 1) then s.key?
  else if x == ':' && (s.inFlow || c.endsWordAt 1) then s.value?
  else if x == '*' then
    s.takeNode? fun c => (name? (c.skip 1)).map fun (n, c) => (Token.alias n, c)
  else if x == '&' then
    s.takeNode? fun c => (name? (c.skip 1)).map fun (n, c) => (Token.anchor n, c)
  else if x == '!' then s.takeNode? (tag? s.inFlow)
  else if x == '|' && !s.inFlow then s.block? true
  else if x == '>' && !s.inFlow then s.block? false
  else if x == '\'' || x == '"' then
    s.takeNode? fun c => (quoted? x c).map fun (text, c) =>
      (.scalar .quoted (String.ofList text), c)
  else if s.beginsPlain x then s.plain?
  else none

/-- Take all tokens that follow. -/
def run? : Nat → Scanner → Option Scanner
  | 0, _ => none
  | fuel + 1, s => do
      let s := s.toNextToken (s.place.rest.length + 1)
      let s ← s.dropAllStale?
      let s := s.unroll s.place.column
      match s.place.next? with
      | none =>
          let line := if s.place.column == 0 then s.place.line else s.place.line + 1
          { s with place := { s.place with line, column := 0 } }.leaveBlocks?
      | some x => run? fuel (← s.token? x)

end Scanner

/-- The tokens of a text. -/
def Token.scan? (text : List Char) : Option (List Token) :=
  if text.all isAllowed then
    (Scanner.run? (text.length + 1) { place := { rest := text } }).map fun s => s.tokens.reverse
  else none

end Fingerprinting.Yaml
