/-
# Meaning of patterns

`Expr` is a pattern with its flags worked in: every class is a set of characters or of bytes, every
anchor a condition on a position.  `Expr.ofPattern` finds it, or says why the pattern has no
meaning.

In Unicode mode a class is a set of code points matched against their UTF-8 form; in byte mode it is
a set of bytes, and a class that only Unicode can describe is refused.
-/
import Fingerprinting.Regex.Parser
import Fingerprinting.Unicode.Folding
import Fingerprinting.Unicode.Script

namespace Fingerprinting.Regex

open Unicode (RangeSet)

/-! ## Expressions -/

/-- Conditions on a position between two bytes. -/
inductive Look where
  | start
  | finish
  | startLine
  | finishLine
  | startLineReturn
  | finishLineReturn
  | boundary (unicode : Bool)
  | notBoundary (unicode : Bool)
  | wordStart (unicode : Bool)
  | wordEnd (unicode : Bool)
  | wordStartHalf (unicode : Bool)
  | wordEndHalf (unicode : Bool)
deriving DecidableEq, Repr

/-- What a regular expression matches. -/
inductive Expr where
  | empty
  /-- One character of a set, in UTF-8. -/
  | char (set : RangeSet)
  /-- One byte of a set. -/
  | byte (set : RangeSet)
  | look (l : Look)
  | iterate (least : Nat) (most : Option Nat) (greedy : Bool) (body : Expr)
  | group (index : Nat) (body : Expr)
  | cat (a b : Expr)
  | alt (a b : Expr)
deriving Repr, DecidableEq

namespace Expr

/-- Whether every match takes at least one byte, as far as the shape tells. -/
def consumes : Expr → Bool
  | .empty => false
  | .char set => !set.isEmpty
  | .byte set => !set.isEmpty
  | .look _ => false
  | .iterate least _ _ body => least != 0 && body.consumes
  | .group _ body => body.consumes
  | .cat a b => a.consumes || b.consumes
  | .alt a b => a.consumes && b.consumes

/-- Whether no match takes a byte, as far as the shape tells. -/
def onlyEmpty : Expr → Bool
  | .empty => true
  | .char _ => false
  | .byte _ => false
  | .look _ => true
  | .iterate _ most _ body => most == some 0 || body.onlyEmpty
  | .group _ body => body.onlyEmpty
  | .cat a b => a.onlyEmpty && b.onlyEmpty
  | .alt a b => a.onlyEmpty && b.onlyEmpty

/-- A repetition in simplest form: no repetition of nothing, one of exactly once is the body, and a
body that only matches the empty text is taken at most once. -/
def iterated (least : Nat) (most : Option Nat) (greedy : Bool) (body : Expr) : Expr :=
  let once := body.onlyEmpty
  let least := if once then min least 1 else least
  let most := if once then some ((most.getD 1).min 1) else most
  match least, most with
  | 0, some 0 => .empty
  | 1, some 1 => body
  | _, _ => .iterate least most greedy body

end Expr

/-! ## Flags -/

/-- The flags in force at a place of a pattern. -/
structure Flags where
  caseInsensitive : Bool
  multiLine : Bool
  dotMatchesNewline : Bool
  swapGreed : Bool
  unicode : Bool
  carriageReturn : Bool
deriving DecidableEq, Repr

/-- The flags at the beginning of a pattern. -/
def Flags.initial : Flags := ⟨false, false, false, false, true, false⟩

/-- The flags with one changed; extended mode concerns reading only. -/
def Flags.put (f : Flags) : Flag × Bool → Flags
  | (.caseInsensitive, b) => { f with caseInsensitive := b }
  | (.multiLine, b) => { f with multiLine := b }
  | (.dotMatchesNewline, b) => { f with dotMatchesNewline := b }
  | (.swapGreed, b) => { f with swapGreed := b }
  | (.unicode, b) => { f with unicode := b }
  | (.carriageReturn, b) => { f with carriageReturn := b }
  | (.extended, _) => f

/-- The flags after a change. -/
def Flags.apply (f : Flags) (change : FlagChange) : Flags := change.foldl .put f

/-! ## Sets of classes -/

/-- The largest element a class may have. -/
def Flags.top (f : Flags) : Nat :=
  if f.unicode then RangeSet.topCodePoint else RangeSet.topByte

/-- The set with the other case of its letters, when case does not matter. -/
def Flags.fold (f : Flags) (s : RangeSet) : RangeSet :=
  if !f.caseInsensitive then s
  else if f.unicode then s.closeUnderFolding
  else
    let shifted (lo hi by_ : Nat) (up : Bool) : List (Nat × Nat) :=
      (s.ranges.map fun r => (max r.1 lo, min r.2 hi)).filterMap fun r =>
        if r.1 ≤ r.2 then some (if up then (r.1 + by_, r.2 + by_) else (r.1 - by_, r.2 - by_))
        else none
    .ofRanges (s.ranges ++ shifted 0x41 0x5A 32 true ++ shifted 0x61 0x7A 32 false)

/-- The complement of a set when `negated`. -/
def Flags.negate (f : Flags) (negated : Bool) (s : RangeSet) : RangeSet :=
  if negated then s.complement f.top else s

/-- The ASCII ranges of a named class. -/
def AsciiClass.ranges : AsciiClass → List (Nat × Nat)
  | .alnum => [(0x30, 0x39), (0x41, 0x5A), (0x61, 0x7A)]
  | .alpha => [(0x41, 0x5A), (0x61, 0x7A)]
  | .ascii => [(0x00, 0x7F)]
  | .blank => [(0x09, 0x09), (0x20, 0x20)]
  | .cntrl => [(0x00, 0x1F), (0x7F, 0x7F)]
  | .digit => [(0x30, 0x39)]
  | .graph => [(0x21, 0x7E)]
  | .lower => [(0x61, 0x7A)]
  | .print => [(0x20, 0x7E)]
  | .punct => [(0x21, 0x2F), (0x3A, 0x40), (0x5B, 0x60), (0x7B, 0x7E)]
  | .space => [(0x09, 0x0D), (0x20, 0x20)]
  | .upper => [(0x41, 0x5A)]
  | .word => [(0x30, 0x39), (0x41, 0x5A), (0x5F, 0x5F), (0x61, 0x7A)]
  | .xdigit => [(0x30, 0x39), (0x41, 0x46), (0x61, 0x66)]

/-- Code points with a decimal value. -/
def unicodeDigits : RangeSet := (Unicode.category? "nd").getD .empty

/-- Code points with the property White_Space. -/
def unicodeSpaces : RangeSet := (Unicode.property? "whitespace").getD .empty

/-- Code points that words are made of: letters, marks, digits, connectors and joiners. -/
def unicodeWords : RangeSet :=
  ([Unicode.property? "alphabetic", Unicode.category? "m", Unicode.category? "nd",
    Unicode.category? "pc", Unicode.property? "joincontrol"].filterMap id).foldl
    RangeSet.union RangeSet.empty

/-- The set of a class with a letter of its own. -/
def Flags.letterSet (f : Flags) : LetterClass → RangeSet
  | .digit => if f.unicode then unicodeDigits else .ofRanges AsciiClass.digit.ranges
  | .space => if f.unicode then unicodeSpaces else .ofRanges AsciiClass.space.ranges
  | .word => if f.unicode then unicodeWords else .ofRanges AsciiClass.word.ranges

/-- A property's name in lower case, without blanks, hyphens and underscores and without a leading
"is", except that `isc` keeps it. -/
def foldName (name : String) : String :=
  let fold (cs : List Char) : List Char :=
    (cs.filter fun c => c.toNat < 0x80 && c != ' ' && c != '_' && c != '-').map Text.asciiLowerChar
  match name.toList with
  | a :: b :: rest =>
      if fold [a, b] = ['i', 's'] then
        if fold rest = ['c'] then "isc" else String.ofList (fold rest)
      else String.ofList (fold (a :: b :: rest))
  | cs => String.ofList (fold cs)

/-- The set of a property that a name alone asks for: a binary property, a general category, a
script, or one of the sets `any`, `assigned` and `ascii`. -/
def namedSet? (name : String) : Option RangeSet :=
  if name == "any" then some (.range 0 RangeSet.topCodePoint)
  else if name == "assigned" then
    (Unicode.category? "cn").map (RangeSet.complement RangeSet.topCodePoint)
  else if name == "ascii" then some (.range 0 0x7F)
  else
    let general :=
      match Unicode.category? name with
      | some s => some s
      | none => Unicode.script? name
    if ["cf", "sc", "lc"].contains name then general
    else
      match Unicode.property? name with
      | some s => some s
      | none => general

/-- The set of a property. -/
def Property.set? (p : Property) : Option RangeSet :=
  match p.value with
  | none => namedSet? (foldName p.name)
  | some value =>
      let value := foldName value
      match foldName p.name with
      | "gc" => categoryValue value
      | "generalcategory" => categoryValue value
      | "sc" => Unicode.script? value
      | "script" => Unicode.script? value
      | "scx" => Unicode.scriptExtension? value
      | "scriptextensions" => Unicode.scriptExtension? value
      | _ => none
where
  /-- The set of a value of the property General_Category. -/
  categoryValue (value : String) : Option RangeSet :=
    if ["any", "assigned", "ascii"].contains value then namedSet? value
    else Unicode.category? value

/-- The set of a property, with case and negation. -/
def Flags.propertySet (f : Flags) (p : Property) : Except PatternError RangeSet :=
  if !f.unicode then .error .unicodeInByteMode
  else
    match p.set? with
    | some s => .ok (f.negate p.negated (f.fold s))
    | none => .error .unknownProperty

/-- The element of a class that a literal stands for. -/
def Flags.element (f : Flags) (l : Literal) : Except PatternError Nat :=
  if f.unicode then .ok l.char.toNat
  else if l.char.toNat < 0x80 || (l.hexPair && l.char.toNat ≤ RangeSet.topByte) then
    .ok l.char.toNat
  else .error .unicodeInByteMode

/-- The set of the inside of a bracketed class. -/
def Flags.classSet (f : Flags) : ClassSet → Except PatternError RangeSet
  | .nothing => .ok .empty
  | .range lo hi => do .ok (.range (← f.element lo) (← f.element hi))
  | .letter kind negated => .ok (f.negate negated (f.letterSet kind))
  | .ascii kind negated => .ok (f.negate negated (f.fold (.ofRanges kind.ranges)))
  | .property p => f.propertySet p
  | .bracket negated inner => do .ok (f.negate negated (f.fold (← f.classSet inner)))
  | .both a b => do .ok ((← f.classSet a).union (← f.classSet b))
  | .combine op a b => do
      let left := f.fold (← f.classSet a)
      let right := f.fold (← f.classSet b)
      match op with
      | .intersection => .ok (left.inter f.top right)
      | .difference => .ok (left.diff f.top right)
      | .symmetricDifference => .ok (left.symmDiff f.top right)

/-! ## Leaves -/

/-- One element of a class. -/
def Flags.oneOf (f : Flags) (s : RangeSet) : Expr := if f.unicode then .char s else .byte s

/-- The expression of a literal. -/
def Flags.literal (f : Flags) (l : Literal) : Expr :=
  let n := l.char.toNat
  if f.unicode then .char (f.fold (.singleton n))
  else if n < 0x80 then .byte (f.fold (.singleton n))
  else if l.hexPair && n ≤ RangeSet.topByte then .byte (.singleton n)
  else .char (.singleton n)

/-- The expression of a dot. -/
def Flags.dot (f : Flags) : Expr :=
  let excluded : RangeSet :=
    if f.dotMatchesNewline then .empty
    else if f.carriageReturn then .ofRanges [(0x0A, 0x0A), (0x0D, 0x0D)]
    else .singleton 0x0A
  f.oneOf (excluded.complement f.top)

/-- The condition of an anchor. -/
def Flags.look (f : Flags) : Anchor → Look
  | .lineStart =>
      if !f.multiLine then .start else if f.carriageReturn then .startLineReturn else .startLine
  | .lineEnd =>
      if !f.multiLine then .finish else if f.carriageReturn then .finishLineReturn else .finishLine
  | .textStart => .start
  | .textEnd => .finish
  | .wordBoundary => .boundary f.unicode
  | .notWordBoundary => .notBoundary f.unicode
  | .wordStart => .wordStart f.unicode
  | .wordEnd => .wordEnd f.unicode
  | .wordStartHalf => .wordStartHalf f.unicode
  | .wordEndHalf => .wordEndHalf f.unicode

/-! ## Patterns -/

/-- The expression of a pattern under some flags, with the flags that hold after it. -/
def Flags.expr (f : Flags) : Pattern → Except PatternError (Expr × Flags)
  | .empty => .ok (.empty, f)
  | .flags change => .ok (.empty, f.apply change)
  | .literal l => .ok (f.literal l, f)
  | .dot => .ok (f.dot, f)
  | .anchor a => .ok (.look (f.look a), f)
  | .letter kind negated => .ok (f.oneOf (f.negate negated (f.letterSet kind)), f)
  | .property p => do .ok (f.oneOf (← f.propertySet p), f)
  | .bracket negated set => do
      .ok (f.oneOf (f.negate negated (f.fold (← f.classSet set))), f)
  | .iterate least most greedy body => do
      let (e, g) ← f.expr body
      .ok (.iterated least most (greedy != g.swapGreed) e, g)
  | .group (.capture index) body => do
      let (e, _) ← f.expr body
      .ok (.group index e, f)
  | .group (.scope change) body => do
      let (e, _) ← (f.apply change).expr body
      .ok (e, f)
  | .cat a b => do
      let (x, f) ← f.expr a
      let (y, f) ← f.expr b
      .ok (.cat x y, f)
  | .alt a b => do
      let (x, f) ← f.expr a
      let (y, f) ← f.expr b
      .ok (.alt x y, f)

/-- The expression of a whole pattern. -/
def Expr.ofPattern (p : Pattern) : Except PatternError Expr := do
  let (e, _) ← Flags.initial.expr p
  .ok e

end Fingerprinting.Regex
