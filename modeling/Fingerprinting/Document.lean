/-
# Documents

A tree of lists and maps over scalars, which is what a corpus in a text format says before its
records are looked for.  Readers of formats make documents; `Document.string?`, `Document.slots?`
and the like read typed values from them and answer nothing when the document has another shape.

A scalar may be left untyped.  Some formats write `10` and `ten` in the same way and let the field
that is being read decide; `Document.scalar` keeps the tag, the style and the text of such a scalar,
and a field of some type reads the texts that plain scalars of the type have.
-/
import Fingerprinting.Text.Numeral

namespace Fingerprinting

/-- A number: whole, or a double. -/
inductive Number where
  | whole (n : Int)
  | double (x : Float)
deriving Repr, Inhabited, BEq

/-- How a scalar is written: as it is, between quotes, or as a block of lines. -/
inductive ScalarStyle where
  | plain
  | quoted
  | literal
  | folded
deriving DecidableEq, Repr, Inhabited

/-- A tree of lists and maps over scalars. -/
inductive Document where
  | null
  | bool (b : Bool)
  | number (n : Number)
  | text (s : String)
  /-- A scalar whose type its reader decides. -/
  | scalar (tag : Option String) (style : ScalarStyle) (text : String)
  /-- A scalar without a value, which does no harm as long as nobody reads it. -/
  | unreadable
  | list (tag : Option String) (items : List Document)
  | map (tag : Option String) (entries : List (Document × Document))
deriving Inhabited

namespace Document

/-! ## Plain scalars -/

/-- The plain spellings of nothing. -/
def isNullText (s : String) : Bool := ["null", "Null", "NULL", "~"].contains s

/-- The truth value of a plain scalar. -/
def boolText? (s : String) : Option Bool :=
  if ["true", "True", "TRUE"].contains s then some true
  else if ["false", "False", "FALSE"].contains s then some false
  else none

/-- The value of an octal or binary digit. -/
def smallDigit? (base : Nat) (c : Char) : Option Nat :=
  (Text.digitValue? c).filter (· < base)

/-- Digits with leading zeros, which do not make a number. -/
def isPadded (cs : List Char) : Bool :=
  match cs with
  | '+' :: rest => padded rest
  | '-' :: rest => padded rest
  | _ => padded cs
where
  /-- A zero and further digits. -/
  padded : List Char → Bool
    | '0' :: c :: rest => (c :: rest).all fun d => (Text.digitValue? d).isSome
    | _ => false

/-- The value of digits in the base that their lead announces: `0x`, `0o`, `0b` or none. -/
def magnitudeText? : List Char → Option Nat
  | '0' :: 'x' :: rest => Text.magnitude? Text.hexDigitValue? 16 rest
  | '0' :: 'o' :: rest => Text.magnitude? (smallDigit? 8) 8 rest
  | '0' :: 'b' :: rest => Text.magnitude? (smallDigit? 2) 2 rest
  | cs => Text.magnitude? Text.digitValue? 10 cs

/-- The whole number of a plain scalar. -/
def wholeText? (s : String) : Option Int :=
  let cs := s.toList
  if isPadded cs then none
  else
    match cs with
    | '+' :: rest => (magnitudeText? rest).map Int.ofNat
    | '-' :: rest => (magnitudeText? rest).map fun n => -(n : Int)
    | _ => (magnitudeText? cs).map Int.ofNat

/-- The digits at the head of a text, and the rest. -/
def takeDigits (cs : List Char) : List Char × List Char :=
  (cs.takeWhile fun c => (Text.digitValue? c).isSome,
    cs.dropWhile fun c => (Text.digitValue? c).isSome)

/-- The least number that is too large for a double. -/
def doubleLimit : Nat := Nat.pow 2 1024 - Nat.pow 2 970

/-- Whether `n · 10 ^ e` is small enough for a double. -/
def fitsDouble (n : Nat) (e : Int) : Bool :=
  let magnitude : Int := (Text.decimal n).length + e
  if n = 0 ∨ magnitude < 300 then true
  else if 310 < magnitude then false
  else if 0 ≤ e then n * Nat.pow 10 e.toNat < doubleLimit
  else n < doubleLimit * Nat.pow 10 (-e).toNat

/-- The exponent that follows the digits of a decimal fraction, zero when there is none. -/
def exponentText? : List Char → Option Int
  | [] => some 0
  | c :: rest =>
      if c == 'e' || c == 'E' then
        match rest with
        | '+' :: more => (Text.magnitude? Text.digitValue? 10 more).map Int.ofNat
        | '-' :: more => (Text.magnitude? Text.digitValue? 10 more).map fun n => -(n : Int)
        | _ => (Text.magnitude? Text.digitValue? 10 rest).map Int.ofNat
      else none

/-- Whether a text is a decimal fraction that fits a double: digits with at most one point among
them, and an exponent. -/
def isDecimalFraction (cs : List Char) : Bool :=
  let cs :=
    match cs with
    | '+' :: rest => rest
    | '-' :: rest => rest
    | _ => cs
  let (before, rest) := takeDigits cs
  let (after, rest) :=
    match rest with
    | '.' :: rest => takeDigits rest
    | _ => ([], rest)
  match Text.magnitude? Text.digitValue? 10 (before ++ after), exponentText? rest with
  | some n, some e => fitsDouble n (e - after.length)
  | _, _ => false

/-- Whether a scalar is a decimal fraction or one of the special numbers. -/
def isFractionText (s : String) : Bool :=
  let special := [".inf", ".Inf", ".INF", "-.inf", "-.Inf", "-.INF", "+.inf", "+.Inf", "+.INF",
    ".nan", ".NaN", ".NAN"]
  special.contains s || isDecimalFraction s.toList

/-- Whether a whole number has at most 128 bits. -/
def isWide (n : Int) : Bool := -(Text.maxSigned128 : Int) - 1 ≤ n && n ≤ Text.max128

/-- Whether a whole number has at most 64 bits. -/
def isNarrow (n : Int) : Bool := -(Text.maxSigned64 : Int) - 1 ≤ n && n ≤ Text.max64

/-- Whether a plain scalar is a number.  Digits with leading zeros are none. -/
def isNumberText (s : String) : Bool :=
  (wholeText? s).any isWide || (!isPadded s.toList && isFractionText s)

/-- Whether a plain scalar is text and nothing else. -/
def isOnlyText (s : String) : Bool :=
  s != "" && !isNullText s && (boolText? s).isNone && !isNumberText s

/-! ## Scalars -/

/-- The text of a scalar. -/
def string? : Document → Option String
  | .text s => some s
  | .scalar _ _ s => some s
  | _ => none

/-- The tag of a type. -/
def typeTag (type : String) : String := "tag:yaml.org,2002:" ++ type

/-- Whether a tag is one of the application's own, which says nothing about a scalar's type. -/
def isOwnTag (tag : String) : Bool := tag.toList.head? == some '!'

/-- Whether a plain scalar is a whole number that is too large to have a value. -/
def isTooLarge (s : String) : Bool := (wholeText? s).any fun n => isWide n && !isNarrow n

/-- Whether a scalar has a value when nothing is expected of it: its tag must be known and fit its
text. -/
def hasValue (tag : Option String) (style : ScalarStyle) (s : String) : Bool :=
  match tag with
  | none => style != .plain || !isTooLarge s
  | some t =>
      if t = typeTag "bool" then (boolText? s).isSome
      else if t = typeTag "int" then (wholeText? s).any isNarrow
      else if t = typeTag "float" then isFractionText s
      else if t = typeTag "null" then isNullText s
      else !isOwnTag t

/-- The text of a scalar that has no other reading. -/
def onlyText? : Document → Option String
  | .text s => some s
  | .scalar none style s => if style != .plain || isOnlyText s then some s else none
  | .scalar (some t) _ s =>
      if (["bool", "int", "float", "null"].map typeTag).contains t || isOwnTag t then none
      else some s
  | _ => none

/-- Whether the style of a scalar lets it be read as a type: plain scalars may be of every type, and
blocks of lines are of the type that their tag names. -/
def readsAs (type : String) (tag : Option String) (style : ScalarStyle) : Bool :=
  style == .plain || (style == .literal && tag == some (typeTag type))

/-- A truth value. -/
def bool? : Document → Option Bool
  | .bool b => some b
  | .scalar tag style s => if readsAs "bool" tag style then boolText? s else none
  | _ => none

/-- A whole number. -/
def whole? : Document → Option Int
  | .number (.whole n) => some n
  | .scalar tag style s => if readsAs "int" tag style then wholeText? s else none
  | _ => none

/-- Whether a scalar is written with a minus sign. -/
def isNegated : Document → Bool
  | .scalar _ _ s => s.toList.head? == some '-'
  | _ => false

/-- A natural number of at most `bound`. -/
def natural? (bound : Nat) (d : Document) : Option Nat := do
  let n ← d.whole?
  if 0 ≤ n ∧ n ≤ bound ∧ !d.isNegated then some n.toNat else none

/-- A whole number from `-bound - 1` to `bound`. -/
def integer? (bound : Nat) (d : Document) : Option Int := do
  let n ← d.whole?
  if -(bound : Int) - 1 ≤ n ∧ n ≤ bound then some n else none

/-- A number as a double. -/
def double? : Document → Option Float
  | .number (.whole n) => some (Float.ofInt n)
  | .number (.double x) => some x
  | _ => none

/-- An empty plain scalar, which stands for an empty list, map or record. -/
def isBlank : Document → Bool
  | .scalar _ style s => style == .plain && s == ""
  | _ => false

/-- A value that may be absent. -/
def optional? {α : Type} (read : Document → Option α) (d : Document) : Option (Option α) :=
  match d with
  | .null => some none
  | .scalar none .plain s => if s == "" || isNullText s then some none else (read d).map some
  | .scalar (some t) .plain s =>
      if t = typeTag "null" then if isNullText s then some none else none
      else (read d).map some
  | d => (read d).map some

/-! ## Lists and maps -/

/-- The items of a list. -/
def items? (d : Document) : Option (List Document) :=
  match d with
  | .list _ items => some items
  | d => if d.isBlank then some [] else none

/-- A list of values. -/
def listOf? {α : Type} (read : Document → Option α) (d : Document) : Option (List α) := do
  (← d.items?).mapM read

/-- The entries of a map with texts as keys, in the order written. -/
def entries? (d : Document) : Option (List (String × Document)) :=
  match d with
  | .map _ entries => entries.mapM fun (k, v) => do some (← k.string?, v)
  | d => if d.isBlank then some [] else none

/-- A map from texts to values, in the order written. -/
def mapOf? {α : Type} (read : Document → Option α) (d : Document) : Option (List (String × α)) := do
  (← d.entries?).mapM fun (k, v) => do some (k, ← read v)

/-! ## Readability -/

mutual

/-- Whether everything below a document has a value.  What bears a tag of the application's own has
none. -/
def isReadable : Document → Bool
  | .unreadable => false
  | .scalar tag style s => hasValue tag style s
  | .list tag items => !tag.any isOwnTag && areReadable items
  | .map tag entries => !tag.any isOwnTag && entriesReadable entries
  | _ => true

/-- Whether everything below some documents has a value. -/
def areReadable : List Document → Bool
  | [] => true
  | d :: rest => d.isReadable && areReadable rest

/-- Whether everything below some entries has a value. -/
def entriesReadable : List (Document × Document) → Bool
  | [] => true
  | (k, v) :: rest => k.isReadable && v.isReadable && entriesReadable rest

end

/-! ## Records -/

/-- The one entry of a map under some spellings of a key; two are refused. -/
def slot? (entries : List (String × Document)) (names : List String) : Option (Option Document) :=
  match entries.filter fun e => names.contains e.1 with
  | [] => some none
  | [e] => some (some e.2)
  | _ => none

/-- The fields of a record, in the order of their names, each absent or present once.  Entries under
other names are left alone.  A record may also be written as the list of its fields in order. -/
def slots? (names : List (List String)) (d : Document) : Option (List (Option Document)) :=
  match d with
  | .list _ items =>
      if items.length ≤ names.length then
        some (items.map some ++ List.replicate (names.length - items.length) none)
      else none
  | d => do
      let entries ← d.entries?
      names.mapM (slot? entries)

/-- The fields of a record, and the entries of its map that belong to another record.  Such a record
is no list, and the other entries must all have values. -/
def sharedSlots? (names : List String) (d : Document) :
    Option (List (Option Document) × List (String × Document)) := do
  match d with
  | .list _ _ => none
  | d =>
      let entries ← d.entries?
      let others := entries.filter fun e => !names.contains e.1
      guard (others.all fun e => e.2.isReadable)
      some (← names.mapM fun n => slot? entries [n], others)

/-- A field that is read when present. -/
def orElse? {α : Type} (default : α) (read : Document → Option α) :
    Option Document → Option α
  | none => some default
  | some d => read d

/-- A field that must be present. -/
def required? {α : Type} (read : Document → Option α) : Option Document → Option α
  | none => none
  | some d => read d

/-- A field with a whole number of at most `bound`, zero when absent. -/
def count? (bound : Nat) : Option Document → Option Nat := orElse? 0 (natural? bound)

/-- A field that is true or false, false when absent. -/
def flag? : Option Document → Option Bool := orElse? false bool?

/-- One of some alternatives by name.  The name may also be the key of a map whose value is nothing.
-/
def oneOf? {α : Type} (alternatives : List (String × α)) : Document → Option α
  | .text s => alternatives.lookup s
  | .map _ [(.text s, .null)] => alternatives.lookup s
  | _ => none

/-- A list of texts that may be absent. -/
def strings? : Option Document → Option (List String) := orElse? [] (listOf? string?)

/-- A text that may be absent. -/
def text? : Option Document → Option String := orElse? "" string?

end Document

end Fingerprinting
