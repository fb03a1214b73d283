/-
# Reading JSON

`Document.ofJson?` reads one JSON value and nothing after it.  The grammar is strict: no comments,
no trailing commas, no leading zeros, no control characters in strings.

A string that is no text, a number too large for a double and a value nested too deeply become
`Document.unreadable`; they are errors only for a reader that needs them.
-/
import Fingerprinting.Document
import Fingerprinting.Text.Utf8

namespace Fingerprinting.Json

/-! ## Bytes -/

/-- The byte of an ASCII character. -/
def ascii (c : Char) : UInt8 := c.toUInt8

/-- Drop the blanks between tokens. -/
def skipBlanks (b : Bytes) : Bytes :=
  b.dropWhile fun x => x == 0x20 || x == 0x09 || x == 0x0A || x == 0x0D

/-- What follows a fixed text. -/
def expect? (lead : String) (b : Bytes) : Option Bytes :=
  let lead := Utf8.encode lead
  if lead.isPrefixOf b then some (b.drop lead.length) else none

/-- The value of a digit. -/
def digit? (b : UInt8) : Option Nat :=
  if 0x30 ≤ b ∧ b ≤ 0x39 then some (b.toNat - 0x30) else none

/-- The value of a hexadecimal digit. -/
def hexDigit? (b : UInt8) : Option Nat := Text.hexDigitValue? (Char.ofNat b.toNat)

/-! ## Strings -/

/-- The value of four hexadecimal digits. -/
def fourHex? : Bytes → Option (Nat × Bytes)
  | a :: b :: c :: d :: rest => do
      let a ← hexDigit? a
      let b ← hexDigit? b
      let c ← hexDigit? c
      let d ← hexDigit? d
      some (((a * 16 + b) * 16 + c) * 16 + d, rest)
  | _ => none

/-- The byte that a one-letter escape stands for. -/
def shortEscape? (b : UInt8) : Option UInt8 :=
  if b = ascii '"' || b = ascii '\\' || b = ascii '/' then some b
  else if b = ascii 'b' then some 0x08
  else if b = ascii 'f' then some 0x0C
  else if b = ascii 'n' then some 0x0A
  else if b = ascii 'r' then some 0x0D
  else if b = ascii 't' then some 0x09
  else none

/-- One piece of a string: bytes as they are, or a unit of sixteen bits. -/
inductive Piece where
  | byte (b : UInt8)
  | unit (n : Nat)
deriving Repr

/-- The pieces of a string after its opening quote, and the text after the closing one. -/
def pieces? : Nat → Bytes → Option (List Piece × Bytes)
  | 0, _ => none
  | _ + 1, [] => none
  | bound + 1, b :: rest =>
      if b = ascii '"' then some ([], rest)
      else if b = ascii '\\' then
        match rest with
        | [] => none
        | e :: rest =>
            if e = ascii 'u' then do
              let (n, rest) ← fourHex? rest
              let (ps, rest) ← pieces? bound rest
              some (.unit n :: ps, rest)
            else do
              let x ← shortEscape? e
              let (ps, rest) ← pieces? bound rest
              some (.byte x :: ps, rest)
      else if b < 0x20 then none
      else do
        let (ps, rest) ← pieces? bound rest
        some (.byte b :: ps, rest)

/-- The bytes of a string: two halves of a surrogate pair make one character, a half on its own
none. -/
def pieceBytes? : List Piece → Option Bytes
  | [] => some []
  | .byte b :: rest => do some (b :: (← pieceBytes? rest))
  | .unit hi :: .unit lo :: rest =>
      if 0xD800 ≤ hi ∧ hi < 0xDC00 ∧ 0xDC00 ≤ lo ∧ lo < 0xE000 then do
        let c := Char.ofNat (0x10000 + (hi - 0xD800) * 0x400 + (lo - 0xDC00))
        some (String.utf8EncodeChar c ++ (← pieceBytes? rest))
      else if 0xD800 ≤ hi ∧ hi < 0xE000 then none
      else do some (String.utf8EncodeChar (Char.ofNat hi) ++ (← pieceBytes? (.unit lo :: rest)))
  | .unit n :: rest =>
      if 0xD800 ≤ n ∧ n < 0xE000 then none
      else do some (String.utf8EncodeChar (Char.ofNat n) ++ (← pieceBytes? rest))

/-- The document of a string's pieces. -/
def stringDocument (ps : List Piece) : Document :=
  match (pieceBytes? ps).bind Utf8.decode? with
  | some s => .text s
  | none => .unreadable

/-! ## Numbers -/

/-- A run of digits and what follows it. -/
def takeDigits (b : Bytes) : List Nat × Bytes :=
  ((b.takeWhile fun x => (digit? x).isSome).filterMap digit?,
    b.dropWhile fun x => (digit? x).isSome)

/-- A significand of at most 64 bits, and how many of the digits did not fit it. -/
def significand (acc : Nat) : List Nat → Nat × Nat
  | [] => (acc, 0)
  | d :: rest =>
      if acc * 10 + d ≤ Text.max64 then significand (acc * 10 + d) rest
      else (acc, rest.length + 1)

/-- The power of ten as a double. -/
def powerOfTen (e : Nat) : Float := Float.ofScientific 1 false e

/-- A significand times a power of ten, scaled in steps that a double holds; nothing when it is too
large. -/
def scale : Nat → Float → Int → Option Float
  | 0, x, _ => some x
  | bound + 1, x, e =>
      if e.natAbs ≤ 308 then
        if 0 ≤ e then
          let y := x * powerOfTen e.natAbs
          if y.isInf then none else some y
        else some (x / powerOfTen e.natAbs)
      else if x == 0 then some x
      else if 0 ≤ e then none
      else scale bound (x / powerOfTen 308) (e + 308)

/-- The double of a number's digits before and after the point and of its exponent.  Digits beyond
64 bits are dropped, and the significand is scaled once. -/
def double? (negative : Bool) (before after : List Nat) (exponent : Int) : Option Float := do
  let (s, dropped) := significand 0 before
  let (s, late) := significand s after
  let used := after.length - late
  let e : Int := exponent + dropped - used
  let e := max (min e Text.maxSigned32) (-Text.maxSigned32 - 1)
  let x ← scale 8 s.toUInt64.toFloat e
  some (if negative then -x else x)

/-- The exponent of a number, zero when it has none. -/
def exponent? (b : Bytes) : Option (Option Int × Bytes) :=
  match b with
  | e :: rest =>
      if e = ascii 'e' || e = ascii 'E' then
        let (negative, rest) :=
          match rest with
          | s :: more =>
              if s = ascii '+' then (false, more)
              else if s = ascii '-' then (true, more)
              else (false, rest)
          | [] => (false, rest)
        match takeDigits rest with
        | ([], _) => none
        | (ds, rest) =>
            let n : Nat := ds.foldl (fun n d => n * 10 + d) 0
            some (some (if negative then -(n : Int) else n), rest)
      else some (none, b)
  | [] => some (none, b)

/-- The document of a number's parts. -/
def numberDocument (negative : Bool) (before : List Nat) (after : Option (List Nat))
    (exponent : Option Int) : Document :=
  let whole := before.foldl (fun n d => n * 10 + d) 0
  if after.isNone && exponent.isNone && whole ≤ Text.max64 then
    if !negative then .number (.whole whole)
    else if whole = 0 || Text.maxSigned64 + 1 < whole then
      .number (.double (-whole.toUInt64.toFloat))
    else .number (.whole (-(whole : Int)))
  else
    let e := exponent.getD 0
    let digits := before ++ after.getD []
    if Text.max32 / 2 < e.natAbs then
      if 0 ≤ e ∧ digits.any (· != 0) then .unreadable
      else .number (.double (if negative then -0.0 else 0.0))
    else
      match double? negative before (after.getD []) e with
      | some x => .number (.double x)
      | none => .unreadable

/-- A number. -/
def number? (b : Bytes) : Option (Document × Bytes) := do
  let (negative, b) :=
    match b with
    | s :: rest => if s = ascii '-' then (true, rest) else (false, b)
    | [] => (false, b)
  let (before, b) := takeDigits b
  match before with
  | [] => none
  | 0 :: _ :: _ => none
  | _ => pure ()
  let (after, b) ←
    match b with
    | p :: rest =>
        if p = ascii '.' then
          match takeDigits rest with
          | ([], _) => none
          | (ds, rest) => some (some ds, rest)
        else some (none, b)
    | [] => some (none, b)
  let (e, b) ← exponent? b
  some (numberDocument negative before after e, b)

/-! ## Values -/

/-- The deepest nesting of lists and maps that is read. -/
def maxDepth : Nat := 127

/-- A list or map at some depth. -/
def nested (depth : Nat) (d : Document) : Document := if depth < maxDepth then d else .unreadable

mutual

/-- A value inside `depth` lists and maps, after blanks. -/
def value? (bound depth : Nat) (b : Bytes) : Option (Document × Bytes) :=
  match bound with
  | 0 => none
  | bound + 1 =>
      match skipBlanks b with
      | [] => none
      | c :: rest =>
          if c = ascii '"' then do
            let (ps, rest) ← pieces? (rest.length + 1) rest
            some (stringDocument ps, rest)
          else if c = ascii '[' then do
            let (items, rest) ← items? bound (depth + 1) true rest
            some (nested depth (.list none items), rest)
          else if c = ascii '\x7b' then do
            let (entries, rest) ← entries? bound (depth + 1) true rest
            some (nested depth (.map none entries), rest)
          else if c = ascii 'n' then do some (.null, ← expect? "null" (c :: rest))
          else if c = ascii 't' then do some (.bool true, ← expect? "true" (c :: rest))
          else if c = ascii 'f' then do some (.bool false, ← expect? "false" (c :: rest))
          else number? (c :: rest)

/-- The items of a list up to its closing bracket; `first` says that none has been read. -/
def items? (bound depth : Nat) (first : Bool) (b : Bytes) : Option (List Document × Bytes) :=
  match bound with
  | 0 => none
  | bound + 1 =>
      match skipBlanks b with
      | [] => none
      | c :: rest =>
          if c = ascii ']' then some ([], rest)
          else do
            let b ← if first then some (c :: rest) else if c = ascii ',' then some rest else none
            let (d, b) ← value? bound depth b
            let (ds, b) ← items? bound depth false b
            some (d :: ds, b)

/-- The entries of a map up to its closing brace; `first` says that none has been read. -/
def entries? (bound depth : Nat) (first : Bool) (b : Bytes) :
    Option (List (Document × Document) × Bytes) :=
  match bound with
  | 0 => none
  | bound + 1 =>
      match skipBlanks b with
      | [] => none
      | c :: rest =>
          if c = ascii '\x7d' then some ([], rest)
          else do
            let b ← if first then some (c :: rest) else if c = ascii ',' then some rest else none
            let b ← expect? "\"" (skipBlanks b)
            let (ps, b) ← pieces? (b.length + 1) b
            let b ← expect? ":" (skipBlanks b)
            let (d, b) ← value? bound depth b
            let (ds, b) ← entries? bound depth false b
            some ((stringDocument ps, d) :: ds, b)

end

end Fingerprinting.Json

namespace Fingerprinting

/-- The document that a JSON text writes. -/
def Document.ofJson? (b : Bytes) : Option Document := do
  let (d, rest) ← Json.value? (2 * b.length + 2) 0 b
  if (Json.skipBlanks rest).isEmpty then some d else none

end Fingerprinting
