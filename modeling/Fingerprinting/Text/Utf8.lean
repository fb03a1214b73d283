/-
# UTF-8

Byte strings are lists of bytes and text is a list of characters.  `Utf8.scan` reads a byte string
as a sequence of characters and ill-formed runs; strict and lossy decoding are two views of that one
scan:

* `Utf8.decode?` answers only when no run is ill-formed;
* `Utf8.lossy` puts U+FFFD in the place of each ill-formed run.

A run is the longest beginning of a character that the next byte cannot continue, or a single byte
that begins no character.
-/

namespace Fingerprinting

/-- Byte strings. -/
abbrev Bytes := List UInt8

namespace Utf8

/-! ## Reading -/

/-- A character whose first bytes have been read: how many continuation bytes it still needs, the
bounds on the next one, and the bits so far. -/
structure Pending where
  owed : Nat
  low : UInt8
  high : UInt8
  value : Nat
deriving DecidableEq, Repr

/-- What one more byte leads to. -/
inductive Reading where
  /-- The byte completes a character. -/
  | char (c : Char)
  /-- More bytes are needed. -/
  | more (p : Pending)
  /-- The byte cannot stand here. -/
  | broken
deriving Repr

/-- Read the first byte of a character. -/
def first (b : UInt8) : Reading :=
  if b < 0x80 then .char (Char.ofNat b.toNat)
  else if b < 0xC2 then .broken
  else if b < 0xE0 then .more ⟨1, 0x80, 0xBF, b.toNat - 0xC0⟩
  else if b < 0xF0 then
    .more ⟨2, if b = 0xE0 then 0xA0 else 0x80, if b = 0xED then 0x9F else 0xBF, b.toNat - 0xE0⟩
  else if b < 0xF5 then
    .more ⟨3, if b = 0xF0 then 0x90 else 0x80, if b = 0xF4 then 0x8F else 0xBF, b.toNat - 0xF0⟩
  else .broken

/-- Read a continuation byte. -/
def Pending.next (p : Pending) (b : UInt8) : Reading :=
  if p.low ≤ b ∧ b ≤ p.high then
    let value := p.value * 64 + (b.toNat - 0x80)
    if p.owed ≤ 1 then .char (Char.ofNat value) else .more ⟨p.owed - 1, 0x80, 0xBF, value⟩
  else .broken

/-- Read a byte string from inside a character, if one is pending.  `none` stands for an ill-formed
run. -/
def scanFrom : Option Pending → Bytes → List (Option Char)
  | none, [] => []
  | some _, [] => [none]
  | none, b :: rest =>
      match first b with
      | .char c => some c :: scanFrom none rest
      | .more p => scanFrom (some p) rest
      | .broken => none :: scanFrom none rest
  | some p, b :: rest =>
      match p.next b with
      | .char c => some c :: scanFrom none rest
      | .more q => scanFrom (some q) rest
      | .broken =>
          match first b with
          | .char c => none :: some c :: scanFrom none rest
          | .more q => none :: scanFrom (some q) rest
          | .broken => none :: none :: scanFrom none rest

/-- The characters and ill-formed runs of a byte string, in order. -/
def scan (b : Bytes) : List (Option Char) := scanFrom none b

/-! ## Decoding and encoding -/

/-- The character that stands for an ill-formed run. -/
def replacement : Char := '\uFFFD'

/-- The text of a well-formed byte string. -/
def decode? (b : Bytes) : Option String :=
  let runs := scan b
  if runs.all Option.isSome then some (String.ofList (runs.filterMap id)) else none

/-- The text of any byte string. -/
def lossy (b : Bytes) : String := String.ofList ((scan b).map fun r => r.getD replacement)

/-- The bytes of a text. -/
def encode (s : String) : Bytes := s.toList.flatMap String.utf8EncodeChar

/-- The number of bytes of a text. -/
def length (s : String) : Nat := (encode s).length

@[simp] theorem encode_empty : encode "" = [] := rfl

/-- Encoding respects concatenation. -/
@[simp] theorem encode_append (s t : String) : encode (s ++ t) = encode s ++ encode t := by
  simp [encode]

end Utf8

end Fingerprinting
