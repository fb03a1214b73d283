/-
# Base64

Decoding of the standard alphabet with padding.  The text must consist of whole groups of four
characters, the bits that padding makes superfluous must be zero, and no other character may occur.
-/
import Fingerprinting.Text.Utf8

namespace Fingerprinting.Base64

/-- The value of a character of the alphabet. -/
def value? (b : UInt8) : Option Nat :=
  if 0x41 ≤ b ∧ b ≤ 0x5A then some (b.toNat - 0x41)
  else if 0x61 ≤ b ∧ b ≤ 0x7A then some (b.toNat - 0x61 + 26)
  else if 0x30 ≤ b ∧ b ≤ 0x39 then some (b.toNat - 0x30 + 52)
  else if b = 0x2B then some 62
  else if b = 0x2F then some 63
  else none

/-- The padding character. -/
def padding : UInt8 := 0x3D

/-- The bytes of the last group, which padding may shorten. -/
def lastGroup? (a b c d : UInt8) : Option Bytes := do
  let a ← value? a
  let b ← value? b
  let first := (a * 4 + b / 16).toUInt8
  if c = padding then
    if d = padding && b % 16 = 0 then some [first] else none
  else
    let c ← value? c
    let second := (b % 16 * 16 + c / 4).toUInt8
    if d = padding then
      if c % 4 = 0 then some [first, second] else none
    else
      let d ← value? d
      some [first, second, (c % 4 * 64 + d).toUInt8]

/-- The bytes of a group that others follow. -/
def innerGroup? (a b c d : UInt8) : Option Bytes :=
  if c = padding || d = padding then none else lastGroup? a b c d

/-- The bytes that a text encodes. -/
def decode? : Bytes → Option Bytes
  | [] => some []
  | [a, b, c, d] => lastGroup? a b c d
  | a :: b :: c :: d :: rest => do some ((← innerGroup? a b c d) ++ (← decode? rest))
  | _ => none

end Fingerprinting.Base64
