/-
# MurmurHash3

The 32-bit variant of MurmurHash3 with seed zero.  Whole words of four bytes are mixed in one after
the other, then what is left of the message, then its length.
-/
import Fingerprinting.Digest.Md5

namespace Fingerprinting.Murmur3

open Md5 (rotateLeft wordOf)

/-- Scramble a word of the message. -/
def scramble (k : UInt32) : UInt32 := rotateLeft (k * 0xcc9e2d51) 15 * 0x1b873593

/-- Mix a scrambled word into the hash. -/
def mix (h k : UInt32) : UInt32 := rotateLeft (h ^^^ scramble k) 13 * 5 + 0xe6546b64

/-- Mix a message into the hash; the last bytes are scrambled only. -/
def absorb (h : UInt32) : Bytes → UInt32
  | a :: b :: c :: d :: rest => absorb (mix h (wordOf a b c d)) rest
  | [a, b, c] => h ^^^ scramble (wordOf a b c 0)
  | [a, b] => h ^^^ scramble (wordOf a b 0 0)
  | [a] => h ^^^ scramble (wordOf a 0 0 0)
  | [] => h

/-- Spread every bit over the whole hash. -/
def finish (h : UInt32) : UInt32 :=
  let h := (h ^^^ (h >>> 16)) * 0x85ebca6b
  let h := (h ^^^ (h >>> 13)) * 0xc2b2ae35
  h ^^^ (h >>> 16)

/-- The hash of a message. -/
def hash (m : Bytes) : UInt32 := finish (absorb 0 m ^^^ m.length.toUInt32)

end Fingerprinting.Murmur3

namespace Fingerprinting

/-- The hash as a signed decimal number. -/
def mmh3 (m : Bytes) : String :=
  let n := (Murmur3.hash m).toNat
  Text.signedDecimal (if n ≤ Text.maxSigned32 then (n : Int) else (n : Int) - 0x100000000)

end Fingerprinting
