/-
# Gzip

One gzip member: a header, a compressed stream, and a checksum and length of what it holds.
`Gzip.decompress?` reads the first member of a byte string and leaves what follows; `Gzip.compress`
writes a member of stored blocks.
-/
import Fingerprinting.Gzip.Inflate

namespace Fingerprinting.Gzip

/-! ## Checksums -/

/-- One bit of the checksum: the register shifted, and reduced by the polynomial when a one falls
out. -/
def crcBit (r : UInt32) : UInt32 := if r &&& 1 = 1 then (r >>> 1) ^^^ 0xEDB88320 else r >>> 1

/-- One byte of the checksum. -/
def crcByte (r : UInt32) (b : UInt8) : UInt32 :=
  (List.range 8).foldl (fun r _ => crcBit r) (r ^^^ b.toUInt32)

/-- The CRC-32 checksum. -/
def crc32 (b : Bytes) : UInt32 := b.foldl crcByte 0xFFFFFFFF ^^^ 0xFFFFFFFF

/-- A number as `n` bytes, the lowest first. -/
def littleEndian : Nat → Nat → Bytes
  | 0, _ => []
  | n + 1, x => (x % 256).toUInt8 :: littleEndian n (x / 256)

/-! ## Headers -/

/-- The two bytes that every member begins with. -/
def magic : Bytes := [0x1F, 0x8B]

/-- Whether a byte string begins like a member. -/
def isGzip (b : Bytes) : Bool := magic.isPrefixOf b

/-- Drop a field that a zero byte ends. -/
def dropField? : Bytes → Option Bytes
  | [] => none
  | b :: rest => if b = 0 then some rest else dropField? rest

/-- What follows a member's header.  The optional fields are a counted one, a name, a comment and a
checksum of the header itself. -/
def body? (b : Bytes) : Option Bytes :=
  match b with
  | a :: m :: method :: flags :: _ :: _ :: _ :: _ :: _ :: _ :: rest => do
      let has (i : Nat) : Bool := flags.toNat.testBit i
      if [a, m] ≠ magic ∨ method ≠ 8 ∨ 32 ≤ flags.toNat then none
      let rest ←
        if has 2 then
          match rest with
          | lo :: hi :: rest =>
              let n := lo.toNat + 256 * hi.toNat
              if rest.length < n then none else some (rest.drop n)
          | _ => none
        else some rest
      let rest ← if has 3 then dropField? rest else some rest
      let rest ← if has 4 then dropField? rest else some rest
      if has 1 then
        match rest with
        | lo :: hi :: rest' =>
            let header := b.take (b.length - rest.length)
            if lo.toNat + 256 * hi.toNat = (crc32 header).toNat % 65536 then some rest' else none
        | _ => none
      else some rest
  | _ => none

/-! ## Members -/

/-- The bytes that the first member holds. -/
def decompress? (b : Bytes) : Option Bytes := do
  let body ← body? b
  let (out, rest) ← inflate? (bitsOf body)
  let (check, rest) ← takeBytes? 4 (align rest)
  let (size, _) ← takeBytes? 4 rest
  if check = littleEndian 4 (crc32 out).toNat ∧ size = littleEndian 4 out.length then some out
  else none

/-- A stored block; `last` marks the last one. -/
def storedBlock (last : Bool) (b : Bytes) : Bytes :=
  (if last then 1 else 0) :: (littleEndian 2 b.length ++ littleEndian 2 (65535 - b.length) ++ b)

/-- Stored blocks for some bytes; `blocks` is how many are full. -/
def storedBlocks : Nat → Bytes → Bytes
  | 0, b => storedBlock true b
  | n + 1, b => storedBlock false (b.take 65535) ++ storedBlocks n (b.drop 65535)

/-- A member that holds some bytes. -/
def compress (b : Bytes) : Bytes :=
  magic ++ [8, 0, 0, 0, 0, 0, 0, 255] ++ storedBlocks (b.length / 65535) b ++
    littleEndian 4 (crc32 b).toNat ++ littleEndian 4 b.length

end Fingerprinting.Gzip
