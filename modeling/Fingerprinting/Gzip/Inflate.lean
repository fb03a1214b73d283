/-
# Inflate

Decompression of the DEFLATE format.  The compressed bytes are a list of bits, the lowest bit of
each byte first; every reader takes bits from the head and answers with the rest, so what follows a
compressed stream is what its reader leaves.

`inflate?` reads blocks until one is marked as the last.  A block is stored, or coded with fixed or
transmitted Huffman codes; back references copy from the bytes already written.
-/
import Fingerprinting.Text.Utf8

namespace Fingerprinting.Gzip

/-! ## Bits -/

/-- Bits, the next one first. -/
abbrev Bits := List Bool

/-- The bits of a byte, the lowest first. -/
def bitsOfByte (b : UInt8) : Bits := (List.range 8).map b.toNat.testBit

/-- The bits of a byte string. -/
def bitsOf (b : Bytes) : Bits := b.flatMap bitsOfByte

/-- The number that some bits write, the lowest first. -/
def value : Bits → Nat
  | [] => 0
  | b :: rest => (if b then 1 else 0) + 2 * value rest

/-- The number written in the next `n` bits. -/
def take? (n : Nat) (bits : Bits) : Option (Nat × Bits) :=
  let taken := bits.take n
  if taken.length < n then none else some (value taken, bits.drop n)

/-- The next bytes of a stream that stands at a byte's beginning. -/
def takeBytes? : Nat → Bits → Option (Bytes × Bits)
  | 0, bits => some ([], bits)
  | n + 1, bits => do
      let (b, bits) ← take? 8 bits
      let (bs, bits) ← takeBytes? n bits
      some (b.toUInt8 :: bs, bits)

/-- Skip to the beginning of a byte. -/
def align (bits : Bits) : Bits := bits.drop (bits.length % 8)

/-! ## Huffman codes -/

/-- A canonical code: how many codes there are of each length from one on, and the symbols in the
order of their codes. -/
structure Code where
  counts : List Nat
  symbols : Array Nat
deriving Repr

/-- The longest code. -/
def maxLength : Nat := 15

/-- How much of the code space is left open, in units of the longest code, after the counted codes;
nothing when they do not fit. -/
def spaceLeft? (left : Nat) : List Nat → Option Nat
  | [] => some left
  | n :: rest => if 2 * left < n then none else spaceLeft? (2 * left - n) rest

/-- The code whose symbols have these lengths, zero meaning no code.  It must use the whole code
space, unless it has one symbol or none. -/
def Code.ofLengths? (lengths : List Nat) : Option Code := do
  let counts := (List.range maxLength).map fun i => lengths.count (i + 1)
  let indexed := lengths.zipIdx
  let symbols := (List.range maxLength).flatMap fun i =>
    (indexed.filter fun p => p.1 == i + 1).map Prod.snd
  let left ← spaceLeft? 1 counts
  if left ≠ 0 ∧ 1 < symbols.length then none
  else some ⟨counts, symbols.toArray⟩

/-- Read a symbol: `code` is what has been read, `first` the first code of the length before, and
`index` the place of that code's symbol. -/
def Code.readFrom (symbols : Array Nat) (code first index : Nat) :
    List Nat → Bits → Option (Nat × Bits)
  | [], _ => none
  | _, [] => none
  | n :: counts, b :: bits =>
      let code := 2 * code + (if b then 1 else 0)
      let first := 2 * first
      if code < first + n then do some (← symbols[index + (code - first)]?, bits)
      else Code.readFrom symbols code (first + n) (index + n) counts bits

/-- Read a symbol. -/
def Code.read? (c : Code) (bits : Bits) : Option (Nat × Bits) :=
  Code.readFrom c.symbols 0 0 0 c.counts bits

/-! ## Lengths and distances -/

/-- The base and the number of extra bits of each length symbol. -/
def lengthCodes : Array (Nat × Nat) := #[
  (3, 0), (4, 0), (5, 0), (6, 0), (7, 0), (8, 0), (9, 0), (10, 0), (11, 1), (13, 1), (15, 1),
  (17, 1), (19, 2), (23, 2), (27, 2), (31, 2), (35, 3), (43, 3), (51, 3), (59, 3), (67, 4),
  (83, 4), (99, 4), (115, 4), (131, 5), (163, 5), (195, 5), (227, 5), (258, 0)]

/-- The base and the number of extra bits of each distance symbol. -/
def distanceCodes : Array (Nat × Nat) := #[
  (1, 0), (2, 0), (3, 0), (4, 0), (5, 1), (7, 1), (9, 2), (13, 2), (17, 3), (25, 3), (33, 4),
  (49, 4), (65, 5), (97, 5), (129, 6), (193, 6), (257, 7), (385, 7), (513, 8), (769, 8),
  (1025, 9), (1537, 9), (2049, 10), (3073, 10), (4097, 11), (6145, 11), (8193, 12),
  (12289, 12), (16385, 13), (24577, 13)]

/-- Read the extra bits of a symbol. -/
def extra? (table : Array (Nat × Nat)) (symbol : Nat) (bits : Bits) : Option (Nat × Bits) := do
  let (base, n) ← table[symbol]?
  let (x, bits) ← take? n bits
  some (base + x, bits)

/-- Copy `n` bytes from `distance` back, byte by byte, so that a copy may overlap itself. -/
def copyBack (distance : Nat) : Nat → Array UInt8 → Option (Array UInt8)
  | 0, out => some out
  | n + 1, out =>
      if distance ≤ out.size then do
        copyBack distance n (out.push (← out[out.size - distance]?))
      else none

/-! ## Blocks -/

/-- The literal and length code and the distance code of a block. -/
structure Codes where
  literals : Code
  distances : Code

/-- The codes of a block that transmits none. -/
def fixedCodes? : Option Codes := do
  let literals ← Code.ofLengths? (List.replicate 144 8 ++ List.replicate 112 9 ++
    List.replicate 24 7 ++ List.replicate 8 8)
  let distances ← Code.ofLengths? (List.replicate 32 5)
  some ⟨literals, distances⟩

/-- Read `n` code lengths, which are themselves coded, with runs; `done` holds those read, in
reverse. -/
def lengths? (c : Code) : Nat → Nat → List Nat → Bits → Option (List Nat × Bits)
  | 0, _, _, _ => none
  | bound + 1, n, done, bits =>
      if n = 0 then some (done.reverse, bits)
      else do
        let (symbol, bits) ← c.read? bits
        if symbol < 16 then lengths? c bound (n - 1) (symbol :: done) bits
        else
          let (repeated, base, width) ←
            match symbol with
            | 16 => done.head?.map fun l => (l, 3, 2)
            | 17 => some (0, 3, 3)
            | _ => some (0, 11, 7)
          let (x, bits) ← take? width bits
          if base + x ≤ n then
            lengths? c bound (n - (base + x)) (List.replicate (base + x) repeated ++ done) bits
          else none

/-- The order in which the lengths of the code for code lengths are written. -/
def lengthOrder : List Nat := [16, 17, 18, 0, 8, 7, 9, 6, 10, 5, 11, 4, 12, 3, 13, 2, 14, 1, 15]

/-- Read three-bit lengths for some symbols. -/
def shortLengths? : List Nat → Bits → Option (List (Nat × Nat) × Bits)
  | [], bits => some ([], bits)
  | symbol :: rest, bits => do
      let (n, bits) ← take? 3 bits
      let (ls, bits) ← shortLengths? rest bits
      some ((symbol, n) :: ls, bits)

/-- Read the codes of a block that transmits them. -/
def codes? (bits : Bits) : Option (Codes × Bits) := do
  let (literals, bits) ← take? 5 bits
  let (distances, bits) ← take? 5 bits
  let (short, bits) ← take? 4 bits
  if 286 < literals + 257 ∨ 30 < distances + 1 then none
  let (ls, bits) ← shortLengths? (lengthOrder.take (short + 4)) bits
  let c ← Code.ofLengths? ((List.range 19).map fun s => (ls.lookup s).getD 0)
  let n := literals + 257 + (distances + 1)
  let (all, bits) ← lengths? c (n + 1) n [] bits
  let l ← Code.ofLengths? (all.take (literals + 257))
  let d ← Code.ofLengths? (all.drop (literals + 257))
  some (⟨l, d⟩, bits)

/-- Read symbols up to the end of a block. -/
def symbols? (c : Codes) : Nat → Array UInt8 → Bits → Option (Array UInt8 × Bits)
  | 0, _, _ => none
  | bound + 1, out, bits => do
      let (symbol, bits) ← c.literals.read? bits
      if symbol < 256 then symbols? c bound (out.push symbol.toUInt8) bits
      else if symbol = 256 then some (out, bits)
      else
        let (length, bits) ← extra? lengthCodes (symbol - 257) bits
        let (d, bits) ← c.distances.read? bits
        let (distance, bits) ← extra? distanceCodes d bits
        symbols? c bound (← copyBack distance length out) bits

/-- Read a stored block. -/
def stored? (out : Array UInt8) (bits : Bits) : Option (Array UInt8 × Bits) := do
  let (n, bits) ← take? 16 (align bits)
  let (check, bits) ← take? 16 bits
  if n + check = 65535 then
    let (bs, bits) ← takeBytes? n bits
    some (out ++ bs.toArray, bits)
  else none

/-- Read one block of some kind. -/
def block? (kind : Nat) (out : Array UInt8) (bits : Bits) : Option (Array UInt8 × Bits) :=
  match kind with
  | 0 => stored? out bits
  | 1 => do symbols? (← fixedCodes?) (bits.length + 1) out bits
  | 2 => do
      let (c, bits) ← codes? bits
      symbols? c (bits.length + 1) out bits
  | _ => none

/-- Read blocks up to the last one. -/
def blocks? : Nat → Array UInt8 → Bits → Option (Array UInt8 × Bits)
  | 0, _, _ => none
  | bound + 1, out, bits => do
      let (last, bits) ← take? 1 bits
      let (kind, bits) ← take? 2 bits
      let (out, bits) ← block? kind out bits
      if last = 1 then some (out, bits) else blocks? bound out bits

/-- The bytes of a compressed stream, and the bits after it. -/
def inflate? (bits : Bits) : Option (Bytes × Bits) := do
  let (out, bits) ← blocks? (bits.length + 1) #[] bits
  some (out.toList, bits)

end Fingerprinting.Gzip
