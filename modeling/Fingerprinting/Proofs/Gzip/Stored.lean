/-
# Packing and unpacking

What has been packed as stored blocks is unpacked again, whatever its bytes.

* `takeBytes?_append` reads bytes back that were written;
* `blocks?_storedBlock` reads one block back, and `blocks?_storedBlocks` all of them;
* `decompress?_compress` does so for a member with its header and checksum.
-/
import Mathlib.Tactic.Common
import Fingerprinting.Gzip.Basic

namespace Fingerprinting.Gzip

/-! ## Bits -/

@[simp] theorem length_bitsOfByte (b : UInt8) : (bitsOfByte b).length = 8 := by
  simp [bitsOfByte]

@[simp] theorem length_bitsOf (bs : Bytes) : (bitsOf bs).length = 8 * bs.length := by
  simp only [bitsOf, List.length_flatMap, length_bitsOfByte, List.map_const',
    List.sum_replicate_nat]
  exact Nat.mul_comm ..

@[simp] theorem bitsOf_append (bs more : Bytes) : bitsOf (bs ++ more) = bitsOf bs ++ bitsOf more :=
  List.flatMap_append

theorem bitsOf_cons (b : UInt8) (bs : Bytes) : bitsOf (b :: bs) = bitsOfByte b ++ bitsOf bs := rfl

/-- The bits of a byte write it. -/
theorem value_bitsOfByte (b : UInt8) : value (bitsOfByte b) = b.toNat := by
  have hbyte : ∀ n < 256, value ((List.range 8).map n.testBit) = n := by decide +kernel
  exact hbyte b.toNat b.toNat_lt

/-- A byte counts once, and what follows it 256 times. -/
theorem value_bitsOfByte_append (b : UInt8) (bits : Bits) :
    value (bitsOfByte b ++ bits) = b.toNat + 256 * value bits := by
  have hrange : List.range 8 = [0, 1, 2, 3, 4, 5, 6, 7] := rfl
  rw [← value_bitsOfByte b]
  simp only [bitsOfByte, hrange, List.map_cons, List.map_nil, List.cons_append, List.nil_append,
    value]
  omega

/-- Bits that stand at the head are taken off. -/
theorem take?_append (n : Nat) (xs ys : Bits) (h : xs.length = n) :
    take? n (xs ++ ys) = some (value xs, ys) := by
  have hlength : ¬ xs.length < n := by omega
  rw [take?, List.take_left' h, List.drop_left' h]
  exact if_neg hlength

/-- A stream of whole bytes stands at a byte's beginning. -/
theorem align_bitsOf (bs : Bytes) : align (bitsOf bs) = bitsOf bs := by
  rw [align, length_bitsOf, Nat.mul_mod_right, List.drop_zero]

/-! ## Bytes -/

/-- Bytes that stand at the head are taken off. -/
theorem takeBytes?_append (bs rest : Bytes) :
    takeBytes? bs.length (bitsOf (bs ++ rest)) = some (bs, bitsOf rest) := by
  induction bs with
  | nil => rfl
  | cons b more ih =>
      have hbyte : take? 8 (bitsOf (b :: (more ++ rest))) =
          some (b.toNat, bitsOf (more ++ rest)) := by
        rw [bitsOf_cons, take?_append 8 _ _ (length_bitsOfByte b), value_bitsOfByte]
      rw [List.cons_append, List.length_cons, takeBytes?, hbyte]
      dsimp only [Option.bind_eq_bind, Option.bind_some]
      rw [ih]
      simp

@[simp] theorem length_littleEndian (n x : Nat) : (littleEndian n x).length = n := by
  induction n generalizing x with
  | zero => rfl
  | succ n ih => rw [littleEndian, List.length_cons, ih]

/-- A number of sixteen bits is what its two bytes write. -/
theorem value_littleEndian {x : Nat} (h : x < 65536) : value (bitsOf (littleEndian 2 x)) = x := by
  have hbyte (n : Nat) : (n % 256).toUInt8.toNat = n % 256 := by simp
  have hnil : value (bitsOf []) = 0 := rfl
  rw [littleEndian, littleEndian, littleEndian, bitsOf_cons, value_bitsOfByte_append, bitsOf_cons,
    value_bitsOfByte_append, hbyte, hbyte, hnil]
  omega

/-- A number of sixteen bits is read back. -/
theorem take?_littleEndian {x : Nat} (h : x < 65536) (rest : Bytes) :
    take? 16 (bitsOf (littleEndian 2 x ++ rest)) = some (x, bitsOf rest) := by
  have hlength : (bitsOf (littleEndian 2 x)).length = 16 := by simp
  rw [bitsOf_append, take?_append 16 _ _ hlength, value_littleEndian h]

/-! ## Blocks -/

/-- A stored block is read back. -/
theorem stored?_append (out : Array UInt8) (b rest : Bytes) (pad : Bits) (hpad : pad.length < 8)
    (h : b.length ≤ 65535) :
    stored? out (pad ++ bitsOf (littleEndian 2 b.length ++ littleEndian 2 (65535 - b.length) ++ b
      ++ rest)) = some (out ++ b.toArray, bitsOf rest) := by
  have halign : ∀ bs : Bytes, align (pad ++ bitsOf bs) = bitsOf bs := by
    intro bs
    have hlength : (pad ++ bitsOf bs).length % 8 = pad.length := by
      rw [List.length_append, length_bitsOf]
      omega
    rw [align, hlength, List.drop_left]
  have hsum : b.length + (65535 - b.length) = 65535 := by omega
  rw [stored?, halign, List.append_assoc, List.append_assoc, take?_littleEndian (by omega)]
  dsimp only [Option.bind_eq_bind, Option.bind_some]
  rw [take?_littleEndian (by omega)]
  dsimp only [Option.bind_eq_bind, Option.bind_some]
  rw [if_pos hsum, takeBytes?_append]
  rfl

/-- A block that is read goes on with the rest, unless it is the last. -/
theorem blocks?_storedBlock (bound : Nat) (out : Array UInt8) (last : Bool) (b rest : Bytes)
    (h : b.length ≤ 65535) :
    blocks? (bound + 1) out (bitsOf (storedBlock last b ++ rest)) =
      if last then some (out ++ b.toArray, bitsOf rest)
      else blocks? bound (out ++ b.toArray) (bitsOf rest) := by
  have hhead : bitsOfByte (if last then 1 else 0) =
      [last] ++ ([false, false] ++ List.replicate 5 false) := by
    cases last <;> decide +kernel
  rw [storedBlock, List.cons_append, bitsOf_cons, hhead, blocks?, List.append_assoc,
    List.append_assoc, take?_append 1 [last] _ rfl]
  dsimp only [Option.bind_eq_bind, Option.bind_some]
  rw [take?_append 2 [false, false] _ rfl]
  dsimp only [Option.bind_eq_bind, Option.bind_some]
  have hkind : value [false, false] = 0 := rfl
  rw [hkind, block?, stored?_append out b rest _ (by decide) h]
  cases last <;> rfl

/-- All the blocks are read back. -/
theorem blocks?_storedBlocks (n bound : Nat) (out : Array UInt8) (b rest : Bytes)
    (h : b.length ≤ 65535 * (n + 1)) (hbound : n < bound) :
    blocks? bound out (bitsOf (storedBlocks n b ++ rest)) =
      some (out ++ b.toArray, bitsOf rest) := by
  induction n generalizing bound out b with
  | zero =>
      obtain ⟨bound, rfl⟩ := Nat.exists_eq_succ_of_ne_zero (Nat.ne_of_gt hbound)
      rw [storedBlocks, blocks?_storedBlock bound out true b rest (by omega)]
      rfl
  | succ n ih =>
      obtain ⟨bound, rfl⟩ := Nat.exists_eq_succ_of_ne_zero (Nat.ne_of_gt (Nat.zero_lt_of_lt hbound))
      have hfull : (b.take 65535).length ≤ 65535 := List.length_take_le ..
      have hrest : (b.drop 65535).length ≤ 65535 * (n + 1) := by
        rw [List.length_drop]
        omega
      have hparts : (b.take 65535).toArray ++ (b.drop 65535).toArray = b.toArray := by
        rw [List.append_toArray, List.take_append_drop]
      rw [storedBlocks, List.append_assoc, blocks?_storedBlock bound out false _ _ hfull,
        if_neg Bool.false_ne_true, ih bound _ _ hrest (by omega), Array.append_assoc, hparts]

theorem lt_length_storedBlocks (n : Nat) (b : Bytes) : n < (storedBlocks n b).length := by
  induction n generalizing b with
  | zero => exact Nat.succ_pos _
  | succ n ih =>
      have hrest := ih (b.drop 65535)
      rw [storedBlocks, storedBlock, List.length_append, List.length_cons]
      omega

/-- The stored blocks of some bytes hold them. -/
theorem inflate?_storedBlocks (b rest : Bytes) :
    inflate? (bitsOf (storedBlocks (b.length / 65535) b ++ rest)) = some (b, bitsOf rest) := by
  have hcount := lt_length_storedBlocks (b.length / 65535) b
  rw [inflate?, blocks?_storedBlocks]
  · simp
  · omega
  · rw [length_bitsOf, List.length_append]
    omega

/-! ## Members -/

/-- The header of a packed byte string. -/
theorem body?_compress (b : Bytes) :
    body? (compress b) = some (storedBlocks (b.length / 65535) b ++
      (littleEndian 4 (crc32 b).toNat ++ littleEndian 4 b.length)) := by
  rw [← List.append_assoc]
  rfl

/-- What has been packed is unpacked again. -/
theorem decompress?_compress (b : Bytes) : decompress? (compress b) = some b := by
  have htake : ∀ x (rest : Bytes),
      takeBytes? 4 (bitsOf (littleEndian 4 x ++ rest)) = some (littleEndian 4 x, bitsOf rest) := by
    intro x rest
    have h := takeBytes?_append (littleEndian 4 x) rest
    rwa [length_littleEndian] at h
  have hsize := htake b.length []
  rw [List.append_nil] at hsize
  rw [decompress?, body?_compress]
  dsimp only [Option.bind_eq_bind, Option.bind_some]
  rw [inflate?_storedBlocks]
  dsimp only [Option.bind_eq_bind, Option.bind_some]
  rw [align_bitsOf, htake]
  dsimp only [Option.bind_eq_bind, Option.bind_some]
  rw [hsize]
  exact if_pos ⟨rfl, rfl⟩

/-- A byte string that does not begin like a member has no body. -/
theorem body?_of_isGzip (b : Bytes) (h : isGzip b = false) : body? b = none := by
  unfold body?
  split
  · rename_i a m method flags _ _ _ _ _ _ rest
    have hmagic : [a, m] ≠ magic := by
      rintro hmagic
      cases hmagic
      cases h
    rw [if_pos (.inl hmagic)]
    rfl
  · rfl

/-- Only what begins like a member is unpacked. -/
theorem isGzip_of_decompress? {z d : Bytes} (h : decompress? z = some d) : isGzip z = true := by
  obtain ⟨rest, hbody, -⟩ := Option.bind_eq_some_iff.mp h
  rw [← Bool.not_eq_false]
  intro hgzip
  rw [body?_of_isGzip z hgzip] at hbody
  cases hbody

end Fingerprinting.Gzip
