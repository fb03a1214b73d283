/-
# Searching byte strings

Occurrences of one byte string in another: whether there is one, where the first one cuts the
string, and what the string becomes when every one is replaced.  Occurrences are taken from the left
and do not overlap.
-/
import Fingerprinting.Text.Utf8

namespace Fingerprinting.Bytes

/-- Whether `needle` occurs in a byte string; the empty string occurs everywhere. -/
def contains (needle : Bytes) : Bytes → Bool
  | [] => needle.isEmpty
  | b :: rest => needle.isPrefixOf (b :: rest) || contains needle rest

/-- The parts before and after the first occurrence of `sep`. -/
def cut? (sep : Bytes) : Bytes → Option (Bytes × Bytes)
  | [] => none
  | b :: rest =>
      if sep.isPrefixOf (b :: rest) then some ([], (b :: rest).drop sep.length)
      else (cut? sep rest).map fun (before, after) => (b :: before, after)

/-- What is left after the first occurrence of `sep` is shorter by that occurrence. -/
theorem length_of_cut? {sep b before after : Bytes} (h : cut? sep b = some (before, after)) :
    after.length + sep.length ≤ b.length := by
  induction b generalizing before with
  | nil => cases h
  | cons c rest ih =>
      rw [cut?] at h
      split at h
      · rename_i hleads
        cases h
        have hlength := (List.isPrefixOf_iff_prefix.mp hleads).length_le
        rw [List.length_drop]
        omega
      · obtain ⟨parts, hcut, hparts⟩ := Option.map_eq_some_iff.mp h
        cases hparts
        have hlength := ih hcut
        rw [List.length_cons]
        omega

/-- The pieces of a byte string between the occurrences of `marker`, `skip` bytes of which still
belong to the last occurrence. -/
def piecesFrom (marker : Bytes) : Nat → Bytes → List Bytes
  | _, [] => [[]]
  | skip + 1, _ :: rest => piecesFrom marker skip rest
  | 0, b :: rest =>
      if !marker.isEmpty && marker.isPrefixOf (b :: rest) then
        [] :: piecesFrom marker (marker.length - 1) rest
      else
        match piecesFrom marker 0 rest with
        | [] => [[b]]
        | piece :: pieces => (b :: piece) :: pieces

/-- The pieces of a byte string between the occurrences of `marker`. -/
def pieces (marker b : Bytes) : List Bytes := piecesFrom marker 0 b

/-- Replace the occurrences of `marker` by `value`, `skip` bytes of which still belong to the last
occurrence. -/
def replaceFrom (marker value : Bytes) : Nat → Bytes → Bytes
  | _, [] => []
  | skip + 1, _ :: rest => replaceFrom marker value skip rest
  | 0, b :: rest =>
      if !marker.isEmpty && marker.isPrefixOf (b :: rest) then
        value ++ replaceFrom marker value (marker.length - 1) rest
      else b :: replaceFrom marker value 0 rest

/-- Replace the occurrences of `marker` by `value`. -/
def replace (marker value b : Bytes) : Bytes := replaceFrom marker value 0 b

end Fingerprinting.Bytes
