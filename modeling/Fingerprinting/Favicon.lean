/-
# Icons

Products are known by the hashes of their icons.  `Favicons` files the name of a product under an
MD5 digest or a MurmurHash3 number, and looks contents up by their hashes; the digest is consulted
first.
-/
import Fingerprinting.Dictionary
import Fingerprinting.Digest.Md5
import Fingerprinting.Digest.Murmur3
import Fingerprinting.Frame.Set
import Fingerprinting.Response.Content

namespace Fingerprinting

/-! ## Normal forms of hashes -/

/-- The form in which digests are compared. -/
def normalDigest (hash : String) : String := Text.lower (Text.trim hash)

/-- The form in which hash numbers are compared. -/
def normalNumber (hash : String) : String := Text.trim hash

/-! ## The index -/

/-- Names of products under the hashes of their icons. -/
structure Favicons where
  md5 : Dictionary String := .empty
  mmh3 : Dictionary String := .empty
deriving DecidableEq, Repr, Inhabited

namespace Favicons

/-- No icons. -/
def empty : Favicons := {}

/-- The number of hashes. -/
def size (s : Favicons) : Nat := s.md5.size + s.mmh3.size

/-- Whether no hash is known. -/
def isEmpty (s : Favicons) : Bool := s.md5.isEmpty && s.mmh3.isEmpty

/-- File a name under a digest. -/
def insertMd5 (s : Favicons) (hash name : String) : Favicons :=
  { s with md5 := s.md5.insert (normalDigest hash) name }

/-- File a name under a hash number. -/
def insertMmh3 (s : Favicons) (hash name : String) : Favicons :=
  { s with mmh3 := s.mmh3.insert (normalNumber hash) name }

/-- File everything that another index holds. -/
def extend (s t : Favicons) : Favicons := ⟨s.md5.extend t.md5, s.mmh3.extend t.mmh3⟩

/-- The name filed under either of two hashes, the digest first. -/
def name? (s : Favicons) (md5 mmh3 : String) : Option String :=
  (s.md5.get? md5).or (s.mmh3.get? mmh3)

/-- The frame for a product with one of two hashes. -/
def ofHashes? (s : Favicons) (md5 mmh3 : String) : Option Frame :=
  (s.name? md5 mmh3).map fun name => Frame.new name .ico

/-- The frame for the product whose icon these bytes are. -/
def ofBytes? (s : Favicons) (b : Bytes) : Option Frame :=
  if s.isEmpty then none else s.ofHashes? (Fingerprinting.md5 b) (Fingerprinting.mmh3 b)

/-- The frame for the product whose icon these bytes are; no bytes are no icon. -/
def ofIcon? (s : Favicons) (b : Bytes) : Option Frame :=
  if b.isEmpty then none else s.ofHashes? (Fingerprinting.md5 b) (Fingerprinting.mmh3 b)

/-- The frames for a response that carries an icon. -/
def matchWeb (s : Favicons) (c : Content) : Frames := .ofList (s.ofIcon? c.bodyOrRaw).toList

end Favicons

end Fingerprinting
