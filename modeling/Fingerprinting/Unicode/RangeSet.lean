/-
# Sets of code points as closed ranges

A set of numbers is kept as closed ranges in increasing order with gaps between them, so two equal
sets have one representation.  Sets of code points and sets of bytes share this type; the bound
`top` of a complement tells them apart.

* `RangeSet.ofRanges` brings any list of ranges into that form;
* `RangeSet.ofTable` reads the written form of the data tables, for instance `41-5A 61 7F-`.
-/

namespace Fingerprinting.Unicode

/-- Closed ranges `(lo, hi)` in increasing order. -/
structure RangeSet where
  ranges : List (Nat × Nat)
deriving DecidableEq, Repr, Inhabited

namespace RangeSet

/-- The largest Unicode code point. -/
def topCodePoint : Nat := 0x10FFFF

/-- The largest byte. -/
def topByte : Nat := 0xFF

/-! ## Membership -/

/-- Whether an increasing list of ranges covers `n`; the search stops at the first range above. -/
def covers (n : Nat) : List (Nat × Nat) → Bool
  | [] => false
  | (lo, hi) :: rest => if n < lo then false else n ≤ hi || covers n rest

/-- Membership. -/
def mem (s : RangeSet) (n : Nat) : Bool := covers n s.ranges

/-- Whether the set has no element. -/
def isEmpty (s : RangeSet) : Bool := s.ranges.isEmpty

/-- Whether some element of `[lo, hi]` is in the set. -/
def meets (s : RangeSet) (lo hi : Nat) : Bool := s.ranges.any fun r => r.1 ≤ hi && lo ≤ r.2

/-! ## Construction -/

/-- Join the ranges of a list sorted by lower end that touch or overlap, `cur` being the open one.
-/
def joinFrom (cur : Nat × Nat) : List (Nat × Nat) → List (Nat × Nat)
  | [] => [cur]
  | r :: rest =>
      if r.1 ≤ cur.2 + 1 then joinFrom (cur.1, max cur.2 r.2) rest else cur :: joinFrom r rest

/-- The set that a list of ranges covers, whatever their order and overlaps. -/
def ofRanges (rs : List (Nat × Nat)) : RangeSet :=
  match (rs.filter fun r => r.1 ≤ r.2).mergeSort fun a b => a.1 ≤ b.1 with
  | [] => ⟨[]⟩
  | r :: rest => ⟨joinFrom r rest⟩

/-- The empty set. -/
def empty : RangeSet := ⟨[]⟩

/-- The set of one number. -/
def singleton (n : Nat) : RangeSet := ⟨[(n, n)]⟩

/-- The numbers from `lo` to `hi`. -/
def range (lo hi : Nat) : RangeSet := ofRanges [(lo, hi)]

/-! ## Boolean operations -/

/-- Elements of either set. -/
def union (a b : RangeSet) : RangeSet := ofRanges (a.ranges ++ b.ranges)

/-- The gaps of an increasing list of ranges from `start` up to `top`. -/
def gaps (top start : Nat) : List (Nat × Nat) → List (Nat × Nat)
  | [] => if start ≤ top then [(start, top)] else []
  | (lo, hi) :: rest =>
      if start < lo then (start, lo - 1) :: gaps top (hi + 1) rest else gaps top (hi + 1) rest

/-- Numbers up to `top` that are not in the set. -/
def complement (top : Nat) (s : RangeSet) : RangeSet := ⟨gaps top 0 s.ranges⟩

/-- Elements of both sets, among the numbers up to `top`. -/
def inter (top : Nat) (a b : RangeSet) : RangeSet :=
  complement top (union (complement top a) (complement top b))

/-- Elements of the first set that are not in the second. -/
def diff (top : Nat) (a b : RangeSet) : RangeSet := inter top a (complement top b)

/-- Elements of exactly one of the two sets. -/
def symmDiff (top : Nat) (a b : RangeSet) : RangeSet := union (diff top a b) (diff top b a)

/-! ## Written tables -/

/-- The value of a hexadecimal digit in upper case. -/
def hexValue? (c : Char) : Option Nat :=
  if '0' ≤ c ∧ c ≤ '9' then some (c.toNat - '0'.toNat)
  else if 'A' ≤ c ∧ c ≤ 'F' then some (c.toNat - 'A'.toNat + 10)
  else none

/-- Read a table with `lo` the lower end already closed by a hyphen, if any, and `cur` the number
being read, if any. -/
def readTable (lo cur : Option Nat) : List Char → List (Nat × Nat)
  | [] => close
  | c :: rest =>
      match hexValue? c with
      | some d => readTable lo (some (cur.getD 0 * 16 + d)) rest
      | none => if c = '-' then readTable cur none rest else close ++ readTable none none rest
where
  /-- The range that ends here. -/
  close : List (Nat × Nat) :=
    match cur with
    | some hi => [(lo.getD hi, hi)]
    | none => []

/-- The set that a table writes: hexadecimal numbers and `lo-hi` ranges between blanks. -/
def ofTable (text : String) : RangeSet := ofRanges (readTable none none text.toList)

end RangeSet

end Fingerprinting.Unicode
