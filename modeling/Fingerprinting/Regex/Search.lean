/-
# Search

A program is run by trying its choices in order and coming back when a branch fails.  A pair of
instruction and position that has been tried once is not tried again: it failed before, or it lies
on the branch being tried.  So every run ends, after at most one visit to each pair, and the first
match found is the preferred one.

* `Seen.free_mark_lt` : a visit uses up one pair, which is why `explore` ends;
* `Regex.search` : the first match from the leftmost position that has one.
-/
import Fingerprinting.Regex.Program
import Fingerprinting.Text.Utf8

namespace Fingerprinting.Regex

/-! ## Characters in a byte string -/

/-- Read the rest of a character whose first bytes are `p`, from position `i` on. -/
def completeChar (hay : Array UInt8) : Nat → Utf8.Pending → Nat → Option (Char × Nat)
  | 0, _, _ => none
  | bound + 1, p, i =>
      match hay[i]? with
      | none => none
      | some b =>
          match p.next b with
          | .char c => some (c, i + 1)
          | .more q => completeChar hay bound q (i + 1)
          | .broken => none

/-- The character that begins at a position, with the position after it. -/
def charAt (hay : Array UInt8) (i : Nat) : Option (Char × Nat) :=
  match hay[i]? with
  | none => none
  | some b =>
      match Utf8.first b with
      | .char c => some (c, i + 1)
      | .more p => completeChar hay 3 p (i + 1)
      | .broken => none

/-- A byte that does not continue a character. -/
def isLeading (b : UInt8) : Bool := b < 0x80 || 0xC0 ≤ b

/-- The character found by going back from a position to the last leading byte, at most four bytes.
-/
def charBefore (hay : Array UInt8) (i : Nat) : Option Char :=
  let back (k : Nat) : Bool := (hay[i - k]?).any isLeading
  let k := if back 1 then 1 else if back 2 then 2 else if back 3 then 3 else 4
  match charAt hay (i - min k i) with
  | some (c, j) => if j ≤ i then some c else none
  | none => none

/-! ## Conditions on a position -/

/-- A byte that words are made of. -/
def isWordByte (b : UInt8) : Bool :=
  (0x30 ≤ b && b ≤ 0x39) || (0x41 ≤ b && b ≤ 0x5A) || b == 0x5F || (0x61 ≤ b && b ≤ 0x7A)

/-- A character that words are made of. -/
def isWordChar (c : Char) : Bool :=
  if c.toNat < 0x80 then isWordByte c.toUInt8 else unicodeWords.mem c.toNat

/-- What stands on one side of a position. -/
inductive Side where
  | edge
  | broken
  | word
  | other
deriving DecidableEq

/-- The side that a character makes. -/
def Side.ofChar? : Option Char → Side
  | none => .broken
  | some c => if isWordChar c then .word else .other

/-- The side before a position. -/
def sideBefore (hay : Array UInt8) (unicode : Bool) (i : Nat) : Side :=
  if i = 0 then .edge
  else if unicode then .ofChar? (charBefore hay i)
  else if (hay[i - 1]?).any isWordByte then .word else .other

/-- The side after a position. -/
def sideAfter (hay : Array UInt8) (unicode : Bool) (i : Nat) : Side :=
  if hay.size ≤ i then .edge
  else if unicode then .ofChar? ((charAt hay i).map Prod.fst)
  else if (hay[i]?).any isWordByte then .word else .other

/-- Whether a condition holds at a position.  Conditions that deny a word on a side never hold next
to bytes that are no character. -/
def Look.holds (hay : Array UInt8) (i : Nat) : Look → Bool
  | .start => i == 0
  | .finish => i == hay.size
  | .startLine => i == 0 || hay[i - 1]? == some 0x0A
  | .finishLine => i == hay.size || hay[i]? == some 0x0A
  | .startLineReturn =>
      i == 0 || hay[i - 1]? == some 0x0A || (hay[i - 1]? == some 0x0D && hay[i]? != some 0x0A)
  | .finishLineReturn =>
      i == hay.size || hay[i]? == some 0x0D ||
        (hay[i]? == some 0x0A && (i == 0 || hay[i - 1]? != some 0x0D))
  | .boundary u => (sideBefore hay u i == .word) != (sideAfter hay u i == .word)
  | .notBoundary u =>
      let a := sideBefore hay u i
      let b := sideAfter hay u i
      a != .broken && b != .broken && (a == .word) == (b == .word)
  | .wordStart u => sideBefore hay u i != .word && sideAfter hay u i == .word
  | .wordEnd u => sideBefore hay u i == .word && sideAfter hay u i != .word
  | .wordStartHalf u =>
      let a := sideBefore hay u i
      a != .broken && a != .word
  | .wordEndHalf u =>
      let b := sideAfter hay u i
      b != .broken && b != .word

/-! ## Visited pairs -/

/-- Which pairs of instruction and position have been tried. -/
structure Seen where
  marks : Array Bool

/-- The number of pairs not yet tried. -/
def Seen.free (s : Seen) : Nat := s.marks.countP (!·)

/-- Whether a pair has yet to be tried. -/
def Seen.IsFree (s : Seen) (k : Nat) : Prop := ∃ h : k < s.marks.size, s.marks[k] = false

instance (s : Seen) (k : Nat) : Decidable (s.IsFree k) :=
  inferInstanceAs (Decidable (∃ h : k < s.marks.size, s.marks[k] = false))

/-- Mark a pair that has yet to be tried. -/
def Seen.mark (s : Seen) (k : Nat) (h : s.IsFree k) : Seen := ⟨s.marks.set k true h.1⟩

/-- Marking uses up a pair. -/
theorem Seen.free_mark_lt (s : Seen) (k : Nat) (h : s.IsFree k) : (s.mark k h).free < s.free := by
  obtain ⟨hk, hm⟩ := h
  have hpos : 0 < s.marks.countP (!·) := by
    rw [Array.countP_pos_iff]
    exact ⟨s.marks[k], Array.getElem_mem hk, by simp [hm]⟩
  have hset : (s.marks.set k true).countP (!·) = s.marks.countP (!·) - 1 := by
    rw [Array.countP_set hk, hm]
    rfl
  change (s.marks.set k true).countP (!·) < s.marks.countP (!·)
  rw [hset]
  exact Nat.sub_lt hpos Nat.one_pos

/-! ## Running -/

/-- Noted positions by slot: the group of number `g` begins at slot `2 g` and ends at the next. -/
abbrev Slots := List (Nat × Nat)

/-- A branch still to be tried. -/
structure Branch where
  pc : Nat
  pos : Nat
  slots : Slots

/-- What an instruction makes of a branch: a match, or the branches that go on from there. -/
inductive Move where
  | accept
  | proceed (next : List Branch)

/-- Carry out an instruction. -/
def Instr.move (hay : Array UInt8) (t : Branch) : Instr → Move
  | .done => .accept
  | .char set next =>
      match charAt hay t.pos with
      | some (c, i) => .proceed (if set.mem c.toNat then [⟨next, i, t.slots⟩] else [])
      | none => .proceed []
  | .byte set next =>
      match hay[t.pos]? with
      | some b => .proceed (if set.mem b.toNat then [⟨next, t.pos + 1, t.slots⟩] else [])
      | none => .proceed []
  | .look l next => .proceed (if l.holds hay t.pos then [⟨next, t.pos, t.slots⟩] else [])
  | .choice first second =>
      .proceed [⟨first, t.pos, t.slots⟩, ⟨second, t.pos, t.slots⟩]
  | .note slot next => .proceed [⟨next, t.pos, (slot, t.pos) :: t.slots⟩]

/-- Try the branches of a stack until one matches. -/
def explore (p : Program) (hay : Array UInt8) (seen : Seen) (stack : List Branch) :
    Seen × Option Slots :=
  match stack with
  | [] => (seen, none)
  | t :: rest =>
      let k := t.pc * (hay.size + 1) + t.pos
      if h : seen.IsFree k then
        match p.code[t.pc]? with
        | none => explore p hay (seen.mark k h) rest
        | some i =>
            match i.move hay t with
            | .accept => (seen.mark k h, some t.slots)
            | .proceed next => explore p hay (seen.mark k h) (next ++ rest)
      else explore p hay seen rest
  termination_by (seen.free, stack.length)
  decreasing_by
    · exact Prod.Lex.left _ _ (seen.free_mark_lt _ h)
    · exact Prod.Lex.left _ _ (seen.free_mark_lt _ h)
    · exact Prod.Lex.right _ (by simp)

/-- Try the positions from `i` on, `left` being how many there are. -/
def searchFrom (p : Program) (hay : Array UInt8) (seen : Seen) (i : Nat) : Nat → Option Slots
  | 0 => none
  | left + 1 =>
      match explore p hay seen [⟨p.start, i, []⟩] with
      | (_, some slots) => some slots
      | (seen, none) => searchFrom p hay seen (i + 1) left

/-- The preferred match from the leftmost position that has one, `start` or later. -/
def Program.searchAt (p : Program) (hay : Array UInt8) (start : Nat) : Option Slots :=
  searchFrom p hay ⟨Array.replicate (p.code.size * (hay.size + 1)) false⟩ start
    (hay.size + 1 - start)

/-- The preferred match from the leftmost position that has one. -/
def Program.search (p : Program) (hay : Array UInt8) : Option Slots := p.searchAt hay 0

end Fingerprinting.Regex
