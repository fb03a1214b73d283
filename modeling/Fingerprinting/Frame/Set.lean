/-
# Sets of frames

Several engines report the same product under the same name.  `Frames` keeps one frame for each name
in lower case, in the order in which the names arrived first; a later frame of the same name is
folded into it.  An index says where the frame of each name stands.

* `Frames.enter` folds one frame in and answers whether its name is new, `Frames.add` only folds;
* `Frames.absorbAll` folds all frames of another set in and counts the new names, `Frames.merge` only
  folds.
-/
import Fingerprinting.Dictionary
import Fingerprinting.Frame.Basic

namespace Fingerprinting

/-! ## Folding -/

/-- Fold a later frame of the same name into a frame: provenances and focus are joined, unseen tags
follow the others, and the first version and the first detail stay. -/
def Frame.absorb (f g : Frame) : Frame :=
  let f := { f with froms := (f.froms.insert g.origin).union g.froms }
  let f := g.tags.foldl Frame.addTag f
  let f := if f.version = "" ∧ g.version ≠ "" then f.setVersion g.version else f
  { f with
    focus := f.focus || g.focus
    detail := f.detail.or g.detail }

/-- A frame under its name in lower case. -/
def Frame.filed (f : Frame) : Frame := { f with name := Text.lower f.name }

/-! ## Sets -/

/-- Frames in the order in which their names arrived. -/
structure Frames where
  toList : List Frame
  /-- The places of the frames by name in lower case. -/
  index : Dictionary Nat
deriving DecidableEq, Repr, Inhabited

namespace Frames

/-- No frames. -/
def empty : Frames := ⟨[], .empty⟩

/-- The number of frames. -/
def size (s : Frames) : Nat := s.toList.length

/-- Whether there are no frames. -/
def isEmpty (s : Frames) : Bool := s.toList.isEmpty

/-- The place of the frame with a name in lower case. -/
def position? (s : Frames) (name : String) : Option Nat := s.index.get? name

/-- The frame with a name in any case. -/
def get? (s : Frames) (name : String) : Option Frame := do
  s.toList[← s.position? (Text.lower name)]?

/-- Whether there is a frame with a name in any case. -/
def contains (s : Frames) (name : String) : Bool := (s.position? (Text.lower name)).isSome

/-- The first frame. -/
def first? (s : Frames) : Option Frame := s.toList.head?

/-- Fold a frame into the one of its name, or append it if there is none.  Answers whether the name
is new. -/
def enter (s : Frames) (f : Frame) : Frames × Bool :=
  let g := f.filed
  match s.position? g.name with
  | some place => ({ s with toList := s.toList.modify place fun f => f.absorb g }, false)
  | none => (⟨s.toList ++ [g], s.index.insert g.name s.size⟩, true)

/-- Add a frame. -/
def add (s : Frames) (f : Frame) : Frames := (s.enter f).1

/-- Whether adding a frame would bring a new name. -/
def isNew (s : Frames) (f : Frame) : Bool := (s.enter f).2

/-- Add a frame to a set, and count it when its name is new. -/
def tally (r : Frames × Nat) (f : Frame) : Frames × Nat :=
  let (s, new) := r.1.enter f
  (s, if new then r.2 + 1 else r.2)

/-- Add all frames of another set.  Answers how many names are new. -/
def absorbAll (s t : Frames) : Frames × Nat := t.toList.foldl tally (s, 0)

/-- Add all frames of another set. -/
def merge (s t : Frames) : Frames := (s.absorbAll t).1

/-- The set of some frames. -/
def ofList (fs : List Frame) : Frames := fs.foldl add empty

/-- The names of the frames that are not guesses. -/
def names (s : Frames) : List String := (s.toList.filter fun f => !f.isGuess).map Frame.name

/-- Whether some frame is in focus. -/
def focus (s : Frames) : Bool := s.toList.any Frame.focus

/-- Whether some frame has a tag. -/
def hasTag (s : Frames) (tag : String) : Bool := s.toList.any fun f => f.hasTag tag

/-- Whether some frame has a provenance. -/
def hasFrom (s : Frames) (p : Provenance) : Bool := s.toList.any fun f => f.froms.contains p

/-- The frames on one line, with the guesses or without them. -/
def lineWith (noGuess : Bool) (s : Frames) : String :=
  Text.join "||" ((s.toList.filter fun f => !(noGuess && f.isGuess)).map Frame.line)

/-- The frames on one line. -/
def line (s : Frames) : String := s.lineWith false

/-- The frames as a JSON array. -/
def json (s : Frames) : Json := .array (s.toList.map Frame.json)

end Frames

end Fingerprinting
