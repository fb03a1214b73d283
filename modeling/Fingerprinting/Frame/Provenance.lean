/-
# Provenance

Where a detection comes from: a way of probing, or an engine.  The provenances are ordered, engines
last.  A set of provenances is a mask with one bit for each.
-/
import Fingerprinting.Json.Basic

namespace Fingerprinting

/-- Where a detection comes from. -/
inductive Provenance where
  | finger
  | active
  | ico
  | notFound
  | guess
  | redirect
  | fingerprintHub
  | wappalyzer
  | eHole
  | goby
  | nmap
  | fingers
deriving DecidableEq, Repr, Inhabited

namespace Provenance

/-- All provenances in order. -/
def all : List Provenance :=
  [.finger, .active, .ico, .notFound, .guess, .redirect, .fingerprintHub, .wappalyzer, .eHole,
    .goby, .nmap, .fingers]

/-- The place of a provenance in the order. -/
def rank : Provenance → Fin 12
  | .finger => 0
  | .active => 1
  | .ico => 2
  | .notFound => 3
  | .guess => 4
  | .redirect => 5
  | .fingerprintHub => 6
  | .wappalyzer => 7
  | .eHole => 8
  | .goby => 9
  | .nmap => 10
  | .fingers => 11

/-- The name of a provenance. -/
def name : Provenance → String
  | .finger => "finger"
  | .active => "active"
  | .ico => "ico"
  | .notFound => "404"
  | .guess => "guess"
  | .redirect => "redirect"
  | .fingerprintHub => "fingerprinthub"
  | .wappalyzer => "wappalyzer"
  | .eHole => "ehole"
  | .goby => "goby"
  | .nmap => "nmap"
  | .fingers => "fingers"

/-- The provenance with some name; other names mean a plain finger. -/
def ofName (s : String) : Provenance := (all.find? fun p => p.name == s).getD .finger

/-- Whether a provenance is an engine. -/
def isEngine (p : Provenance) : Bool := fingerprintHub.rank ≤ p.rank

@[simp] theorem ofName_name (p : Provenance) : ofName p.name = p := by
  cases p <;> decide

end Provenance

/-- A set of provenances. -/
structure Provenances where
  mask : BitVec 12
deriving DecidableEq, Repr, Inhabited

namespace Provenances

/-- The empty set. -/
def empty : Provenances := ⟨0⟩

/-- The set of one provenance. -/
def singleton (p : Provenance) : Provenances := ⟨BitVec.twoPow 12 p.rank⟩

/-- Elements of either set. -/
def union (a b : Provenances) : Provenances := ⟨a.mask ||| b.mask⟩

/-- The set with one provenance more. -/
def insert (a : Provenances) (p : Provenance) : Provenances := a.union (singleton p)

/-- Membership. -/
def contains (a : Provenances) (p : Provenance) : Bool := a.mask.getLsbD p.rank

/-- The elements in order. -/
def toList (a : Provenances) : List Provenance := Provenance.all.filter a.contains

/-- The names of the elements in order. -/
def names (a : Provenances) : List String := a.toList.map Provenance.name

@[simp] theorem contains_union (a b : Provenances) (p : Provenance) :
    (a.union b).contains p = (a.contains p || b.contains p) := by
  simp [union, contains]

@[simp] theorem contains_singleton (p q : Provenance) :
    (singleton p).contains q = decide (p = q) := by
  cases p <;> cases q <;> rfl

end Provenances

end Fingerprinting
