/-
# Dictionaries

A finite map from texts to values, kept as a list of entries in the order of their keys.  The keys
are distinct, so two dictionaries with the same values under the same keys are the same list.

* `Dictionary.get?_insert` says what an insertion does to every look-up.
-/

namespace Fingerprinting

/-- A finite map from texts, sorted by key. -/
structure Dictionary (α : Type) where
  entries : List (String × α)
deriving DecidableEq, Repr

namespace Dictionary

variable {α : Type}

/-- No entries. -/
def empty : Dictionary α := ⟨[]⟩

instance : Inhabited (Dictionary α) := ⟨empty⟩

/-- The number of entries. -/
def size (d : Dictionary α) : Nat := d.entries.length

/-- Whether there are no entries. -/
def isEmpty (d : Dictionary α) : Bool := d.entries.isEmpty

/-- The value under a key in a list of entries. -/
def find? (key : String) : List (String × α) → Option α
  | [] => none
  | (k, a) :: rest => if k = key then some a else find? key rest

/-- The value under a key. -/
def get? (d : Dictionary α) (key : String) : Option α := find? key d.entries

/-- Whether there is a value under a key. -/
def contains (d : Dictionary α) (key : String) : Bool := (d.get? key).isSome

/-- Put an entry in its place, in the place of one with the same key if there is one. -/
def put (key : String) (a : α) : List (String × α) → List (String × α)
  | [] => [(key, a)]
  | (k, b) :: rest =>
      if key = k then (key, a) :: rest
      else if key < k then (key, a) :: (k, b) :: rest
      else (k, b) :: put key a rest

/-- The dictionary with a value under a key. -/
def insert (d : Dictionary α) (key : String) (a : α) : Dictionary α := ⟨put key a d.entries⟩

/-- The dictionary with all entries of another; of two values under one key the other's counts. -/
def extend (d e : Dictionary α) : Dictionary α :=
  e.entries.foldl (fun d (k, a) => d.insert k a) d

/-- The dictionary of some entries; of several values under one key the last counts. -/
def ofList (entries : List (String × α)) : Dictionary α :=
  entries.foldl (fun d (k, a) => d.insert k a) empty

/-- The dictionary with a value under a key made from the one that is there. -/
def alter (d : Dictionary α) (key : String) (f : Option α → α) : Dictionary α :=
  d.insert key (f (d.get? key))

/-- The keys in order. -/
def keys (d : Dictionary α) : List String := d.entries.map Prod.fst

/-- The values in the order of their keys. -/
def values (d : Dictionary α) : List α := d.entries.map Prod.snd

/-! ## Look-ups -/

@[simp] theorem get?_empty (key : String) : (empty : Dictionary α).get? key = none := rfl

/-- Putting an entry changes the value under its key and no other. -/
theorem find?_put (key other : String) (a : α) (entries : List (String × α)) :
    find? other (put key a entries) = if key = other then some a else find? other entries := by
  induction entries with
  | nil => simp [put, find?]
  | cons entry rest ih =>
      obtain ⟨k, b⟩ := entry
      simp only [put, apply_ite (find? other), find?, ih]
      grind

/-- An insertion changes the value under its key and no other. -/
theorem get?_insert (d : Dictionary α) (key other : String) (a : α) :
    (d.insert key a).get? other = if key = other then some a else d.get? other :=
  find?_put key other a d.entries

end Dictionary

end Fingerprinting
