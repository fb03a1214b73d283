/-
# Marks that begin escapes

A mark such as the backslash begins an escape, unless it is itself escaped by the mark before it.
So what decides is the run of marks directly before a place: nothing there is escaped when the run
is even.

The statements are about lists of any kind, since patterns are read by characters and payloads by
bytes.
-/
import Mathlib.Algebra.Group.Nat.Even
import Mathlib.Data.List.DropRight

namespace Fingerprinting.Text

variable {α : Type} [DecidableEq α]

/-- How many marks stand at the end of a list. -/
def marksAtEnd (mark : α) (xs : List α) : Nat := (xs.rtakeWhile (· == mark)).length

/-- What follows `before` is not escaped: the marks directly before it are even in number. -/
def IsFree (mark : α) (before : List α) : Prop := Even (marksAtEnd mark before)

instance (mark : α) (before : List α) : Decidable (IsFree mark before) :=
  inferInstanceAs (Decidable (Even _))

theorem marksAtEnd_concat (mark d : α) (xs : List α) :
    marksAtEnd mark (xs ++ [d]) = if d = mark then marksAtEnd mark xs + 1 else 0 := by
  by_cases hd : d = mark <;> simp [marksAtEnd, hd]

/-- A run of marks does not reach across what is no mark. -/
theorem marksAtEnd_cons_of_ne {mark c : α} (h : c ≠ mark) (xs : List α) :
    marksAtEnd mark (c :: xs) = marksAtEnd mark xs := by
  induction xs using List.reverseRecOn with
  | nil => exact (marksAtEnd_concat mark c []).trans (if_neg h)
  | append_singleton xs d ih => rw [← List.cons_append, marksAtEnd_concat, marksAtEnd_concat, ih]

/-- A mark and what it escapes take part in the run of marks at the end both or not at all. -/
theorem marksAtEnd_cons_mark_cons (mark c : α) (xs : List α) :
    marksAtEnd mark (mark :: c :: xs) = marksAtEnd mark xs ∨
      marksAtEnd mark (mark :: c :: xs) = marksAtEnd mark xs + 2 := by
  induction xs using List.reverseRecOn with
  | nil =>
      have hone : marksAtEnd mark [mark] = 1 := (marksAtEnd_concat mark mark []).trans (if_pos rfl)
      have htwo := marksAtEnd_concat mark c [mark]
      rw [List.singleton_append, hone] at htwo
      rw [htwo]
      split
      · exact .inr rfl
      · exact .inl rfl
  | append_singleton xs d ih =>
      rw [← List.cons_append, ← List.cons_append, marksAtEnd_concat, marksAtEnd_concat]
      split
      · exact ih.imp (congrArg (· + 1)) (congrArg (· + 1))
      · exact .inl rfl

@[simp] theorem isFree_nil (mark : α) : IsFree mark [] := by
  simp [IsFree, marksAtEnd]

/-- A single mark escapes what follows it. -/
theorem not_isFree_singleton (mark : α) : ¬ IsFree mark [mark] := by
  simp [IsFree, marksAtEnd, List.rtakeWhile]

/-- What is no mark leaves the places after it as they are. -/
theorem isFree_cons_of_ne {mark c : α} (h : c ≠ mark) (xs : List α) :
    IsFree mark (c :: xs) ↔ IsFree mark xs := by
  rw [IsFree, marksAtEnd_cons_of_ne h, IsFree]

/-- An escape of two elements leaves the places after it as they are. -/
theorem isFree_cons_mark_cons (mark c : α) (xs : List α) :
    IsFree mark (mark :: c :: xs) ↔ IsFree mark xs := by
  rcases marksAtEnd_cons_mark_cons mark c xs with h | h
  · rw [IsFree, h, IsFree]
  · rw [IsFree, h, Nat.even_add_one, Nat.even_add_one, not_not, IsFree]

end Fingerprinting.Text
