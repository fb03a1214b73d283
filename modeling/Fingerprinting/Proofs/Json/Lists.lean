/-
# How a list in JSON begins

A JSON text begins, after blanks, with the byte that tells what kind of value it is.  Of all values
only lists have items, so a text that is read as a list begins with a bracket.

* `items?_of_number?` says so of numbers, whose first byte does not tell them from everything else;
* `firstByte?_of_ofJson?` says which byte comes first in a list.
-/
import Mathlib.Tactic.Common
import Fingerprinting.Corpus

namespace Fingerprinting.Json

/-! ## First bytes -/

/-- A byte that is not blank and comes first among the tokens comes first of all. -/
theorem firstByte?_of_skipBlanks {b rest : Bytes} {c : UInt8} (h : skipBlanks b = c :: rest)
    (hc : Corpus.isBlankByte c = false) : Corpus.firstByte? b = some c := by
  induction b with
  | nil => cases h
  | cons x more ih =>
      rw [skipBlanks, List.dropWhile_cons] at h
      split at h
      · rename_i hx
        have hblank : Corpus.isBlankByte x = true := by
          simp only [Corpus.isBlankByte, Bool.or_eq_true] at hx ⊢
          tauto
        rw [Corpus.firstByte?, List.find?_cons_of_neg (by simp [hblank])]
        exact ih h
      · cases h
        rw [Corpus.firstByte?, List.find?_cons_of_pos (by simp [hc])]

/-! ## Values without items -/

theorem items?_stringDocument (ps : List Piece) : (stringDocument ps).items? = none := by
  unfold stringDocument
  split <;> rfl

theorem items?_numberDocument (negative : Bool) (before : List Nat) (after : Option (List Nat))
    (exponent : Option Int) : (numberDocument negative before after exponent).items? = none := by
  unfold numberDocument
  dsimp only
  split
  · split
    · rfl
    · split <;> rfl
  · split
    · split <;> rfl
    · split <;> rfl

/-- Whatever its parts are, a number has no items. -/
theorem items?_of_parts {negative : Bool} {before : List Nat}
    {parts : Option (Option (List Nat) × Bytes)} {d : Document} {rest : Bytes}
    (h : (do
      let (after, b) ← parts
      let (e, b) ← exponent? b
      some (numberDocument negative before after e, b)) = some (d, rest)) : d.items? = none := by
  obtain ⟨⟨after, b⟩, -, h⟩ := Option.bind_eq_some_iff.mp h
  obtain ⟨⟨e, b⟩, -, h⟩ := Option.bind_eq_some_iff.mp h
  cases h
  exact items?_numberDocument negative before after e

theorem items?_of_number? {b rest : Bytes} {d : Document} (h : number? b = some (d, rest)) :
    d.items? = none := by
  unfold number? at h
  dsimp only at h
  split at h
  · cases h
  · cases h
  · split at h
    · split at h
      · split at h
        · exact items?_of_parts h
        · exact items?_of_parts h
      · exact items?_of_parts h
    · exact items?_of_parts h

theorem items?_of_expect? {lead : String} {doc d : Document} {b rest : Bytes}
    (hdoc : doc.items? = none) (h : (do some (doc, ← expect? lead b)) = some (d, rest)) :
    d.items? = none := by
  obtain ⟨after, -, h⟩ := Option.bind_eq_some_iff.mp h
  cases h
  exact hdoc

/-! ## Lists -/

/-- A value with items begins with a bracket. -/
theorem firstByte?_of_value? {bound : Nat} {b rest : Bytes} {d : Document}
    (h : value? bound 0 b = some (d, rest)) (hd : d.items? ≠ none) :
    Corpus.firstByte? b = some 0x5B := by
  cases bound with
  | zero => cases h
  | succ bound =>
      rw [value?] at h
      split at h
      · cases h
      · rename_i c more hskip
        split_ifs at h with hquote hbracket hbrace hnull htrue hfalse
        · obtain ⟨⟨ps, after⟩, -, hdoc⟩ := Option.bind_eq_some_iff.mp h
          cases hdoc
          exact absurd (items?_stringDocument ps) hd
        · rw [hbracket] at hskip
          exact firstByte?_of_skipBlanks hskip (by decide)
        · obtain ⟨⟨entries, after⟩, -, hdoc⟩ := Option.bind_eq_some_iff.mp h
          cases hdoc
          exact absurd rfl hd
        · exact absurd (items?_of_expect? rfl h) hd
        · exact absurd (items?_of_expect? rfl h) hd
        · exact absurd (items?_of_expect? rfl h) hd
        · exact absurd (items?_of_number? h) hd

/-- A list in JSON begins with a bracket. -/
theorem firstByte?_of_ofJson? {b : Bytes} {d : Document} (h : Document.ofJson? b = some d)
    (hd : d.items? ≠ none) : Corpus.firstByte? b = some 0x5B := by
  obtain ⟨⟨doc, rest⟩, hvalue, hdoc⟩ := Option.bind_eq_some_iff.mp h
  dsimp only at hdoc
  split at hdoc
  · cases hdoc
    exact firstByte?_of_value? hvalue hd
  · cases hdoc

end Fingerprinting.Json
