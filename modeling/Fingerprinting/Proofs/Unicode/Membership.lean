/-
# Characters outside a property

A property is read from a written table of ranges, which are sorted and joined.  Joining adds no
number, so whatever lies outside every range of the table does not have the property.

* `hasRange_of_mem_ofRanges` says so of any list of ranges;
* `isCaseless_of_mem` says that underscores and hyphens neither have case nor are ignored where case
  is looked for.
-/
import Mathlib.Tactic.Common
import Fingerprinting.Text.Case

namespace Fingerprinting.Unicode

namespace RangeSet

/-! ## Ranges -/

/-- A number is in one of some ranges. -/
def HasRange (rs : List (Nat × Nat)) (n : Nat) : Prop := ∃ r ∈ rs, r.1 ≤ n ∧ n ≤ r.2

theorem hasRange_cons (r : Nat × Nat) (rest : List (Nat × Nat)) (n : Nat) :
    HasRange (r :: rest) n ↔ (r.1 ≤ n ∧ n ≤ r.2) ∨ HasRange rest n := by
  simp [HasRange]

theorem hasRange_of_covers {n : Nat} {rs : List (Nat × Nat)} (h : covers n rs = true) :
    HasRange rs n := by
  induction rs with
  | nil => cases h
  | cons r rest ih =>
      rw [hasRange_cons]
      unfold covers at h
      split at h
      · cases h
      · rename_i hlo
        rcases Bool.or_eq_true_iff.mp h with hhi | hrest
        · exact .inl ⟨Nat.not_lt.mp hlo, of_decide_eq_true hhi⟩
        · exact .inr (ih hrest)

/-- Ranges that touch have no number between them that neither of them has. -/
theorem hasRange_of_joinFrom {n : Nat} (cur : Nat × Nat) (rs : List (Nat × Nat))
    (h : HasRange (joinFrom cur rs) n) : HasRange (cur :: rs) n := by
  induction rs generalizing cur with
  | nil => exact h
  | cons r rest ih =>
      unfold joinFrom at h
      split at h
      · rename_i htouch
        have hjoined := ih _ h
        simp only [hasRange_cons] at hjoined ⊢
        rcases hjoined with hjoined | hrest
        · omega
        · exact .inr (.inr hrest)
      · rw [hasRange_cons] at h ⊢
        exact h.imp_right (ih r)

/-- A set of ranges has no other numbers than they have. -/
theorem hasRange_of_mem_ofRanges {n : Nat} {rs : List (Nat × Nat)}
    (h : (ofRanges rs).mem n = true) : HasRange rs n := by
  have hsorted : HasRange ((rs.filter fun r => r.1 ≤ r.2).mergeSort fun a b => a.1 ≤ b.1) n := by
    unfold ofRanges at h
    split at h
    · cases h
    · rename_i r rest heq
      rw [heq]
      exact hasRange_of_joinFrom r rest (hasRange_of_covers h)
  obtain ⟨r, hr, hn⟩ := hsorted
  exact ⟨r, (List.mem_filter.mp (List.mem_mergeSort.mp hr)).1, hn⟩

/-- A number outside all ranges of a table is not in its set. -/
theorem not_mem_ofTable {n : Nat} {text : String}
    (h : ∀ r ∈ readTable none none text.toList, n < r.1 ∨ r.2 < n) :
    (ofTable text).mem n = false := by
  rw [Bool.eq_false_iff]
  intro hmem
  obtain ⟨r, hr, hlo, hhi⟩ := hasRange_of_mem_ofRanges hmem
  have houtside := h r hr
  omega

end RangeSet

/-! ## Properties -/

/-- A property has the table of the first entry with its name. -/
theorem property?_eq (name : String) (i : Nat) (hi : i < propertyTable.length)
    (hname : propertyTable[i].1.contains name = true)
    (hbefore : ∀ e ∈ propertyTable.take i, e.1.contains name = false) :
    property? name = some (.ofTable propertyTable[i].2) := by
  have hfind : (propertyTable.find? fun e => e.1.contains name) = some propertyTable[i] := by
    rw [List.find?_eq_some_iff_getElem]
    refine ⟨hname, i, hi, rfl, fun j hj => ?_⟩
    have hmem : propertyTable[j] ∈ propertyTable.take i := by
      rw [List.mem_take_iff_getElem]
      exact ⟨j, by omega, rfl⟩
    rw [hbefore _ hmem]
    rfl
  rw [property?, hfind, Option.map_some]

end Fingerprinting.Unicode

namespace Fingerprinting.Text

open Unicode (propertyTable property?_eq)

/-! ## Case -/

/-- A character that has no case and is not ignored where case is looked for. -/
def IsCaseless (c : Char) : Prop :=
  caseIgnorable.mem c.toNat = false ∧ cased.mem c.toNat = false

-- A long text is read as a list of as many characters.
set_option maxRecDepth 100000 in
/-- Underscores and hyphens are outside the table of characters that are ignored. -/
theorem outside_caseIgnorable :
    ∀ r ∈ Unicode.RangeSet.readTable none none propertyTable[3].2.toList,
      ∀ n ∈ ['_'.toNat, '-'.toNat], n < r.1 ∨ r.2 < n := by
  have htext : propertyTable[3].2 = String.ofList _ := rfl
  rw [htext, String.toList_ofList]
  decide +kernel

set_option maxRecDepth 100000 in
/-- Underscores and hyphens are outside the table of characters with case. -/
theorem outside_cased :
    ∀ r ∈ Unicode.RangeSet.readTable none none propertyTable[4].2.toList,
      ∀ n ∈ ['_'.toNat, '-'.toNat], n < r.1 ∨ r.2 < n := by
  have htext : propertyTable[4].2 = String.ofList _ := rfl
  rw [htext, String.toList_ofList]
  decide +kernel

/-- Underscores and hyphens have no case, and are not ignored. -/
theorem isCaseless_of_mem : ∀ c ∈ ['_', '-'], IsCaseless c := by
  have hignorable : caseIgnorable = .ofTable propertyTable[3].2 := by
    rw [caseIgnorable, property?_eq "caseignorable" 3 (by decide) (by decide) (by decide),
      Option.getD_some]
  have hcased : cased = .ofTable propertyTable[4].2 := by
    rw [cased, property?_eq "cased" 4 (by decide) (by decide) (by decide), Option.getD_some]
  intro c hc
  have hcode : c.toNat ∈ ['_'.toNat, '-'.toNat] := List.mem_map_of_mem hc
  constructor
  · rw [hignorable]
    exact Unicode.RangeSet.not_mem_ofTable fun r hr => outside_caseIgnorable r hr _ hcode
  · rw [hcased]
    exact Unicode.RangeSet.not_mem_ofTable fun r hr => outside_cased r hr _ hcode

/-- Characters that are ignored are passed over, and the first other one decides. -/
theorem startsCased_cons (c : Char) (rest : List Char) :
    startsCased (c :: rest) =
      if caseIgnorable.mem c.toNat = true then startsCased rest else cased.mem c.toNat := by
  rw [startsCased]
  by_cases hignored : caseIgnorable.mem c.toNat = true
  · rw [if_pos hignored, List.dropWhile_cons, if_pos hignored, startsCased]
  · rw [if_neg hignored, List.dropWhile_cons, if_neg hignored]

end Fingerprinting.Text
