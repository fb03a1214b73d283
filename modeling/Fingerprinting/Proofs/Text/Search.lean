/-
# Where a byte string is cut

A byte string contains another one when that occurs in it.  It is cut at the first occurrence of a
separator: the part before it has none, also not together with the beginning of the separator
itself.  What follows the separator has no influence on where that is.

* `contains_iff` says what a byte string contains;
* `cut?_eq_some_iff` and `cut?_eq_none_iff` say where a byte string is cut;
* `cut?_of_append` cuts what is left of a byte string when its end is missing.
-/
import Mathlib.Data.List.Infix
import Fingerprinting.Proofs.Lists
import Fingerprinting.Text.Search

namespace Fingerprinting.Bytes

variable {sep : Bytes}

/-- A byte string contains what occurs in it. -/
theorem contains_iff (needle b : Bytes) : contains needle b = true ↔ needle <:+: b := by
  induction b with
  | nil => simp [contains]
  | cons c rest ih =>
      rw [contains, Bool.or_eq_true, ih, List.isPrefixOf_iff_prefix, List.infix_cons_iff]

/-- A byte string is cut unless the separator does not occur. -/
theorem cut?_eq_none_iff (hsep : sep ≠ []) (b : Bytes) : cut? sep b = none ↔ ¬ sep <:+: b := by
  induction b with
  | nil => simp [cut?, hsep]
  | cons c rest ih =>
      rw [cut?, List.infix_cons_iff, not_or, ← ih, ← List.isPrefixOf_iff_prefix]
      split
      · rename_i hleads
        simp [hleads]
      · rename_i hleads
        simp [hleads]

/-- A byte string is cut at the first occurrence of the separator. -/
theorem cut?_eq_some_iff (hsep : sep ≠ []) (b before after : Bytes) :
    cut? sep b = some (before, after) ↔
      b = before ++ sep ++ after ∧ ¬ sep <:+: before ++ sep.dropLast := by
  induction b generalizing before with
  | nil =>
      rw [cut?]
      constructor
      · intro h
        cases h
      · rintro ⟨h, -⟩
        simp [hsep] at h
  | cons c rest ih =>
      rw [cut?]
      split
      · rename_i hleads
        rw [List.isPrefixOf_iff_prefix] at hleads
        constructor
        · intro h
          cases h
          have hlength := Lists.length_dropLast_add_one hsep
          have hshort : sep.dropLast.length < sep.length := by omega
          obtain ⟨tail, htail⟩ := hleads
          refine ⟨?_, fun hoccurs => absurd hoccurs.length_le (Nat.not_le.mpr hshort)⟩
          rw [← htail]
          simp
        · rintro ⟨h, hfirst⟩
          obtain rfl := Lists.eq_nil_of_leads hsep (h ▸ hleads) hfirst
          simp [h]
      · rename_i hleads
        rw [List.isPrefixOf_iff_prefix] at hleads
        cases before with
        | nil =>
            constructor
            · intro h
              simp at h
            · rintro ⟨h, -⟩
              refine absurd ?_ hleads
              rw [h, List.nil_append]
              exact List.prefix_append sep after
        | cons d before =>
            rw [Option.map_eq_some_iff, List.cons_append, List.cons_append, List.cons_append,
              List.cons.injEq, List.infix_cons_iff, not_or]
            constructor
            · rintro ⟨⟨x, y⟩, hcut, hparts⟩
              cases hparts
              obtain ⟨h, hfirst⟩ := (ih before).mp hcut
              refine ⟨⟨rfl, h⟩, fun hbefore => hleads ?_, hfirst⟩
              rw [h]
              exact hbefore.trans (Lists.dropLast_prefix_append (c :: before) after)
            · rintro ⟨⟨rfl, h⟩, -, hfirst⟩
              exact ⟨(before, after), (ih before).mpr ⟨h, hfirst⟩, rfl⟩

/-- A separator that does not occur before is found where it stands. -/
theorem cut?_append (hsep : sep ≠ []) (before after : Bytes)
    (h : ¬ sep <:+: before ++ sep.dropLast) :
    cut? sep (before ++ sep ++ after) = some (before, after) :=
  (cut?_eq_some_iff hsep _ _ _).mpr ⟨rfl, h⟩

/-- Where a byte string is cut does not depend on its end. -/
theorem cut?_of_append (hsep : sep ≠ []) {b rest before after : Bytes}
    (h : cut? sep (b ++ rest) = some (before, after ++ rest)) :
    cut? sep b = some (before, after) := by
  obtain ⟨hb, hfirst⟩ := (cut?_eq_some_iff hsep _ _ _).mp h
  rw [← List.append_assoc, List.append_left_inj] at hb
  exact (cut?_eq_some_iff hsep _ _ _).mpr ⟨hb, hfirst⟩

end Fingerprinting.Bytes
