/-
# Lists

What the theory of the library needs to know about lists in which every element is kept at its first
occurrence only, about lists that change at one place, and about where one list occurs in another.

* `nodup_eraseDups` says that nothing is kept twice;
* `eraseDups_append_of_mem` and `eraseDups_append_of_not_mem` say what one more element at the end
  changes;
* `inFirstOrder_eraseDups` says in which order elements are kept, and `eraseDups_append_eraseDups` that
  a part of a list may be treated so before the whole is;
* `exists_getElem?_concat_iff` says what holds at a place when one more element stands at the end,
  and `modify_append` in which part of a list a place is;
* `eq_nil_of_leads` says that a first occurrence which begins a list has nothing before it;
* `infix_append_cons_iff` and `cons_infix_append_iff` say what cannot be part of an occurrence.
-/
import Mathlib.Tactic.Common
import Mathlib.Data.List.Basic
import Mathlib.Data.List.Induction

namespace Fingerprinting.Lists

section Unique

variable {α : Type} [BEq α] [LawfulBEq α]

/-- Nothing is kept twice. -/
theorem nodup_eraseDups (xs : List α) : xs.eraseDups.Nodup := by
  match xs with
  | [] => simp
  | x :: rest =>
      rw [List.eraseDups_cons, List.nodup_cons, List.mem_eraseDups]
      constructor
      · simp
      · exact nodup_eraseDups (rest.filter fun y => !y == x)
termination_by xs.length
decreasing_by exact Nat.lt_succ_of_le (List.length_filter_le _ _)

/-- An element at the end that is there already is not kept. -/
theorem eraseDups_append_of_mem (xs : List α) (x : α) (h : x ∈ xs) :
    (xs ++ [x]).eraseDups = xs.eraseDups := by
  simp [List.eraseDups_append, List.removeAll, h]

/-- A new element at the end is kept there. -/
theorem eraseDups_append_of_not_mem (xs : List α) (x : α) (h : x ∉ xs) :
    (xs ++ [x]).eraseDups = xs.eraseDups ++ [x] := by
  simp [List.eraseDups_append, List.eraseDups_cons, List.removeAll, h]

/-- The elements of a list in the order of their first occurrences. -/
structure InFirstOrder (xs all : List α) : Prop where
  mem_iff : ∀ x, x ∈ xs ↔ x ∈ all
  order : xs.Pairwise fun x y => all.idxOf x < all.idxOf y

/-- Elements are kept in the order of their first occurrences. -/
theorem inFirstOrder_eraseDups (all : List α) : InFirstOrder all.eraseDups all := by
  refine ⟨fun x => List.mem_eraseDups, ?_⟩
  induction all using List.reverseRecOn with
  | nil => exact .nil
  | append_singleton all z ih =>
      -- What stands at the end leaves the elements before it where they are.
      have hbefore : all.eraseDups.Pairwise fun x y =>
          (all ++ [z]).idxOf x < (all ++ [z]).idxOf y := by
        refine ih.imp_of_mem fun hx hy h => ?_
        rwa [List.idxOf_append_of_mem (List.mem_eraseDups.mp hx),
          List.idxOf_append_of_mem (List.mem_eraseDups.mp hy)]
      by_cases hz : z ∈ all
      · rwa [eraseDups_append_of_mem _ _ hz]
      · rw [eraseDups_append_of_not_mem _ _ hz]
        refine List.pairwise_append.mpr ⟨hbefore, List.pairwise_singleton _ _, fun x hx y hy => ?_⟩
        obtain rfl := List.mem_singleton.mp hy
        have hx := List.mem_eraseDups.mp hx
        rw [List.idxOf_append_of_mem hx, List.idxOf_append_of_notMem hz]
        exact Nat.lt_add_right _ (List.idxOf_lt_length_of_mem hx)

/-- What follows does not see whether elements were there more than once. -/
theorem eraseDups_append_congr {xs ys : List α} (h : xs.eraseDups = ys.eraseDups) (zs : List α) :
    (xs ++ zs).eraseDups = (ys ++ zs).eraseDups := by
  induction zs using List.reverseRecOn with
  | nil => simpa using h
  | append_singleton zs z ih =>
      have hmem : z ∈ xs ++ zs ↔ z ∈ ys ++ zs := by
        rw [← List.mem_eraseDups, ih, List.mem_eraseDups]
      rw [← List.append_assoc, ← List.append_assoc]
      by_cases hz : z ∈ xs ++ zs
      · rw [eraseDups_append_of_mem _ _ hz, eraseDups_append_of_mem _ _ (hmem.mp hz), ih]
      · rw [eraseDups_append_of_not_mem _ _ hz, eraseDups_append_of_not_mem _ _ (mt hmem.mpr hz), ih]

/-- A part of a list that is kept at first occurrences may be so before the whole is. -/
theorem eraseDups_append_eraseDups (xs ys : List α) :
    (xs ++ ys.eraseDups).eraseDups = (xs ++ ys).eraseDups := by
  induction ys using List.reverseRecOn with
  | nil => rfl
  | append_singleton ys y ih =>
      rw [← List.append_assoc]
      by_cases hy : y ∈ ys
      · rw [eraseDups_append_of_mem _ _ hy, ih,
          eraseDups_append_of_mem _ _ (List.mem_append_right xs hy)]
      · rw [eraseDups_append_of_not_mem _ _ hy, ← List.append_assoc]
        exact eraseDups_append_congr ih [y]

end Unique

variable {α : Type}

/-- What holds at a place of a list with one more element at its end. -/
theorem exists_getElem?_concat_iff (P : α → Prop) (xs : List α) (x : α) (i : Nat) :
    (∃ y, (xs ++ [x])[i]? = some y ∧ P y) ↔
      (∃ y, xs[i]? = some y ∧ P y) ∨ i = xs.length ∧ P x := by
  rcases Nat.lt_trichotomy i xs.length with hlt | rfl | hgt
  · rw [List.getElem?_append_left hlt]
    exact (or_iff_left fun h => Nat.ne_of_lt hlt h.1).symm
  · simp
  · have hlength : (xs ++ [x]).length ≤ i := by
      rw [List.length_append]
      exact hgt
    rw [List.getElem?_eq_none hlength, List.getElem?_eq_none (Nat.le_of_lt hgt)]
    simp [Nat.ne_of_gt hgt]

/-- A place is in the first part of a list, or in the second one. -/
theorem modify_append (xs ys : List α) (i : Nat) (f : α → α) :
    (xs ++ ys).modify i f =
      if i < xs.length then xs.modify i f ++ ys else xs ++ ys.modify (i - xs.length) f := by
  induction xs generalizing i with
  | nil => simp
  | cons x rest ih =>
      cases i with
      | zero => simp
      | succ i =>
          simp only [List.cons_append, List.modify_succ_cons, ih, List.length_cons,
            Nat.add_lt_add_iff_right, Nat.add_sub_add_right]
          split <;> rfl

/-! ## Occurrences -/

section Occurrences

variable {needle : List α}

/-- All of a list but its last element may follow the part before it. -/
theorem dropLast_prefix_append (before after : List α) :
    before ++ needle.dropLast <+: before ++ needle ++ after := by
  rw [List.append_assoc]
  exact (List.prefix_append_right_inj before).mpr
    ((List.dropLast_prefix needle).trans (List.prefix_append needle after))

theorem length_dropLast_add_one (h : needle ≠ []) :
    needle.dropLast.length + 1 = needle.length := by
  rw [List.length_dropLast]
  exact Nat.sub_add_cancel (List.length_pos_iff.mpr h)

/-- Nothing stands before an occurrence that begins the whole, when there is none before it. -/
theorem eq_nil_of_leads (hne : needle ≠ []) {before after : List α}
    (hleads : needle <+: before ++ needle ++ after)
    (hfirst : ¬ needle <:+: before ++ needle.dropLast) : before = [] := by
  have hlength := length_dropLast_add_one hne
  cases before with
  | nil => rfl
  | cons c before =>
      refine absurd (List.IsPrefix.isInfix ?_) hfirst
      refine List.prefix_of_prefix_length_le hleads (dropLast_prefix_append _ _) ?_
      rw [List.length_append, List.length_cons]
      omega

/-- A list does not begin beyond an element that it does not have. -/
theorem prefix_append_cons_iff {c : α} (h : c ∉ needle) (before after : List α) :
    needle <+: before ++ c :: after ↔ needle <+: before := by
  induction before generalizing needle with
  | nil =>
      cases needle with
      | nil => simp
      | cons n needle =>
          have hne : ¬ n = c := by
            rintro rfl
            exact h List.mem_cons_self
          rw [List.nil_append, List.cons_prefix_cons]
          simp [hne]
  | cons d before ih =>
      cases needle with
      | nil => simp
      | cons n needle =>
          rw [List.cons_append, List.cons_prefix_cons, List.cons_prefix_cons,
            ih fun hmem => h (List.mem_cons_of_mem n hmem)]

/-- A list does not occur across an element that it does not have. -/
theorem infix_append_cons_iff {c : α} (h : c ∉ needle) (before after : List α) :
    needle <:+: before ++ c :: after ↔ needle <:+: before ∨ needle <:+: after := by
  induction before with
  | nil =>
      have hleads := prefix_append_cons_iff h [] after
      rw [List.nil_append] at hleads ⊢
      rw [List.infix_cons_iff, hleads, List.prefix_nil, List.infix_nil]
  | cons d before ih =>
      have hleads := prefix_append_cons_iff h (d :: before) after
      rw [List.cons_append] at hleads ⊢
      rw [List.infix_cons_iff, hleads, ih, List.infix_cons_iff, or_assoc]

/-- A list does not begin to occur where its first element is missing. -/
theorem cons_infix_append_iff {n : α} {before : List α} (h : n ∉ before) (after : List α) :
    n :: needle <:+: before ++ after ↔ n :: needle <:+: after := by
  induction before with
  | nil => rfl
  | cons d before ih =>
      have hne : ¬ n = d := by
        rintro rfl
        exact h List.mem_cons_self
      rw [List.cons_append, List.infix_cons_iff, List.cons_prefix_cons,
        ih fun hmem => h (List.mem_cons_of_mem d hmem)]
      simp [hne]

end Occurrences

end Fingerprinting.Lists
