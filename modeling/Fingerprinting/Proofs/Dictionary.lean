/-
# Keys of a dictionary

An insertion puts an entry in the place of the one with its key, or where the order of the keys
wants it.  A dictionary that is made by insertions therefore has its keys in order, none of them
twice, and its size is the number of keys that have a value.

* `IsSorted.insert` says that an insertion keeps the order;
* `mem_keys_iff` says which keys there are, and `IsSorted.keys_eq` that this says in which order;
* `IsSorted.size_eq` counts them.
-/
import Mathlib.Data.List.Sort
import Mathlib.Data.String.Basic
import Fingerprinting.Dictionary
import Fingerprinting.Proofs.Lists

namespace Fingerprinting.Dictionary

variable {α : Type}

/-! ## Keys -/

theorem find?_eq_none_iff (key : String) (entries : List (String × α)) :
    find? key entries = none ↔ key ∉ entries.map Prod.fst := by
  induction entries with
  | nil => simp [find?]
  | cons entry rest ih =>
      obtain ⟨k, a⟩ := entry
      by_cases hk : k = key
      · simp [find?, hk]
      · have hkey : ¬ key = k := fun h => hk h.symm
        simp [find?, hk, hkey, ih]

/-- The keys are those that have a value. -/
theorem mem_keys_iff (d : Dictionary α) (key : String) :
    key ∈ d.keys ↔ (d.get? key).isSome = true := by
  have hnone : d.get? key = none ↔ key ∉ d.keys := find?_eq_none_iff key d.entries
  cases hget : d.get? key with
  | none =>
      rw [hget] at hnone
      simpa using hnone.mp rfl
  | some a =>
      rw [hget] at hnone
      simpa using hnone

/-- An extension has the keys of both dictionaries. -/
theorem isSome_get?_extend_iff (d e : Dictionary α) (key : String) :
    ((d.extend e).get? key).isSome = true ↔
      (d.get? key).isSome = true ∨ (e.get? key).isSome = true := by
  obtain ⟨entries⟩ := e
  show ((entries.foldl (fun d entry => d.insert entry.1 entry.2) d).get? key).isSome = true ↔
    _ ∨ (find? key entries).isSome = true
  induction entries generalizing d with
  | nil => simp [find?]
  | cons entry rest ih =>
      obtain ⟨k, a⟩ := entry
      rw [List.foldl_cons, ih, get?_insert, find?]
      by_cases hk : k = key
      · simp [hk]
      · simp [hk]

/-- What stands under a key is one of the values. -/
theorem mem_values_of_get? {d : Dictionary α} {key : String} {a : α} (h : d.get? key = some a) :
    a ∈ d.values := by
  obtain ⟨entries⟩ := d
  replace h : find? key entries = some a := h
  show a ∈ entries.map Prod.snd
  induction entries with
  | nil => cases h
  | cons entry rest ih =>
      obtain ⟨k, b⟩ := entry
      unfold find? at h
      split at h
      · cases h
        exact List.mem_cons_self
      · exact List.mem_cons_of_mem _ (ih h)

/-! ## Order -/

/-- The keys stand in order, and none of them is there twice. -/
def IsSorted (d : Dictionary α) : Prop := d.keys.Pairwise (· < ·)

theorem isSorted_empty : (empty : Dictionary α).IsSorted := List.Pairwise.nil

/-- Putting an entry adds its key and no other. -/
theorem mem_keys_put {key other : String} {a : α} {entries : List (String × α)}
    (h : other ∈ (put key a entries).map Prod.fst) :
    other = key ∨ other ∈ entries.map Prod.fst := by
  have hother : find? other (put key a entries) ≠ none :=
    fun hnone => (find?_eq_none_iff _ _).mp hnone h
  rw [find?_put] at hother
  by_cases hkey : key = other
  · exact .inl hkey.symm
  · rw [if_neg hkey] at hother
    by_contra hnot
    rw [not_or] at hnot
    exact hother ((find?_eq_none_iff _ _).mpr hnot.2)

/-- An insertion keeps the keys in order. -/
theorem IsSorted.insert {d : Dictionary α} (h : d.IsSorted) (key : String) (a : α) :
    (d.insert key a).IsSorted := by
  obtain ⟨entries⟩ := d
  show ((put key a entries).map Prod.fst).Pairwise (· < ·)
  have hsorted : (entries.map Prod.fst).Pairwise (· < ·) := h
  clear h
  induction entries with
  | nil => exact List.pairwise_singleton _ _
  | cons entry rest ih =>
      obtain ⟨k, b⟩ := entry
      rw [List.map_cons, List.pairwise_cons] at hsorted
      obtain ⟨hfirst, hrest⟩ := hsorted
      unfold put
      split
      · rename_i heq
        subst heq
        exact List.pairwise_cons.mpr ⟨hfirst, hrest⟩
      · rename_i hne
        split
        · -- The new key comes before the first one, and so before all others.
          rename_i hlt
          refine List.pairwise_cons.mpr ⟨fun other hother => ?_, List.pairwise_cons.mpr
            ⟨hfirst, hrest⟩⟩
          rcases List.mem_cons.mp hother with rfl | hother
          · exact hlt
          · exact hlt.trans (hfirst other hother)
        · rename_i hnot
          have hlt : k < key := lt_of_le_of_ne (not_lt.mp hnot) (Ne.symm hne)
          refine List.pairwise_cons.mpr ⟨fun other hother => ?_, ih hrest⟩
          rcases mem_keys_put hother with rfl | hother
          · exact hlt
          · exact hfirst other hother

theorem IsSorted.nodup_keys {d : Dictionary α} (h : d.IsSorted) : d.keys.Nodup :=
  h.imp fun hlt => hlt.ne

/-- Keys that stand in order are given by which keys there are. -/
theorem IsSorted.keys_eq {d e : Dictionary α} (hd : d.IsSorted) (he : e.IsSorted)
    (h : ∀ key, key ∈ d.keys ↔ key ∈ e.keys) : d.keys = e.keys :=
  List.Pairwise.eq_of_mem_iff hd he fun {key} => h key

/-- The size of a dictionary is the number of different keys that have a value. -/
theorem IsSorted.size_eq {d : Dictionary α} (h : d.IsSorted) (names : List String)
    (hnames : ∀ name, (d.get? name).isSome = true ↔ name ∈ names) :
    d.size = names.eraseDups.length := by
  have hperm : d.keys.Perm names.eraseDups := by
    refine (List.perm_ext_iff_of_nodup h.nodup_keys
      (Lists.nodup_eraseDups names)).mpr fun name => ?_
    rw [mem_keys_iff, hnames, List.mem_eraseDups]
  have hlength : d.keys.length = d.size := List.length_map _
  rw [← hlength, hperm.length_eq]

end Fingerprinting.Dictionary
