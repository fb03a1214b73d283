/-
# Fields in any order

A record is read from a map by the names of its fields.  The order in which the entries of the map
are written says nothing about the record.

* `Options.mapM_perm` says that steps along a list that may give nothing are taken in any order;
* `Document.slots?_perm` says so of the fields of a record.
-/
import Mathlib.Data.List.Perm.Basic
import Mathlib.Tactic.Common
import Fingerprinting.Document

namespace Fingerprinting

/-! ## Steps -/

namespace Options

variable {α β : Type}

/-- Steps along a list give something when each of them does. -/
theorem mapM_eq_some_iff (f : α → Option β) (xs : List α) (ys : List β) :
    xs.mapM f = some ys ↔ List.Forall₂ (fun x y => f x = some y) xs ys := by
  induction xs generalizing ys with
  | nil =>
      rw [List.mapM_nil, List.forall₂_nil_left_iff]
      exact Option.some_inj.trans eq_comm
  | cons x rest ih =>
      rw [List.mapM_cons, Option.bind_eq_bind, Option.bind_eq_some_iff, List.forall₂_cons_left_iff]
      constructor
      · rintro ⟨y, hy, h⟩
        obtain ⟨ys', hys, hcons⟩ := Option.bind_eq_some_iff.mp h
        cases hcons
        exact ⟨y, ys', hy, (ih ys').mp hys, rfl⟩
      · rintro ⟨y, ys', hy, hys, rfl⟩
        exact ⟨y, hy, Option.bind_eq_some_iff.mpr ⟨ys', (ih ys').mpr hys, rfl⟩⟩

/-- Steps along a list are taken in any order, and the order of what they give changes with it. -/
theorem mapM_perm (f : α → Option β) {xs xs' : List α} (hperm : xs.Perm xs') :
    Option.Rel List.Perm (xs.mapM f) (xs'.mapM f) := by
  have hforward {xs xs' : List α} (hperm : xs'.Perm xs) {ys : List β}
      (h : xs.mapM f = some ys) : ∃ ys', xs'.mapM f = some ys' ∧ ys'.Perm ys := by
    obtain ⟨ys', hys', hys⟩ := List.perm_comp_forall₂ hperm ((mapM_eq_some_iff f xs ys).mp h)
    exact ⟨ys', (mapM_eq_some_iff f xs' ys').mpr hys', hys⟩
  cases hleft : xs.mapM f with
  | some ys =>
      obtain ⟨ys', hright, hys⟩ := hforward hperm.symm hleft
      rw [hright]
      exact .some hys.symm
  | none =>
      cases hright : xs'.mapM f with
      | none => exact .none
      | some ys' =>
          obtain ⟨ys, hys, -⟩ := hforward hperm hright
          rw [hleft] at hys
          cases hys

end Options

/-! ## Records -/

namespace Document

/-- The one entry under some spellings of a key is found wherever it stands. -/
theorem slot?_perm {entries entries' : List (String × Document)} (h : entries.Perm entries')
    (names : List String) : slot? entries names = slot? entries' names := by
  have hfound := h.filter fun e => names.contains e.1
  unfold slot?
  generalize entries.filter (fun e => names.contains e.1) = found at hfound ⊢
  generalize entries'.filter (fun e => names.contains e.1) = found' at hfound ⊢
  match found, found', hfound, hfound.length_eq with
  | [], found', hfound, _ => rw [hfound.nil_eq]
  | [e], found', hfound, _ => rw [List.perm_singleton.mp hfound.symm]
  | _ :: _ :: _, _ :: _ :: _, _, _ => rfl

/-- The entries of a map that is written in another order are the same. -/
theorem entries?_perm (tag : Option String) {entries entries' : List (Document × Document)}
    (h : entries.Perm entries') :
    Option.Rel List.Perm (entries? (.map tag entries)) (entries? (.map tag entries')) :=
  Options.mapM_perm _ h

/-- The fields of a record do not depend on the order of the entries. -/
theorem slots?_perm (names : List (List String)) (tag : Option String)
    {entries entries' : List (Document × Document)} (h : entries.Perm entries') :
    slots? names (.map tag entries) = slots? names (.map tag entries') := by
  have hread := entries?_perm tag h
  show (entries? (.map tag entries)).bind (fun read => names.mapM (slot? read)) =
    (entries? (.map tag entries')).bind fun read => names.mapM (slot? read)
  generalize entries? (.map tag entries) = read at hread ⊢
  generalize entries? (.map tag entries') = read' at hread ⊢
  cases hread with
  | none => rfl
  | some hperm => rw [Option.bind_some, Option.bind_some, funext (slot?_perm hperm)]

end Document

end Fingerprinting
