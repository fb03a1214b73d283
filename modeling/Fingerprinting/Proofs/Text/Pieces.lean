/-
# Pieces between separators

Texts that are joined around a separator are the pieces between its occurrences, when none of them
has it.  A lead that stands before a text is taken off again.

* `splitOn_join` says which pieces a joined text has;
* `after_append` and `of_after` take a lead off;
* `cut_append` and `of_cut` say where a text is cut;
* `trim_of_isTrimmed` says that a text without blanks at its ends stays as it is.
-/
import Fingerprinting.Proofs.Text.Lines

namespace Fingerprinting.Text

/-! ## Trimming -/

/-- A text without blanks at its ends stays as it is. -/
theorem trim_of_isTrimmed (s : String) (h : IsTrimmed s.toList) : trim s = s := by
  rw [trim, trimChars_of_isTrimmed _ h, String.ofList_toList]

/-- A text without blanks is trimmed. -/
theorem isTrimmed_of_forall (cs : List Char) (h : ∀ c ∈ cs, isBlank c = false) : IsTrimmed cs :=
  ⟨fun c hc => h c (List.mem_of_head? hc), fun c hc => h c (List.mem_of_getLast? hc)⟩

/-- Trimming stops at the last character that is kept. -/
theorem trimEndChars_append (p : Char → Bool) (xs ys : List Char) (c : Char)
    (hlast : xs.getLast? = some c) (hc : p c = false) :
    trimEndChars p (xs ++ ys) = xs ++ trimEndChars p ys := by
  have hhead : ∀ d, xs.reverse.head? = some d → p d = false := by
    intro d hd
    rw [List.head?_reverse, hlast] at hd
    cases hd
    exact hc
  rw [trimEndChars, List.reverse_append, List.dropWhile_append]
  split
  · rename_i hempty
    rw [dropWhile_of_head p _ hhead, List.reverse_reverse, trimEndChars,
      List.isEmpty_iff.mp hempty, List.reverse_nil, List.append_nil]
  · rw [List.reverse_append, List.reverse_reverse, trimEndChars]

/-- A character at the end that is kept keeps all before it. -/
theorem trimEndChars_concat_keep (p : Char → Bool) (cs : List Char) (c : Char) (h : p c = false) :
    trimEndChars p (cs ++ [c]) = cs ++ [c] := by
  have hstop := trimEndChars_append p (cs ++ [c]) [] c (by simp) h
  have hnil : trimEndChars p [] = [] := rfl
  rwa [List.append_nil, hnil, List.append_nil] at hstop

/-- A character at the end that is not kept. -/
theorem trimEndChars_concat_drop (p : Char → Bool) (cs : List Char) (c : Char) (h : p c = true) :
    trimEndChars p (cs ++ [c]) = trimEndChars p cs := by
  rw [trimEndChars, List.reverse_append, List.reverse_singleton, List.singleton_append,
    List.dropWhile_cons_of_pos h, trimEndChars]

/-! ## Leads -/

theorem stripStart_append (lead cs : List Char) : stripStart lead (lead ++ cs) = some cs := by
  have hprefix : lead.isPrefixOf (lead ++ cs) = true := by
    rw [List.isPrefixOf_iff_prefix]
    exact List.prefix_append lead cs
  rw [stripStart, if_pos hprefix, List.drop_left]

/-- What follows a lead. -/
theorem after_append (lead s : String) : after lead (lead ++ s) = some s := by
  rw [after, String.toList_append, stripStart_append, Option.map_some, String.ofList_toList]

/-- A text that begins with another character does not have a lead. -/
theorem after_of_head (lead s : String) (c : Char) (cs : List Char) (hlead : lead.toList = c :: cs)
    (h : s.toList.head? ≠ some c) : after lead s = none := by
  have hprefix : ¬ lead.toList.isPrefixOf s.toList = true := by
    rw [hlead, List.isPrefixOf_iff_prefix]
    rintro ⟨rest, hrest⟩
    rw [← hrest] at h
    exact h rfl
  rw [after, stripStart, if_neg hprefix, Option.map_none]

/-- A text that begins with a lead. -/
theorem of_after (lead s rest : String) (h : after lead s = some rest) : s = lead ++ rest := by
  unfold after stripStart at h
  split at h
  · rename_i hprefix
    obtain ⟨cs, hcs⟩ := List.isPrefixOf_iff_prefix.mp hprefix
    rw [← hcs, List.drop_left, Option.map_some, Option.some.injEq] at h
    rw [← h, ← String.toList_inj, String.toList_append, String.toList_ofList, hcs]
  · cases h

/-! ## Cutting -/

/-- A text is cut at the first occurrence of a character. -/
theorem cut_append (sep : Char) (first rest : String) (h : sep ∉ first.toList) :
    cut sep (first ++ String.singleton sep ++ rest) = some (first, rest) := by
  have hcut := cutWhere_append (· == sep) first.toList rest.toList sep (beq_eq_false_of_not_mem h)
    (beq_self_eq_true sep)
  have hlist : (first ++ String.singleton sep ++ rest).toList =
      first.toList ++ sep :: rest.toList := by
    simp
  rw [cut, hlist, hcut, Option.map_some]
  dsimp only
  rw [String.ofList_toList, String.ofList_toList]

/-- Where a text has been cut. -/
theorem of_cut (sep : Char) (s first rest : String) (h : cut sep s = some (first, rest)) :
    s = first ++ String.singleton sep ++ rest := by
  obtain ⟨⟨before, after⟩, hcut, hparts⟩ := Option.map_eq_some_iff.mp h
  cases hparts
  obtain ⟨-, c, hc, hlist⟩ := of_cutWhere _ _ _ _ hcut
  rw [beq_iff_eq.mp hc] at hlist
  rw [← String.toList_inj, hlist]
  simp

/-- A text without some character is not cut there. -/
theorem cut_eq_none (sep : Char) (s : String) (h : sep ∉ s.toList) : cut sep s = none := by
  rw [cut, (cutWhere_eq_none_iff _ _).mpr (beq_eq_false_of_not_mem h), Option.map_none]

/-! ## Separators -/

theorem toList_join (sep : String) (parts : List String) :
    (join sep parts).toList = List.intercalate sep.toList (parts.map String.toList) := by
  rw [join, String.toList_ofList]

/-- Every piece but the last is followed by the separator. -/
theorem intercalate_concat (sep last : List Char) (pieces : List (List Char)) :
    List.intercalate sep (pieces ++ [last]) =
      (pieces.flatMap fun piece => piece ++ sep) ++ last := by
  induction pieces with
  | nil => simp
  | cons piece rest ih =>
      have hne : rest ++ [last] ≠ [] := by simp
      obtain ⟨next, more, hmore⟩ := List.exists_cons_of_ne_nil hne
      rw [List.cons_append, hmore, List.intercalate_cons_cons, ← hmore, ih, List.flatMap_cons]
      simp only [List.append_assoc]

/-- The characters of a joined text are those of the texts and of the separator. -/
theorem mem_of_mem_join (sep : String) (parts : List String) (c : Char)
    (h : c ∈ (join sep parts).toList) : c ∈ sep.toList ∨ ∃ s ∈ parts, c ∈ s.toList := by
  rw [toList_join] at h
  induction parts with
  | nil => cases h
  | cons first rest ih =>
      cases rest with
      | nil => exact .inr ⟨first, List.mem_cons_self, by simpa using h⟩
      | cons next rest =>
          rw [List.map_cons, List.map_cons, List.intercalate_cons_cons, List.mem_append,
            List.mem_append] at h
          rcases h with (h | h) | h
          · exact .inr ⟨first, List.mem_cons_self, h⟩
          · exact .inl h
          · rcases ih h with h | ⟨s, hs, h⟩
            · exact .inl h
            · exact .inr ⟨s, List.mem_cons_of_mem _ hs, h⟩

/-- Pieces that are joined around a separator are cut there again. -/
theorem splitWhere_intercalate (sep : Char) (first : List Char) (rest : List (List Char))
    (h : ∀ piece ∈ first :: rest, sep ∉ piece) :
    splitWhere (· == sep) (List.intercalate [sep] (first :: rest)) = first :: rest := by
  induction rest generalizing first with
  | nil =>
      have hfirst := beq_eq_false_of_not_mem (h first List.mem_cons_self)
      rw [List.intercalate_singleton, splitWhere_eq_singleton _ _ hfirst]
  | cons next rest ih =>
      have hfirst := beq_eq_false_of_not_mem (h first List.mem_cons_self)
      have hrest := ih next fun piece hpiece => h piece (List.mem_cons_of_mem _ hpiece)
      rw [List.intercalate_cons_cons, List.append_assoc, List.singleton_append,
        splitWhere_append _ _ _ _ hfirst (beq_self_eq_true sep), hrest]

/-- The pieces of texts that are joined around a separator. -/
theorem splitOn_join (sep : Char) (first : String) (rest : List String)
    (h : ∀ s ∈ first :: rest, sep ∉ s.toList) :
    splitOn sep (join (String.singleton sep) (first :: rest)) = first :: rest := by
  have hpieces : ∀ piece ∈ first.toList :: rest.map String.toList, sep ∉ piece := by
    intro piece hpiece
    rw [← List.map_cons] at hpiece
    obtain ⟨s, hs, rfl⟩ := List.mem_map.mp hpiece
    exact h s hs
  rw [splitOn, toList_join, String.toList_singleton, List.map_cons,
    splitWhere_intercalate sep _ _ hpieces, ← List.map_cons, List.map_map]
  simp [Function.comp_def]

end Fingerprinting.Text
