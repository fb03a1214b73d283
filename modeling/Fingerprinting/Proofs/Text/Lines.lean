/-
# Trimming, cutting and lines

A text that has been trimmed has no blank at either end, and stays as it is when it is trimmed
again.  A text that is put together around a separator is cut there again, and a text that is put
together of lines has those lines.

* `trimChars_append` and `isTrimmed_trimChars` say what trimming does;
* `cutWhere_append` and `of_cutWhere` say where a text is cut;
* `toList_join_empty` and `block_ended` say what is put together;
* `lineChars_block` says which lines a block of lines has.
-/
import Mathlib.Tactic.Common
import Mathlib.Data.List.TakeWhile
import Fingerprinting.Text.Blank

namespace Fingerprinting.Text

/-! ## Trimming -/

/-- There is no blank at either end. -/
def IsTrimmed (cs : List Char) : Prop :=
  (∀ c, cs.head? = some c → isBlank c = false) ∧ ∀ c, cs.getLast? = some c → isBlank c = false

theorem dropWhile_of_head (p : Char → Bool) (cs : List Char)
    (h : ∀ c, cs.head? = some c → p c = false) : cs.dropWhile p = cs := by
  cases cs with
  | nil => rfl
  | cons c rest =>
      rw [List.dropWhile_cons_of_neg]
      simp [h c rfl]

/-- What has been trimmed stays as it is. -/
theorem trimChars_of_isTrimmed (cs : List Char) (h : IsTrimmed cs) : trimChars isBlank cs = cs := by
  have hlast : ∀ c, cs.reverse.head? = some c → isBlank c = false := by
    intro c hc
    rw [List.head?_reverse] at hc
    exact h.2 c hc
  rw [trimChars, trimStartChars, dropWhile_of_head _ _ h.1, trimEndChars,
    dropWhile_of_head _ _ hlast, List.reverse_reverse]

theorem head_dropWhile (p : Char → Bool) (cs : List Char) (c : Char)
    (h : (cs.dropWhile p).head? = some c) : p c = false := by
  have hnot := List.head?_dropWhile_not p cs
  rw [h] at hnot
  exact hnot

theorem prefix_trimEndChars (p : Char → Bool) (cs : List Char) : trimEndChars p cs <+: cs := by
  have hsuffix := List.dropWhile_suffix p (l := cs.reverse)
  rw [← List.reverse_prefix, List.reverse_reverse] at hsuffix
  exact hsuffix

/-- Trimming leaves no blank at either end. -/
theorem isTrimmed_trimChars (cs : List Char) : IsTrimmed (trimChars isBlank cs) := by
  constructor
  · intro c hc
    obtain ⟨rest, hrest⟩ := prefix_trimEndChars isBlank (trimStartChars isBlank cs)
    apply head_dropWhile isBlank cs
    show (trimStartChars isBlank cs).head? = some c
    rw [← hrest, List.head?_append]
    rw [trimChars] at hc
    rw [hc]
    rfl
  · intro c hc
    rw [trimChars, trimEndChars, List.getLast?_reverse] at hc
    exact head_dropWhile isBlank _ c hc

/-- Trimming adds no characters. -/
theorem mem_of_mem_trimChars (cs : List Char) (c : Char) (h : c ∈ trimChars isBlank cs) :
    c ∈ cs := by
  have hstart := (prefix_trimEndChars isBlank _).subset h
  exact (List.dropWhile_suffix isBlank).subset hstart

/-- Trimming takes only blanks away. -/
theorem mem_trimChars_of_mem (cs : List Char) (c : Char) (h : c ∈ cs) (hc : isBlank c = false) :
    c ∈ trimChars isBlank cs := by
  have hdrop : ∀ ds : List Char, c ∈ ds → c ∈ ds.dropWhile isBlank := by
    intro ds hds
    rw [← List.takeWhile_append_dropWhile (p := isBlank) (l := ds), List.mem_append] at hds
    refine hds.resolve_left fun hblank => ?_
    rw [List.mem_takeWhile_imp hblank] at hc
    cases hc
  rw [trimChars, trimEndChars, List.mem_reverse]
  exact hdrop _ (List.mem_reverse.mpr (hdrop cs h))

/-- A text is what is left of it when it is trimmed, with blanks around it. -/
theorem exists_trimChars (cs : List Char) :
    ∃ before after, cs = before ++ trimChars isBlank cs ++ after ∧
      (∀ c ∈ before, isBlank c = true) ∧ ∀ c ∈ after, isBlank c = true := by
  have hstart : cs.takeWhile isBlank ++ trimStartChars isBlank cs = cs :=
    List.takeWhile_append_dropWhile
  obtain ⟨after, hafter, hend⟩ : ∃ after, (∀ c ∈ after, isBlank c = true) ∧
      trimChars isBlank cs ++ after = trimStartChars isBlank cs := by
    refine ⟨((trimStartChars isBlank cs).reverse.takeWhile isBlank).reverse, fun c hc => ?_, ?_⟩
    · exact List.mem_takeWhile_imp (List.mem_reverse.mp hc)
    · rw [trimChars, trimEndChars, ← List.reverse_append, List.takeWhile_append_dropWhile,
        List.reverse_reverse]
  refine ⟨cs.takeWhile isBlank, after, ?_, fun c hc => List.mem_takeWhile_imp hc, hafter⟩
  rw [List.append_assoc, hend, hstart]

/-- Trimming removes the blanks around a text. -/
theorem trimChars_append {before cs after : List Char} (hbefore : ∀ c ∈ before, isBlank c = true)
    (hcs : IsTrimmed cs) (hafter : ∀ c ∈ after, isBlank c = true) :
    trimChars isBlank (before ++ cs ++ after) = cs := by
  have hend : trimEndChars isBlank (cs ++ after) = cs := by
    have hreverse : ∀ c ∈ after.reverse, isBlank c = true := fun c hc =>
      hafter c (List.mem_reverse.mp hc)
    have hhead : ∀ c, cs.reverse.head? = some c → isBlank c = false := by
      intro c hc
      rw [List.head?_reverse] at hc
      exact hcs.2 c hc
    rw [trimEndChars, List.reverse_append, List.dropWhile_append_of_pos hreverse,
      dropWhile_of_head _ _ hhead, List.reverse_reverse]
  rw [trimChars, trimStartChars, List.append_assoc, List.dropWhile_append_of_pos hbefore]
  cases cs with
  | nil =>
      rw [List.nil_append, List.dropWhile_eq_nil_iff.mpr hafter]
      rfl
  | cons c rest =>
      have hstart : (c :: rest ++ after).dropWhile isBlank = c :: rest ++ after :=
        dropWhile_of_head _ _ hcs.1
      rw [hstart, hend]

/-- A blank before a text is trimmed away. -/
theorem trimChars_cons_blank (c : Char) (cs : List Char) (h : isBlank c = true) :
    trimChars isBlank (c :: cs) = trimChars isBlank cs := by
  rw [trimChars, trimStartChars, List.dropWhile_cons_of_pos h]
  rfl

/-- A blank after a text is trimmed away. -/
theorem trimChars_concat_blank (cs : List Char) (c : Char) (h : isBlank c = true)
    (hcs : IsTrimmed cs) : trimChars isBlank (cs ++ [c]) = cs := by
  have hblank : ∀ d ∈ [c], isBlank d = true := List.forall_mem_singleton.mpr h
  exact trimChars_append (List.forall_mem_nil _) hcs hblank

/-! ## Cutting -/

/-- No character is the one that does not occur. -/
theorem beq_eq_false_of_not_mem {cs : List Char} {sep : Char} (h : sep ∉ cs) :
    ∀ c ∈ cs, (c == sep) = false := by
  intro c hc
  rw [beq_eq_false_iff_ne]
  rintro rfl
  exact h hc

section

variable (p : Char → Bool)

/-- A text is cut at the first character that satisfies the test. -/
theorem cutWhere_append (before after : List Char) (sep : Char)
    (h : ∀ c ∈ before, p c = false) (hsep : p sep = true) :
    cutWhere p (before ++ sep :: after) = some (before, after) := by
  have hbefore : ∀ c ∈ before, (!p c) = true := by
    intro c hc
    rw [h c hc]
    rfl
  have hdrop : (before ++ sep :: after).dropWhile (fun c => !p c) = sep :: after := by
    rw [List.dropWhile_append_of_pos hbefore]
    simp [hsep]
  have htake : (before ++ sep :: after).takeWhile (fun c => !p c) = before := by
    rw [List.takeWhile_append_of_pos hbefore]
    simp [hsep]
  rw [cutWhere, hdrop, htake]

/-- A text is not cut when it has no such character. -/
theorem cutWhere_eq_none_iff (cs : List Char) :
    cutWhere p cs = none ↔ ∀ c ∈ cs, p c = false := by
  have hnil : cs.dropWhile (fun c => !p c) = [] ↔ ∀ c ∈ cs, p c = false := by
    simp [List.dropWhile_eq_nil_iff]
  rw [← hnil]
  unfold cutWhere
  cases cs.dropWhile (fun c => !p c) with
  | nil => simp
  | cons c rest => simp

/-- Where a text has been cut. -/
theorem of_cutWhere (cs before after : List Char) (h : cutWhere p cs = some (before, after)) :
    (∀ c ∈ before, p c = false) ∧ ∃ sep, p sep = true ∧ cs = before ++ sep :: after := by
  unfold cutWhere at h
  split at h
  · cases h
  · rename_i sep rest hrest
    cases h
    refine ⟨fun c hc => ?_, sep, ?_, ?_⟩
    · simpa using List.mem_takeWhile_imp hc
    · have hhead := head_dropWhile (fun c => !p c) cs sep (by rw [hrest]; rfl)
      simpa using hhead
    · rw [← hrest]
      exact (List.takeWhile_append_dropWhile ..).symm

end

/-! ## Lines -/

theorem splitWhere_ne_nil (p : Char → Bool) (cs : List Char) : splitWhere p cs ≠ [] := by
  cases cs with
  | nil => simp [splitWhere]
  | cons c rest =>
      unfold splitWhere
      split
      · simp
      · split <;> simp

/-- The first piece ends where the separator stands first. -/
theorem splitWhere_append (p : Char → Bool) (before after : List Char) (sep : Char)
    (h : ∀ c ∈ before, p c = false) (hsep : p sep = true) :
    splitWhere p (before ++ sep :: after) = before :: splitWhere p after := by
  induction before with
  | nil => simp [splitWhere, hsep]
  | cons c rest ih =>
      have hc : ¬ p c = true := by simp [h c List.mem_cons_self]
      rw [List.cons_append, splitWhere, if_neg hc, ih fun d hd => h d (List.mem_cons_of_mem _ hd)]

/-- A text without separators is one piece. -/
theorem splitWhere_eq_singleton (p : Char → Bool) (cs : List Char) (h : ∀ c ∈ cs, p c = false) :
    splitWhere p cs = [cs] := by
  induction cs with
  | nil => rfl
  | cons c rest ih =>
      have hc : ¬ p c = true := by simp [h c List.mem_cons_self]
      rw [splitWhere, if_neg hc, ih fun d hd => h d (List.mem_cons_of_mem _ hd)]

/-- No piece has a separator. -/
theorem of_mem_splitWhere (p : Char → Bool) (cs : List Char) :
    ∀ piece ∈ splitWhere p cs, ∀ c ∈ piece, p c = false := by
  induction cs with
  | nil => simp [splitWhere]
  | cons c rest ih =>
      unfold splitWhere
      split
      · intro piece hpiece
        rcases List.mem_cons.mp hpiece with rfl | hpiece
        · simp
        · exact ih piece hpiece
      · rename_i hc
        split
        · rename_i hnil
          exact absurd hnil (splitWhere_ne_nil p rest)
        · rename_i first pieces hpieces
          rw [hpieces] at ih
          intro piece hpiece d hd
          rcases List.mem_cons.mp hpiece with rfl | hpiece
          · rcases List.mem_cons.mp hd with rfl | hd
            · simpa using hc
            · exact ih first List.mem_cons_self d hd
          · exact ih piece (List.mem_cons_of_mem _ hpiece) d hd

theorem mem_of_mem_dropReturn (cs : List Char) (c : Char) (h : c ∈ dropReturn cs) : c ∈ cs := by
  unfold dropReturn at h
  split at h
  · exact (List.dropLast_sublist cs).subset h
  · exact h

/-- No line has a line feed. -/
theorem lineFeed_not_mem_line (cs : List Char) : ∀ line ∈ lineChars cs, '\n' ∉ line := by
  have hpieces : ∀ piece ∈ splitWhere (· == '\n') cs, '\n' ∉ piece := by
    intro piece hpiece hmem
    simpa using of_mem_splitWhere (· == '\n') cs piece hpiece '\n' hmem
  have hended : ∀ line ∈ (splitWhere (· == '\n') cs).dropLast.map dropReturn, '\n' ∉ line := by
    intro line hline hmem
    obtain ⟨piece, hpiece, rfl⟩ := List.mem_map.mp hline
    exact hpieces piece ((List.dropLast_sublist _).subset hpiece) (mem_of_mem_dropReturn _ _ hmem)
  intro line hline
  unfold lineChars at hline
  dsimp only at hline
  split at hline
  · exact hended line hline
  · rename_i last _ hlast
    rcases List.mem_append.mp hline with hline | hline
    · exact hended line hline
    · rw [List.mem_singleton.mp hline]
      exact hpieces last (List.mem_of_getLast? hlast)
  · exact hended line hline

/-- A line that is ended comes before the others. -/
theorem lineChars_append (line rest : List Char) (h : '\n' ∉ line) :
    lineChars (line ++ '\n' :: rest) = dropReturn line :: lineChars rest := by
  have hline : ∀ c ∈ line, (c == '\n') = false := beq_eq_false_of_not_mem h
  have hsplit := splitWhere_append (· == '\n') line rest '\n' hline rfl
  have hne := splitWhere_ne_nil (· == '\n') rest
  -- The piece before a line feed is not the last one, so both texts end in the same piece.
  have hlast : (line :: splitWhere (· == '\n') rest).getLast? =
      (splitWhere (· == '\n') rest).getLast? := by
    rw [List.getLast?_cons, List.getLast?_eq_some_getLast hne]
    rfl
  unfold lineChars
  dsimp only
  rw [hsplit, hlast, List.dropLast_cons_of_ne_nil hne, List.map_cons]
  split <;> simp_all

/-- A line that is not ended is a line when it is not empty. -/
theorem lineChars_singleton (line : List Char) (h : '\n' ∉ line) (hne : line ≠ []) :
    lineChars line = [line] := by
  have hline : ∀ c ∈ line, (c == '\n') = false := beq_eq_false_of_not_mem h
  unfold lineChars
  rw [splitWhere_eq_singleton _ _ hline]
  cases line with
  | nil => exact absurd rfl hne
  | cons c rest => rfl

/-- Texts that are joined with nothing between them follow one another. -/
theorem toList_join_empty (parts : List String) :
    (join "" parts).toList = parts.flatMap String.toList := by
  rw [join, String.toList_ofList]
  induction parts with
  | nil => rfl
  | cons part rest ih =>
      cases rest with
      | nil => simp
      | cons next rest =>
          rw [List.map_cons, List.map_cons, List.intercalate_cons_cons, ← List.map_cons, ih]
          simp

/-- Lines with a carriage return and a line feed before each of them but the first. -/
def block (first : List Char) (lines : List (List Char)) : List Char :=
  first ++ lines.flatMap fun line => '\r' :: '\n' :: line

theorem block_cons (first line : List Char) (rest : List (List Char)) :
    block first (line :: rest) = first ++ '\r' :: '\n' :: block line rest := by
  simp [block]

/-- A block that is ended is made of lines that are ended. -/
theorem block_ended (first : List Char) (lines : List (List Char)) :
    block first lines ++ ['\r', '\n'] =
      first ++ ['\r', '\n'] ++ lines.flatMap fun line => line ++ ['\r', '\n'] := by
  induction lines generalizing first with
  | nil => simp [block]
  | cons line rest ih =>
      rw [block_cons, List.append_assoc, List.cons_append, List.cons_append, ih line]
      simp

/-- A block of lines that are not empty has those lines. -/
theorem lineChars_block (first : List Char) (lines : List (List Char))
    (h : ∀ line ∈ first :: lines, '\n' ∉ line ∧ line ≠ []) :
    lineChars (block first lines) = first :: lines := by
  induction lines generalizing first with
  | nil =>
      obtain ⟨hfirst, hne⟩ := h first List.mem_cons_self
      rw [block, List.flatMap_nil, List.append_nil, lineChars_singleton first hfirst hne]
  | cons line rest ih =>
      obtain ⟨hfirst, -⟩ := h first List.mem_cons_self
      have hreturn : '\n' ∉ first ++ ['\r'] := by simp [hfirst]
      have hblock : block first (line :: rest) = (first ++ ['\r']) ++ '\n' :: block line rest := by
        rw [block_cons, List.append_assoc]
        rfl
      have hdrop : dropReturn (first ++ ['\r']) = first := by
        simp [dropReturn]
      rw [hblock, lineChars_append _ _ hreturn, hdrop,
        ih line fun l hl => h l (List.mem_cons_of_mem _ hl)]

end Fingerprinting.Text
