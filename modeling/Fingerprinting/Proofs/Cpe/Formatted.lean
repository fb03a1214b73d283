/-
# Names as formatted strings

A formatted string separates its attributes by colons that no backslash quotes, so each attribute is
found again.  Only the last one may be damaged: a name is trimmed before it is read, and trimming
does not know that a blank is quoted.

* `splitQuoted_formatted` finds the attributes of a formatted string again;
* `parse_formatted` says what a formatted string is read as;
* `parse_formatted_eq_ok_iff` says which names are read back.
-/
import Fingerprinting.Cpe.Binding
import Fingerprinting.Proofs.Text.Pieces

namespace Fingerprinting.Cpe

/-! ## Quoting -/

/-- A character as it stands in a formatted string. -/
def quoteChar (c : Char) : List Char := if isPlainChar c then [c] else ['\\', c]

/-- Characters as they stand in a formatted string. -/
def quote (cs : List Char) : List Char := cs.flatMap quoteChar

theorem quote_cons (c : Char) (cs : List Char) : quote (c :: cs) = quoteChar c ++ quote cs :=
  List.flatMap_cons

theorem quote_concat (cs : List Char) (c : Char) : quote (cs ++ [c]) = quote cs ++ quoteChar c := by
  rw [quote, List.flatMap_append, List.flatMap_singleton, quote]

theorem ne_of_isPlainChar (c : Char) (h : isPlainChar c = true) : c ≠ '\\' ∧ c ≠ ':' ∧ c ≠ '*' := by
  refine ⟨?_, ?_, ?_⟩
  all_goals
    rintro rfl
    revert h
    decide

/-- Quoted characters are read back, whatever follows them. -/
theorem unquote_quote_append (cs rest : List Char) :
    unquote (quote cs ++ rest) = cs ++ unquote rest := by
  induction cs with
  | nil => rfl
  | cons c cs ih =>
      rw [quote_cons, List.append_assoc, quoteChar]
      split
      · rename_i hplain
        obtain ⟨hback, -, -⟩ := ne_of_isPlainChar c hplain
        rw [List.singleton_append, unquote, ih, List.cons_append]
        · intro d more hc
          exact absurd hc hback
        · intro hc
          exact absurd hc hback
      · rw [List.cons_append, List.singleton_append, unquote, ih, List.cons_append]

/-- Quoted characters are read back. -/
theorem unquote_quote (cs : List Char) : unquote (quote cs) = cs := by
  have h := unquote_quote_append cs []
  rwa [List.append_nil, unquote, List.append_nil] at h

/-- A star never begins quoted characters, so it can stand for an empty attribute. -/
theorem head_quote (cs : List Char) : (quote cs).head? ≠ some '*' := by
  cases cs with
  | nil => simp [quote]
  | cons c cs =>
      rw [quote_cons, quoteChar]
      split
      · rename_i hplain
        obtain ⟨-, -, hstar⟩ := ne_of_isPlainChar c hplain
        simpa using hstar
      · simp

theorem toList_bindFormatted (s : String) (h : s ≠ "") :
    (bindFormatted s).toList = quote s.toList := by
  rw [bindFormatted, if_neg h]
  split
  · rename_i hyphen
    rw [hyphen]
    decide
  · rw [String.toList_ofList]
    rfl

/-- Except for the star, an attribute is read by taking the backslashes away. -/
theorem unbindFormatted_ofList (cs : List Char) (h : cs ≠ ['*']) :
    unbindFormatted (String.ofList cs) = String.ofList (unquote cs) := by
  have hstar : String.ofList cs ≠ "*" := by
    intro heq
    exact h (by rw [← String.toList_ofList (l := cs), heq]; rfl)
  rw [unbindFormatted, if_neg hstar]
  split
  · rename_i hyphen
    have hcs : cs = ['-'] := by
      rw [← String.toList_ofList (l := cs), hyphen]
      rfl
    rw [hcs]
    rfl
  · rw [String.toList_ofList]

/-- An attribute is read as the value that it was written for. -/
theorem unbindFormatted_bindFormatted (s : String) : unbindFormatted (bindFormatted s) = s := by
  by_cases hempty : s = ""
  · rw [hempty]
    rfl
  · have hstar : quote s.toList ≠ ['*'] := fun h => head_quote s.toList (by rw [h]; rfl)
    rw [← String.ofList_toList (s := bindFormatted s), toList_bindFormatted s hempty,
      unbindFormatted_ofList _ hstar, unquote_quote, String.ofList_toList]

/-! ## Splitting -/

/-- Characters in which every backslash quotes a character, and every colon is quoted. -/
inductive IsQuoted : List Char → Prop where
  | nil : IsQuoted []
  | char {c : Char} {cs : List Char} (hback : c ≠ '\\') (hcolon : c ≠ ':') (h : IsQuoted cs) :
      IsQuoted (c :: cs)
  | pair {c : Char} {cs : List Char} (h : IsQuoted cs) : IsQuoted ('\\' :: c :: cs)

theorem isQuoted_quote (cs : List Char) : IsQuoted (quote cs) := by
  induction cs with
  | nil => exact .nil
  | cons c cs ih =>
      rw [quote_cons, quoteChar]
      split
      · rename_i hplain
        obtain ⟨hback, hcolon, -⟩ := ne_of_isPlainChar c hplain
        exact .char hback hcolon ih
      · exact .pair ih

theorem isQuoted_bindFormatted (s : String) : IsQuoted (bindFormatted s).toList := by
  by_cases hempty : s = ""
  · rw [hempty]
    exact .char (by decide) (by decide) .nil
  · rw [toList_bindFormatted s hempty]
    exact isQuoted_quote _

/-- A piece ends at a colon that nothing quotes. -/
theorem splitQuoted_append {piece : List Char} (h : IsQuoted piece) (rest : List Char) :
    splitQuoted (piece ++ ':' :: rest) = piece :: splitQuoted rest := by
  induction h with
  | nil => rw [List.nil_append, splitQuoted]
  | char hback hcolon _ ih =>
      rw [List.cons_append, splitQuoted, ih]
      · intro d more hc
        exact absurd hc hback
      · exact fun hc => absurd hc hcolon
  | pair _ ih => rw [List.cons_append, List.cons_append, splitQuoted, ih]

/-- A piece that is cut short is still one piece. -/
theorem splitQuoted_prefix {piece cs : List Char} (h : IsQuoted piece) (hinit : cs <+: piece) :
    splitQuoted cs = [cs] := by
  induction h generalizing cs with
  | nil =>
      rw [List.prefix_nil.mp hinit]
      rfl
  | char hback hcolon _ ih =>
      cases cs with
      | nil => rfl
      | cons d cs =>
          obtain ⟨rfl, hrest⟩ := List.cons_prefix_cons.mp hinit
          rw [splitQuoted, ih hrest]
          · intro e more hd
            exact absurd hd hback
          · exact fun hd => absurd hd hcolon
  | pair _ ih =>
      match cs with
      | [] => rfl
      | [d] =>
          obtain ⟨rfl, -⟩ := List.cons_prefix_cons.mp hinit
          rfl
      | d :: e :: cs =>
          obtain ⟨rfl, hquoted⟩ := List.cons_prefix_cons.mp hinit
          obtain ⟨rfl, hrest⟩ := List.cons_prefix_cons.mp hquoted
          rw [splitQuoted, ih hrest]

/-- Pieces that colons end are found again, and the last one too when it is cut short. -/
theorem splitQuoted_pieces (pieces : List (List Char)) (h : ∀ piece ∈ pieces, IsQuoted piece)
    {last cs : List Char} (hlast : IsQuoted last) (hinit : cs <+: last) :
    splitQuoted ((pieces.flatMap fun piece => piece ++ [':']) ++ cs) = pieces ++ [cs] := by
  induction pieces with
  | nil => exact splitQuoted_prefix hlast hinit
  | cons piece rest ih =>
      have hrest := ih fun p hp => h p (List.mem_cons_of_mem _ hp)
      rw [List.flatMap_cons, List.append_assoc, List.append_assoc, List.singleton_append,
        splitQuoted_append (h piece List.mem_cons_self), hrest, List.cons_append]

/-! ## Trimming -/

/-- What trimming leaves of a value, whose characters are given from the last one on.  A blank that
no backslash quotes is trimmed away; a quoted one leaves its backslash behind, which stops the
trimming and quotes nothing. -/
def keptFrom : List Char → List Char
  | [] => []
  | c :: rest =>
      if Text.isBlank c then (if isPlainChar c then keptFrom rest else rest) else c :: rest

/-- What is read for a value at the end of a formatted string. -/
def keptEnd (s : String) : String := String.ofList (keptFrom s.toList.reverse).reverse

/-- Trimming what has been quoted, and then taking the backslashes away. -/
theorem unquote_trimEndChars (cs : List Char) :
    unquote (Text.trimEndChars Text.isBlank (quote cs.reverse)) = (keptFrom cs).reverse := by
  induction cs with
  | nil => rfl
  | cons c rest ih =>
      rw [List.reverse_cons, quote_concat, quoteChar, keptFrom]
      cases hblank : Text.isBlank c with
      | false =>
          -- The last character stays, so nothing is trimmed.
          have hkeep (before : List Char) : Text.trimEndChars Text.isBlank (before ++ [c]) =
              before ++ [c] := Text.trimEndChars_concat_keep _ before c hblank
          have hsame : Text.trimEndChars Text.isBlank (quote rest.reverse ++ quoteChar c) =
              quote rest.reverse ++ quoteChar c := by
            rw [quoteChar]
            split
            · exact hkeep _
            · rw [List.append_cons]
              exact hkeep _
          rw [quoteChar] at hsame
          rw [hsame, ← quoteChar, ← quote_concat, unquote_quote, if_neg Bool.false_ne_true,
            List.reverse_cons]
      | true =>
          rw [if_pos rfl]
          split
          · rw [Text.trimEndChars_concat_drop _ _ c hblank, ih]
          · have hback : Text.isBlank '\\' = false := by decide
            rw [List.append_cons, Text.trimEndChars_concat_drop _ _ c hblank,
              Text.trimEndChars_concat_keep _ _ _ hback, unquote_quote_append, unquote,
              List.append_nil]

/-- A value at the end of a formatted string, once that has been trimmed. -/
theorem unbindFormatted_trimEndChars (s : String) :
    unbindFormatted (String.ofList (Text.trimEndChars Text.isBlank (bindFormatted s).toList)) =
      keptEnd s := by
  by_cases hempty : s = ""
  · rw [hempty]
    decide
  · have hquote := unquote_trimEndChars s.toList.reverse
    rw [List.reverse_reverse] at hquote
    have hstar : Text.trimEndChars Text.isBlank (quote s.toList) ≠ ['*'] := by
      intro h
      obtain ⟨rest, hrest⟩ := Text.prefix_trimEndChars Text.isBlank (quote s.toList)
      rw [h] at hrest
      exact head_quote s.toList (by rw [← hrest]; rfl)
    rw [toList_bindFormatted s hempty, unbindFormatted_ofList _ hstar, hquote, keptEnd]

theorem length_keptFrom_le (cs : List Char) : (keptFrom cs).length ≤ cs.length := by
  induction cs with
  | nil => exact Nat.le_refl 0
  | cons c rest ih =>
      rw [keptFrom]
      split
      · split
        · exact Nat.le_succ_of_le ih
        · exact Nat.le_succ _
      · exact Nat.le_refl _

/-- A value is kept as a whole when it does not end in a blank. -/
theorem keptEnd_eq_iff (s : String) :
    keptEnd s = s ↔ ∀ c, s.toList.getLast? = some c → Text.isBlank c = false := by
  have hkept : keptEnd s = s ↔ keptFrom s.toList.reverse = s.toList.reverse := by
    rw [keptEnd, ← String.toList_inj, String.toList_ofList, List.reverse_eq_iff]
  rw [hkept, ← List.head?_reverse]
  cases s.toList.reverse with
  | nil => simp [keptFrom]
  | cons c rest =>
      rw [List.head?_cons, keptFrom]
      cases hblank : Text.isBlank c with
      | false => simp [hblank]
      | true =>
          have hshort : (if isPlainChar c then keptFrom rest else rest).length ≤ rest.length := by
            split
            · exact length_keptFrom_le rest
            · exact Nat.le_refl _
          constructor
          · intro h
            have hlength := congrArg List.length h
            rw [if_pos rfl, List.length_cons] at hlength
            omega
          · intro h
            have hnot := h c rfl
            rw [hblank] at hnot
            cases hnot

/-! ## Names -/

/-- The attributes of a name but the last, as they stand in its formatted string. -/
def formattedInit (a : Cpe) : List (List Char) :=
  [a.part, a.vendor, a.product, a.version, a.update, a.edition, a.language, a.swEdition, a.targetSw,
    a.targetHw].map fun s => (bindFormatted s).toList

/-- Every attribute but the last is followed by a colon. -/
theorem toList_formatted (a : Cpe) :
    a.formatted.toList =
      "cpe:2.3:".toList ++ (a.formattedInit.flatMap fun piece => piece ++ [':']) ++
        (bindFormatted a.other).toList := by
  have hpieces : (a.formattedValues.map bindFormatted).map String.toList =
      a.formattedInit ++ [(bindFormatted a.other).toList] := rfl
  have hcolon : ":".toList = [':'] := rfl
  rw [formatted, String.toList_append, Text.toList_join, hpieces, hcolon, Text.intercalate_concat,
    List.append_assoc]

theorem isQuoted_of_mem_formattedInit (a : Cpe) (piece : List Char) (h : piece ∈ a.formattedInit) :
    IsQuoted piece := by
  obtain ⟨s, -, rfl⟩ := List.mem_map.mp h
  exact isQuoted_bindFormatted s

/-- Only the last attribute can be trimmed, because a colon comes before it. -/
theorem toList_trim_formatted (a : Cpe) :
    (Text.trim a.formatted).toList =
      "cpe:2.3:".toList ++ ((a.formattedInit.flatMap fun piece => piece ++ [':']) ++
        Text.trimEndChars Text.isBlank (bindFormatted a.other).toList) := by
  have hstart : Text.trimStartChars Text.isBlank a.formatted.toList = a.formatted.toList := by
    apply Text.dropWhile_of_head
    intro c hc
    rw [formatted, String.toList_append] at hc
    obtain rfl : 'c' = c := by simpa using hc
    decide
  have hlast : ("cpe:2.3:".toList ++
      (a.formattedInit.flatMap fun piece => piece ++ [':'])).getLast? = some ':' := by
    simp [formattedInit, List.getLast?_append, List.getLast?_cons]
  rw [Text.trim, String.toList_ofList, Text.trimChars, hstart, toList_formatted,
    Text.trimEndChars_append _ _ _ ':' hlast (by decide), List.append_assoc]

/-- What stands after the lead of a formatted string is read as the attributes that it was written
for, with what has been kept of the last one. -/
theorem parse_formatted (a : Cpe) :
    parse a.formatted = validated { a with other := keptEnd a.other } := by
  have hlead : Text.after "cpe:2.3:" (Text.trim a.formatted) =
      some (String.ofList ((a.formattedInit.flatMap fun piece => piece ++ [':']) ++
        Text.trimEndChars Text.isBlank (bindFormatted a.other).toList)) := by
    rw [Text.after, toList_trim_formatted, Text.stripStart_append, Option.map_some]
  have hsplit := splitQuoted_pieces a.formattedInit a.isQuoted_of_mem_formattedInit
    (isQuoted_bindFormatted a.other)
    (Text.prefix_trimEndChars Text.isBlank (bindFormatted a.other).toList)
  have hvalues : (a.formattedInit ++
      [Text.trimEndChars Text.isBlank (bindFormatted a.other).toList]).map
        (fun f => unbindFormatted (String.ofList f)) =
      [a.part, a.vendor, a.product, a.version, a.update, a.edition, a.language, a.swEdition,
        a.targetSw, a.targetHw, keptEnd a.other] := by
    simp only [formattedInit, List.map_cons, List.map_nil, List.cons_append, List.nil_append,
      String.ofList_toList, unbindFormatted_bindFormatted, unbindFormatted_trimEndChars]
  unfold parse
  dsimp only
  rw [hlead]
  dsimp only
  rw [parseFormatted, String.toList_ofList, hsplit, hvalues]
  rfl

/-- The attributes are found between the colons of a formatted string that is not trimmed. -/
theorem splitQuoted_formatted (a : Cpe) :
    (splitQuoted (a.formatted.toList.drop "cpe:2.3:".toList.length)).map
      (fun f => unbindFormatted (String.ofList f)) = a.formattedValues := by
  have hsplit := splitQuoted_pieces a.formattedInit a.isQuoted_of_mem_formattedInit
    (isQuoted_bindFormatted a.other) (List.prefix_refl _)
  rw [toList_formatted, List.append_assoc, List.drop_left, hsplit]
  simp only [formattedInit, formattedValues, List.map_cons, List.map_nil, List.cons_append,
    List.nil_append, String.ofList_toList, unbindFormatted_bindFormatted]

/-- Names with the same formatted string are the same. -/
theorem formatted_injective {a b : Cpe} (h : a.formatted = b.formatted) : a = b := by
  have hvalues : a.formattedValues = b.formattedValues := by
    rw [← splitQuoted_formatted a, h, splitQuoted_formatted b]
  simp only [formattedValues, List.cons.injEq, and_true] at hvalues
  cases a
  cases b
  simp_all only

/-- A formatted string is read as a name that is the same but for its last attribute, of which the
blanks that trimming takes away are lost.  So a name, and then its formatted string too, is given
back exactly when its last attribute does not end in a blank. -/
theorem parse_formatted_eq_ok_iff (a : Cpe) (hpart : a.part ∈ ["", "a", "o", "h", "-"]) :
    parse a.formatted = .ok { a with other := keptEnd a.other } ∧
    (parse a.formatted = .ok a ↔
      ∀ c, a.other.toList.getLast? = some c → Text.isBlank c = false) ∧
    ((parse a.formatted).map formatted = .ok a.formatted ↔
      ∀ c, a.other.toList.getLast? = some c → Text.isBlank c = false) := by
  have hvalid : isPart a.part = true := List.contains_iff_mem.mpr hpart
  have hparse : parse a.formatted = .ok { a with other := keptEnd a.other } := by
    rw [parse_formatted, validated, if_pos hvalid]
  have hsame : { a with other := keptEnd a.other } = a ↔ keptEnd a.other = a.other := by
    constructor
    · exact congrArg Cpe.other
    · intro h
      rw [h]
  refine ⟨hparse, ?_, ?_⟩
  · rw [hparse, Except.ok.injEq, hsame, keptEnd_eq_iff]
  · rw [hparse, ← keptEnd_eq_iff, ← hsame, Except.map, Except.ok.injEq]
    exact ⟨formatted_injective, congrArg formatted⟩

/-- A name whose last attribute ends in a space is not given back, although the space is quoted. -/
theorem parse_formatted_of_blank_end :
    let a : Cpe := { part := "a", vendor := "v", product := "p", other := "x " }
    a.part ∈ ["", "a", "o", "h", "-"] ∧
      a.formatted = "cpe:2.3:a:v:p:*:*:*:*:*:*:*:x\\ " ∧
      parse a.formatted = .ok { a with other := "x" } ∧ parse a.formatted ≠ .ok a ∧
      (parse a.formatted).map formatted ≠ .ok a.formatted := by
  intro a
  have hpart : a.part ∈ ["", "a", "o", "h", "-"] := by decide
  have hblank : ¬ ∀ c, a.other.toList.getLast? = some c → Text.isBlank c = false := by
    intro h
    exact absurd (h ' ' (by decide)) (by decide)
  obtain ⟨hparse, hread, hwritten⟩ := parse_formatted_eq_ok_iff a hpart
  have hend : keptEnd a.other = "x" := by decide
  rw [hend] at hparse
  exact ⟨hpart, by decide +kernel, hparse, mt hread.mp hblank, mt hwritten.mp hblank⟩

end Fingerprinting.Cpe
