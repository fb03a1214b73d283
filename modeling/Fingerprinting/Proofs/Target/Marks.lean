/-
# Where a target is cut

A pair of a host and a port is cut at the first mark of a UDP port, or else at its last colon.  A
written target has brackets around a host with colons, so no mark stands across the end of the host:
a mark is the one of the port, or it is one inside the host.

* `cutAt_append`, `cutAt_eq_none_iff` and `of_cutAt` say where a text is cut at a mark;
* `of_splitPair` says what the parts of a pair are, and `of_number?` how a port is written;
* `cutAt_behind`, `cutAt_inside` and `cutAt_nowhere` say where a written target is cut at the marks
  with some letter.
-/
import Fingerprinting.Proofs.Lists
import Fingerprinting.Proofs.Text.Numeral
import Fingerprinting.Proofs.Text.Pieces
import Fingerprinting.Target

namespace Fingerprinting.Target

/-! ## Cutting at a mark -/

section

variable {m : Char} {ms : List Char}

/-- A text is cut at the first occurrence of a mark, after its first character. -/
theorem cutAt_append {before : List Char} (after : List Char)
    (h : ¬ m :: ms <:+: before ++ (m :: ms).dropLast) :
    cutAt (m :: ms) (before ++ m :: ms ++ after) = some (before, ms ++ after) := by
  induction before with
  | nil =>
      have hleads : (m :: ms).isPrefixOf (m :: (ms ++ after)) = true := by
        rw [List.isPrefixOf_iff_prefix]
        exact List.prefix_append (m :: ms) after
      show cutAt (m :: ms) (m :: (ms ++ after)) = _
      rw [cutAt, if_pos hleads]
  | cons c before ih =>
      have hleads : ¬ (m :: ms).isPrefixOf (c :: (before ++ m :: ms ++ after)) = true := by
        rw [List.isPrefixOf_iff_prefix]
        intro hleads
        cases Lists.eq_nil_of_leads (List.cons_ne_nil m ms) hleads h
      rw [List.cons_append, List.infix_cons_iff, not_or] at h
      show cutAt (m :: ms) (c :: (before ++ m :: ms ++ after)) = _
      rw [cutAt, if_neg hleads, ih h.2]
      rfl

theorem cutAt_eq_none_iff (cs : List Char) : cutAt (m :: ms) cs = none ↔ ¬ m :: ms <:+: cs := by
  induction cs with
  | nil => simp [cutAt]
  | cons c rest ih =>
      rw [cutAt, List.infix_cons_iff, not_or, ← ih, ← List.isPrefixOf_iff_prefix]
      split
      · rename_i hleads
        simp [hleads]
      · rename_i hleads
        simp [hleads]

/-- Where a text has been cut. -/
theorem of_cutAt {cs before rest : List Char} (h : cutAt (m :: ms) cs = some (before, rest)) :
    cs = before ++ m :: rest ∧ (∃ after, rest = ms ++ after) ∧
      ¬ m :: ms <:+: before ++ (m :: ms).dropLast := by
  induction cs generalizing before with
  | nil => cases h
  | cons c more ih =>
      unfold cutAt at h
      split at h
      · rename_i hleads
        obtain ⟨after, hafter⟩ := List.isPrefixOf_iff_prefix.mp hleads
        obtain ⟨rfl, rfl⟩ := List.cons.inj hafter
        cases h
        refine ⟨rfl, ⟨after, rfl⟩, ?_⟩
        intro hoccurs
        have hlength := hoccurs.length_le
        rw [List.nil_append, List.length_dropLast, List.length_cons] at hlength
        omega
      · rename_i hleads
        obtain ⟨⟨start, rest'⟩, hcut, hparts⟩ := Option.map_eq_some_iff.mp h
        cases hparts
        obtain ⟨rfl, ⟨after, rfl⟩, hfirst⟩ := ih hcut
        refine ⟨rfl, ⟨after, rfl⟩, ?_⟩
        rw [List.cons_append, List.infix_cons_iff, not_or]
        refine ⟨?_, hfirst⟩
        -- A mark that began with this character would have been found here.
        intro hbegins
        apply hleads
        rw [List.isPrefixOf_iff_prefix]
        have hwhole : c :: start ++ (m :: ms).dropLast <+: c :: start ++ m :: ms ++ after :=
          Lists.dropLast_prefix_append (c :: start) after
        rw [List.append_assoc] at hwhole
        exact hbegins.trans hwhole

end

/-! ## Marks of ports -/

/-- The mark of a UDP port behind its host, with the letter of the mark. -/
def udpMark (letter : Char) : List Char := [':', letter, ':']

/-- The letters of marks. -/
def IsLetter (letter : Char) : Prop := letter = 'U' ∨ letter = 'u'

theorem splitPair_ofList (cs : List Char) :
    splitPair (String.ofList cs) =
      match (cutAt (udpMark 'U') cs).or (cutAt (udpMark 'u') cs) with
      | some (host, port) => some (String.ofList host, String.ofList port)
      | none => Text.cutLast ':' (String.ofList cs) := by
  have hlist : (String.ofList cs).toList = cs := String.toList_ofList
  rw [splitPair, hlist]
  rfl

/-- A number is not written with a colon. -/
theorem colon_not_mem_of_decimal? {bound n : Nat} {s : String}
    (h : Text.decimal? bound s = some n) : ':' ∉ s.toList := by
  intro hmem
  rcases Text.of_mem_numeral bound n s h ':' hmem with hplus | hdigit
  · cases hplus
  · cases hdigit

/-- The number of a port with a mark is what follows the mark. -/
theorem number?_marked {letter : Char} (h : IsLetter letter) (cs : List Char) :
    number? (String.ofList (letter :: ':' :: cs)) =
      Text.decimal? Text.max16 (String.ofList cs) := by
  have htext (lead : String) (hlead : lead.toList = [letter, ':']) :
      String.ofList (letter :: ':' :: cs) = lead ++ String.ofList cs := by
    rw [← String.toList_inj, String.toList_append, hlead, String.toList_ofList,
      String.toList_ofList]
    rfl
  unfold number?
  rcases h with rfl | rfl
  · rw [htext "U:" rfl, Text.after_append]
    rfl
  · have hnone : Text.after "U:" ("u:" ++ String.ofList cs) = none := by
      apply Text.after_of_head "U:" _ 'U' [':'] rfl
      rw [String.toList_append]
      exact fun hhead => absurd (Option.some.inj hhead) (by decide)
    rw [htext "u:" rfl, hnone, Text.after_append]
    rfl

/-- A port with a number has a mark before digits, or none. -/
theorem of_number? {port : String} (h : (number? port).isSome = true) :
    ∃ digits, ':' ∉ digits ∧ (port.toList = digits ∨
      ∃ letter, IsLetter letter ∧ port.toList = letter :: ':' :: digits) := by
  obtain ⟨n, hn⟩ := Option.isSome_iff_exists.mp h
  have hmark (lead rest : String) (letter : Char) (hlead : lead.toList = [letter, ':'])
      (hport : port = lead ++ rest) : port.toList = letter :: ':' :: rest.toList := by
    rw [hport, String.toList_append, hlead]
    rfl
  unfold number? at hn
  cases hupper : Text.after "U:" port with
  | some rest =>
      rw [hupper] at hn
      exact ⟨rest.toList, colon_not_mem_of_decimal? hn, .inr ⟨'U', .inl rfl,
        hmark "U:" rest 'U' rfl (Text.of_after _ _ _ hupper)⟩⟩
  | none =>
      cases hlower : Text.after "u:" port with
      | some rest =>
          rw [hupper, hlower] at hn
          exact ⟨rest.toList, colon_not_mem_of_decimal? hn, .inr ⟨'u', .inr rfl,
            hmark "u:" rest 'u' rfl (Text.of_after _ _ _ hlower)⟩⟩
      | none =>
          rw [hupper, hlower] at hn
          exact ⟨port.toList, colon_not_mem_of_decimal? hn, .inl rfl⟩

/-! ## Pairs -/

/-- A pair is a host and a port with a colon between them.  A mark that the host has comes after
none of the port, unless the port has the mark that is searched for first. -/
theorem of_splitPair {pair host port : String} (h : splitPair pair = some (host, port)) :
    pair.toList = host.toList ++ ':' :: port.toList ∧ ¬ udpMark 'U' <:+: host.toList ∧
      (udpMark 'u' <:+: host.toList → ['U', ':'] <+: port.toList) := by
  have hbefore {letter : Char} {before : List Char}
      (hfirst : ¬ udpMark letter <:+: before ++ (udpMark letter).dropLast) :
      ¬ udpMark letter <:+: before :=
    fun hoccurs => hfirst (hoccurs.trans (List.prefix_append _ _).isInfix)
  rw [← String.ofList_toList (s := pair), splitPair_ofList] at h
  generalize pair.toList = cs at h ⊢
  cases hupper : cutAt (udpMark 'U') cs with
  | some parts =>
      obtain ⟨before, rest⟩ := parts
      rw [hupper] at h
      cases h
      obtain ⟨hcs, ⟨after, hafter⟩, hfirst⟩ := of_cutAt hupper
      rw [String.toList_ofList, String.toList_ofList]
      refine ⟨hcs, hbefore hfirst, ?_⟩
      intro _
      rw [hafter]
      exact ⟨after, rfl⟩
  | none =>
      have hnone := (cutAt_eq_none_iff cs).mp hupper
      cases hlower : cutAt (udpMark 'u') cs with
      | some parts =>
          obtain ⟨before, rest⟩ := parts
          rw [hupper, hlower] at h
          cases h
          obtain ⟨hcs, -, hfirst⟩ := of_cutAt hlower
          rw [String.toList_ofList, String.toList_ofList]
          refine ⟨hcs, ?_, fun hoccurs => absurd hoccurs (hbefore hfirst)⟩
          intro hoccurs
          rw [hcs] at hnone
          exact hnone (hoccurs.trans (List.prefix_append _ _).isInfix)
      | none =>
          have hnone' := (cutAt_eq_none_iff cs).mp hlower
          rw [hupper, hlower] at h
          obtain ⟨⟨a, b⟩, hcut, hparts⟩ := Option.map_eq_some_iff.mp h
          cases hparts
          obtain ⟨-, sep, hsep, hreverse⟩ := Text.of_cutWhere _ _ _ _ hcut
          rw [beq_iff_eq.mp hsep, String.toList_ofList] at hreverse
          have hcs : cs = b.reverse ++ ':' :: a.reverse := by
            rw [← List.reverse_reverse cs, hreverse]
            simp
          rw [String.toList_ofList, String.toList_ofList]
          have hinside : b.reverse <:+: cs := by
            rw [hcs]
            exact (List.prefix_append _ _).isInfix
          exact ⟨hcs, fun hoccurs => hnone (hoccurs.trans hinside),
            fun hoccurs => absurd (hoccurs.trans hinside) hnone'⟩

/-! ## Brackets -/

/-- A host without a bracket that would be taken off. -/
def IsBare (host : List Char) : Prop :=
  (∀ c, host.head? = some c → (c == '[') = false) ∧
    ∀ c, host.getLast? = some c → (c == ']') = false

theorem toList_bareHost (host : String) :
    (bareHost host).toList =
      Text.trimEndChars (· == ']') (Text.trimStartChars (· == '[') host.toList) :=
  String.toList_ofList

/-- Brackets are taken off at the ends only. -/
theorem isInfix_bareHost (host : String) : (bareHost host).toList <:+: host.toList := by
  rw [toList_bareHost]
  exact (Text.prefix_trimEndChars _ _).isInfix.trans (List.dropWhile_suffix _).isInfix

/-- No bracket is left that would be taken off. -/
theorem isBare_bareHost (host : String) : IsBare (bareHost host).toList := by
  rw [toList_bareHost]
  constructor
  · intro c hc
    obtain ⟨rest, hrest⟩ := Text.prefix_trimEndChars (· == ']')
      (Text.trimStartChars (· == '[') host.toList)
    apply Text.head_dropWhile (· == '[') host.toList
    show (Text.trimStartChars (· == '[') host.toList).head? = some c
    rw [← hrest, List.head?_append, hc]
    rfl
  · intro c hc
    rw [Text.trimEndChars, List.getLast?_reverse] at hc
    exact Text.head_dropWhile (· == ']') _ c hc

/-- A host as it is written before a port. -/
def fenced (host : List Char) : List Char :=
  if ':' ∈ host then '[' :: host ++ [']'] else host

theorem toList_line (t : Target) :
    t.line.toList = fenced t.host.toList ++ ':' :: t.port.toList := by
  unfold line fenced
  by_cases h : ':' ∈ t.host.toList
  · rw [if_pos (List.contains_iff_mem.mpr h), if_pos h]
    simp [String.toList_append]
  · rw [if_neg (mt List.contains_iff_mem.mp h), if_neg h]
    simp [String.toList_append]

/-- A bare host is read from between its brackets. -/
theorem bareHost_fenced {host : String} (h : IsBare host.toList) :
    bareHost (String.ofList (fenced host.toList)) = host := by
  have hlast : ∀ c, host.toList.reverse.head? = some c → (c == ']') = false := by
    intro c hc
    rw [List.head?_reverse] at hc
    exact h.2 c hc
  have htrim : Text.trimEndChars (· == ']') host.toList = host.toList := by
    rw [Text.trimEndChars, Text.dropWhile_of_head _ _ hlast, List.reverse_reverse]
  rw [← String.toList_inj, toList_bareHost, String.toList_ofList, Text.trimStartChars, fenced]
  by_cases hcolon : ':' ∈ host.toList
  · have hhead : ∀ c, (host.toList ++ [']']).head? = some c → (c == '[') = false := by
      intro c hc
      rw [List.head?_append_of_ne_nil _ (List.ne_nil_of_mem hcolon)] at hc
      exact h.1 c hc
    have hstart : ('[' :: host.toList ++ [']']).dropWhile (· == '[') = host.toList ++ [']'] := by
      rw [List.cons_append, List.dropWhile_cons_of_pos (by rfl), Text.dropWhile_of_head _ _ hhead]
    rw [if_pos hcolon, hstart, Text.trimEndChars_concat_drop _ _ _ rfl, htrim]
  · rw [if_neg hcolon, Text.dropWhile_of_head _ _ h.1, htrim]

/-! ## Marks on a written line -/

section

variable {letter : Char} (hletter : IsLetter letter)

include hletter

theorem bracket_not_mem_udpMark : '[' ∉ udpMark letter ∧ ']' ∉ udpMark letter := by
  rcases hletter with rfl | rfl <;> exact ⟨by decide, by decide⟩

/-- A mark stands inside the host or behind it, never across a bracket. -/
theorem udpMark_infix_fenced_append (host rest : List Char) :
    udpMark letter <:+: fenced host ++ rest ↔
      udpMark letter <:+: host ∨ udpMark letter <:+: rest := by
  obtain ⟨hopen, hclose⟩ := bracket_not_mem_udpMark hletter
  unfold fenced
  split
  · have hinside := Lists.infix_append_cons_iff hopen [] host
    have hnil : ¬ udpMark letter <:+: [] := by simp [udpMark]
    rw [List.nil_append, or_iff_right hnil] at hinside
    rw [List.append_assoc, List.singleton_append, Lists.infix_append_cons_iff hclose, hinside]
  · rename_i hcolon
    have hnone : ¬ udpMark letter <:+: host := by
      intro hoccurs
      exact hcolon (hoccurs.subset (by simp [udpMark]))
    rw [or_iff_right hnone]
    exact Lists.cons_infix_append_iff hcolon rest

/-- A line is cut behind a host that has no mark. -/
theorem cutAt_behind {host : List Char} (h : ¬ udpMark letter <:+: host) (digits : List Char) :
    cutAt (udpMark letter) (fenced host ++ ':' :: letter :: ':' :: digits) =
      some (fenced host, letter :: ':' :: digits) := by
  have hfirst : ¬ udpMark letter <:+: fenced host ++ (udpMark letter).dropLast := by
    rw [udpMark_infix_fenced_append hletter, not_or]
    refine ⟨h, ?_⟩
    intro hoccurs
    exact absurd hoccurs.length_le (by simp [udpMark])
  have hcut := cutAt_append digits hfirst
  rw [List.append_assoc] at hcut
  exact hcut

/-- A line is cut inside a host that has a mark. -/
theorem cutAt_inside {host : List Char} (h : udpMark letter <:+: host) (port : List Char) :
    ∃ before after, cutAt (udpMark letter) (fenced host ++ ':' :: port) =
      some (before, letter :: ':' :: after) ∧ ':' ∈ after := by
  obtain ⟨hopen, -⟩ := bracket_not_mem_udpMark hletter
  have hcolon : ':' ∈ host := h.subset (by simp [udpMark])
  obtain ⟨⟨start, rest⟩, hcut⟩ : ∃ parts, cutAt (udpMark letter) host = some parts := by
    rw [← Option.isSome_iff_exists, Option.isSome_iff_ne_none]
    exact fun hnone => (cutAt_eq_none_iff host).mp hnone h
  obtain ⟨hhost, ⟨after, rfl⟩, hfirst⟩ := of_cutAt hcut
  have hfirst' : ¬ udpMark letter <:+: '[' :: start ++ (udpMark letter).dropLast := by
    have hinside := Lists.infix_append_cons_iff hopen [] (start ++ (udpMark letter).dropLast)
    rw [List.nil_append] at hinside
    rw [List.cons_append, hinside, not_or]
    exact ⟨by simp [udpMark], hfirst⟩
  refine ⟨'[' :: start, after ++ ']' :: ':' :: port, ?_, by simp⟩
  have hline : fenced host ++ ':' :: port =
      '[' :: start ++ udpMark letter ++ (after ++ ']' :: ':' :: port) := by
    rw [fenced, if_pos hcolon, hhost]
    simp [udpMark]
  rw [hline]
  exact cutAt_append (after ++ ']' :: ':' :: port) hfirst'

/-- A line is not cut at a mark that neither the host nor the port has. -/
theorem cutAt_nowhere {host port : List Char} (h : ¬ udpMark letter <:+: host)
    (hport : ¬ udpMark letter <:+: ':' :: port) :
    cutAt (udpMark letter) (fenced host ++ ':' :: port) = none := by
  apply (cutAt_eq_none_iff _).mpr
  show ¬ udpMark letter <:+: _
  rw [udpMark_infix_fenced_append hletter, not_or]
  exact ⟨h, hport⟩

/-- Digits behind a colon make no mark. -/
theorem not_udpMark_infix_digits {digits : List Char} (h : ':' ∉ digits) :
    ¬ udpMark letter <:+: ':' :: digits := by
  intro hoccurs
  have hcount := hoccurs.sublist.count_le ':'
  rw [List.count_cons_self, List.count_eq_zero.mpr h] at hcount
  have htwo : 2 ≤ (udpMark letter).count ':' := by
    rcases hletter with rfl | rfl <;> decide
  omega

end

/-- A mark is not one with the other letter. -/
theorem not_upper_infix_lower {digits : List Char} (h : ':' ∉ digits) :
    ¬ udpMark 'U' <:+: ':' :: 'u' :: ':' :: digits := by
  have hdigits := not_udpMark_infix_digits (.inl rfl : IsLetter 'U') h
  rw [List.infix_cons_iff, List.infix_cons_iff, not_or, not_or]
  refine ⟨?_, ?_, hdigits⟩
  · simp [udpMark]
  · simp [udpMark]

end Fingerprinting.Target
