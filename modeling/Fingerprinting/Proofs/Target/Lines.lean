/-
# Targets that are written on one line

A target is written with its host before a colon and its port after it, and with brackets around a
host that has colons itself.  Read again it is the same target, unless the host hides a mark: the
marks of UDP ports are searched for in the whole line, inside the brackets too, so a host that has
one is torn apart there.  Only a line with the host and the port in two words can give such a host.

* `HidesMark` says when a mark inside the host comes before the one of the port;
* `splitPair_line` and `splitPair_line_of_hidesMark` say where a written target is cut;
* `of_parse` says what holds of a target that has been read, and `parse_line` what such a target is
  read as when it is written.

Main statement: `read_back_iff`.
-/
import Fingerprinting.Proofs.Target.Marks

namespace Fingerprinting.Target

/-! ## Written targets -/

/-- A mark inside the host comes before every mark of the port: it has the letter that is searched
for first, or the port does not have that letter. -/
def HidesMark (t : Target) : Prop :=
  udpMark 'U' <:+: t.host.toList ∨ udpMark 'u' <:+: t.host.toList ∧ ¬ ['U', ':'] <+: t.port.toList

/-- What holds of a target that has been read. -/
structure IsRead (t : Target) : Prop where
  bare : IsBare t.host.toList
  host_ne : t.host ≠ ""
  number : (number? t.port).isSome = true
  host_unbroken : ∀ c ∈ t.host.toList, Text.isBlank c = false
  port_unbroken : ∀ c ∈ t.port.toList, Text.isBlank c = false

/-- A text is cut at its last colon. -/
theorem cutLast_append (front : List Char) {digits : List Char} (h : ':' ∉ digits) :
    Text.cutLast ':' (String.ofList (front ++ ':' :: digits)) =
      some (String.ofList front, String.ofList digits) := by
  have hreverse : (String.ofList (front ++ ':' :: digits)).toList.reverse =
      digits.reverse ++ ':' :: front.reverse := by
    rw [String.toList_ofList, List.reverse_append, List.reverse_cons, List.append_assoc,
      List.singleton_append]
  have hdigits : ':' ∉ digits.reverse := by rwa [List.mem_reverse]
  have hcut := Text.cutWhere_append (· == ':') digits.reverse front.reverse ':'
    (Text.beq_eq_false_of_not_mem hdigits) rfl
  rw [Text.cutLast, hreverse, hcut, Option.map_some]
  dsimp only
  rw [List.reverse_reverse, List.reverse_reverse]

section

variable {t : Target} (ht : t.IsRead)

include ht

/-- A written target is cut between its host and its port when no mark is hidden. -/
theorem splitPair_line (h : ¬ t.HidesMark) :
    splitPair t.line = some (String.ofList (fenced t.host.toList), t.port) := by
  obtain ⟨hupper, hlower⟩ := not_or.mp h
  rw [not_and_not_right] at hlower
  obtain ⟨digits, hdigits, hport⟩ := of_number? ht.number
  have hsame : String.ofList t.port.toList = t.port := String.ofList_toList
  rw [← String.ofList_toList (s := t.line), splitPair_ofList, toList_line]
  rcases hport with hport | ⟨letter, rfl | rfl, hport⟩
  · -- Digits alone make no mark, so the last colon decides.
    have hlower' : ¬ udpMark 'u' <:+: t.host.toList := by
      intro hoccurs
      have hlead := hlower hoccurs
      rw [hport] at hlead
      exact hdigits (hlead.subset (by simp))
    rw [hport] at hsame ⊢
    rw [cutAt_nowhere (.inl rfl) hupper (not_udpMark_infix_digits (.inl rfl) hdigits),
      cutAt_nowhere (.inr rfl) hlower' (not_udpMark_infix_digits (.inr rfl) hdigits), ← hsame]
    exact cutLast_append _ hdigits
  · rw [hport] at hsame ⊢
    rw [cutAt_behind (.inl rfl) hupper digits, ← hsame]
    rfl
  · have hlower' : ¬ udpMark 'u' <:+: t.host.toList := by
      intro hoccurs
      have hlead := hlower hoccurs
      rw [hport, List.cons_prefix_cons] at hlead
      exact absurd hlead.1 (by decide)
    rw [hport] at hsame ⊢
    rw [cutAt_nowhere (.inl rfl) hupper (not_upper_infix_lower hdigits),
      cutAt_behind (.inr rfl) hlower' digits, ← hsame]
    rfl

/-- A written target is cut inside its host when a mark is hidden there, and what follows has no
number. -/
theorem splitPair_line_of_hidesMark (h : t.HidesMark) :
    ∃ before rest, splitPair t.line = some (before, rest) ∧ number? rest = none := by
  have hnumber {letter : Char} (hletter : IsLetter letter) {after : List Char}
      (hcolon : ':' ∈ after) : number? (String.ofList (letter :: ':' :: after)) = none := by
    rw [number?_marked hletter, Option.eq_none_iff_forall_ne_some]
    intro n hn
    have hnone := colon_not_mem_of_decimal? hn
    rw [String.toList_ofList] at hnone
    exact hnone hcolon
  rw [← String.ofList_toList (s := t.line), splitPair_ofList, toList_line]
  by_cases hupper : udpMark 'U' <:+: t.host.toList
  · obtain ⟨before, after, hcut, hcolon⟩ := cutAt_inside (.inl rfl) hupper t.port.toList
    rw [hcut]
    exact ⟨_, _, rfl, hnumber (.inl rfl) hcolon⟩
  · obtain ⟨hlower, hlead⟩ := h.resolve_left hupper
    obtain ⟨before, after, hcut, hcolon⟩ := cutAt_inside (.inr rfl) hlower t.port.toList
    have hport : ¬ udpMark 'U' <:+: ':' :: t.port.toList := by
      obtain ⟨digits, hdigits, hport | ⟨letter, rfl | rfl, hport⟩⟩ := of_number? ht.number
      · rw [hport]
        exact not_udpMark_infix_digits (.inl rfl) hdigits
      · rw [hport] at hlead
        exact absurd ⟨digits, rfl⟩ hlead
      · rw [hport]
        exact not_upper_infix_lower hdigits
    rw [cutAt_nowhere (.inl rfl) hupper hport, hcut]
    exact ⟨_, _, rfl, hnumber (.inr rfl) hcolon⟩

end

/-! ## Reading -/

theorem of_check {line host port : String} {t : Target} (h : check line host port = .ok t) :
    t = ⟨bareHost host, port⟩ ∧ t.host ≠ "" ∧ (number? t.port).isSome = true := by
  unfold check at h
  dsimp only at h
  split at h
  · cases h
  · rename_i hfine
    cases h
    rw [not_or, Option.isNone_iff_eq_none] at hfine
    exact ⟨rfl, hfine.1, Option.isSome_iff_ne_none.mpr hfine.2⟩

theorem check_eq_ok (line : String) {host port : String} (hhost : bareHost host ≠ "")
    (hport : (number? port).isSome = true) : check line host port = .ok ⟨bareHost host, port⟩ := by
  have hfine : ¬ (bareHost host = "" ∨ (number? port).isNone = true) := by
    rw [not_or, Option.isNone_iff_eq_none]
    exact ⟨hhost, Option.isSome_iff_ne_none.mp hport⟩
  exact if_neg hfine

theorem check_eq_error (line host : String) {port : String} (h : number? port = none) :
    check line host port = .error (.parse (.invalidTarget line)) := by
  apply if_pos
  exact .inr (Option.isNone_iff_eq_none.mpr h)

/-- A word has no blanks. -/
theorem isBlank_of_mem_words {s word : String} (h : word ∈ Text.words s) :
    ∀ c ∈ word.toList, Text.isBlank c = false := by
  obtain ⟨piece, hpiece, rfl⟩ := List.mem_map.mp h
  rw [String.toList_ofList]
  exact Text.of_mem_splitWhere Text.isBlank s.toList piece (List.mem_filter.mp hpiece).1

/-- A line of one word is read as a pair. -/
theorem parse_word {s : String} (hne : s.toList ≠ [])
    (hblank : ∀ c ∈ s.toList, Text.isBlank c = false) :
    parse s =
      match splitPair s with
      | some (host, port) => check s host port
      | none => .error (.parse (.missingPort s)) := by
  have htrim : Text.trim s = s :=
    Text.trim_of_isTrimmed s (Text.isTrimmed_of_forall s.toList hblank)
  have hwords : Text.words s = [s] := by
    rw [Text.words, Text.splitWhere_eq_singleton _ _ hblank,
      List.filter_cons_of_pos (by simp [hne]), List.filter_nil, List.map_singleton,
      String.ofList_toList]
  cases hpair : splitPair s with
  | none => simp only [parse, htrim, hwords, hpair]
  | some parts => simp only [parse, htrim, hwords, hpair]

/-- What has been read. -/
theorem of_parse {s : String} {t : Target} (h : parse s = .ok t) :
    t.IsRead ∧ ∀ pair, Text.words (Text.trim s) = [pair] → ¬ t.HidesMark := by
  have hread {host port : String} (hcheck : check (Text.trim s) host port = .ok t)
      (hhost : ∀ c ∈ host.toList, Text.isBlank c = false)
      (hport : ∀ c ∈ port.toList, Text.isBlank c = false) : t.IsRead := by
    obtain ⟨rfl, hne, hnumber⟩ := of_check hcheck
    exact ⟨isBare_bareHost host, hne, hnumber,
      fun c hc => hhost c ((isInfix_bareHost host).subset hc), hport⟩
  unfold parse at h
  dsimp only at h
  split at h
  · cases h
  · rename_i pair hwords
    split at h
    · rename_i host port hsplit
      obtain ⟨hpair, hupper, hlower⟩ := of_splitPair hsplit
      have hblank : ∀ c ∈ pair.toList, Text.isBlank c = false :=
        isBlank_of_mem_words (hwords ▸ List.mem_cons_self)
      rw [hpair] at hblank
      refine ⟨hread h (fun c hc => hblank c (List.mem_append_left _ hc))
        (fun c hc => hblank c (List.mem_append_right _ (List.mem_cons_of_mem _ hc))), ?_⟩
      intro _ _ hhides
      obtain ⟨rfl, -, -⟩ := of_check h
      rcases hhides with hoccurs | ⟨hoccurs, hlead⟩
      · exact hupper (hoccurs.trans (isInfix_bareHost host))
      · exact hlead (hlower (hoccurs.trans (isInfix_bareHost host)))
    · cases h
  · rename_i host port more hwords
    refine ⟨hread h (isBlank_of_mem_words (hwords ▸ List.mem_cons_self))
      (isBlank_of_mem_words (hwords ▸ List.mem_cons_of_mem _ List.mem_cons_self)), ?_⟩
    intro pair hpair
    rw [hwords] at hpair
    cases hpair

/-- What a target is read as when it is written on a line. -/
theorem parse_line {t : Target} (ht : t.IsRead) :
    (¬ t.HidesMark → parse t.line = .ok t) ∧
      (t.HidesMark → parse t.line = .error (.parse (.invalidTarget t.line))) := by
  have hline := toList_line t
  have hne : t.line.toList ≠ [] := by
    rw [hline]
    simp
  have hblank : ∀ c ∈ t.line.toList, Text.isBlank c = false := by
    intro c hc
    rw [hline, List.mem_append, List.mem_cons] at hc
    rcases hc with hc | rfl | hc
    · unfold fenced at hc
      split at hc
      · rw [List.mem_append, List.mem_cons, List.mem_singleton] at hc
        rcases hc with (rfl | hc) | rfl
        · rfl
        · exact ht.host_unbroken c hc
        · rfl
      · exact ht.host_unbroken c hc
    · rfl
    · exact ht.port_unbroken c hc
  have hhost := bareHost_fenced ht.bare
  rw [parse_word hne hblank]
  constructor
  · intro h
    rw [splitPair_line ht h]
    dsimp only
    rw [check_eq_ok t.line (hhost.symm ▸ ht.host_ne) ht.number, hhost]
  · intro h
    obtain ⟨before, rest, hsplit, hnone⟩ := splitPair_line_of_hidesMark ht h
    rw [hsplit]
    exact check_eq_error t.line before hnone

/-- A target that has been read is read back from the line it is written on exactly if its host
hides no mark, and that line is refused otherwise.  A host without colons hides none, as a host name
or an IPv4 address is, nor does a host without the letters of marks, as an IPv6 address is.  A line
of one word never gives a host that hides a mark. -/
theorem read_back_iff {s : String} {t : Target} (h : parse s = .ok t) :
    (parse t.line = .ok t ↔ ¬ t.HidesMark) ∧
      (t.HidesMark → parse t.line = .error (.parse (.invalidTarget t.line))) ∧
      (':' ∉ t.host.toList ∨ ('U' ∉ t.host.toList ∧ 'u' ∉ t.host.toList) →
        parse t.line = .ok t) ∧
      ∀ pair, Text.words (Text.trim s) = [pair] → parse t.line = .ok t := by
  obtain ⟨ht, hword⟩ := of_parse h
  obtain ⟨hback, hrefused⟩ := parse_line ht
  refine ⟨⟨?_, hback⟩, hrefused, ?_, ?_⟩
  · intro hsame hhides
    rw [hrefused hhides] at hsame
    cases hsame
  · intro hhost
    apply hback
    have hmark : ∀ letter, IsLetter letter → udpMark letter <:+: t.host.toList → False := by
      intro letter hletter hoccurs
      rcases hhost with hcolon | ⟨hupper, hlower⟩
      · exact hcolon (hoccurs.subset (by simp [udpMark]))
      · rcases hletter with rfl | rfl
        · exact hupper (hoccurs.subset (by simp [udpMark]))
        · exact hlower (hoccurs.subset (by simp [udpMark]))
    rintro (hoccurs | ⟨hoccurs, -⟩)
    · exact hmark 'U' (.inl rfl) hoccurs
    · exact hmark 'u' (.inr rfl) hoccurs
  · intro pair hpair
    exact hback (hword pair hpair)

/-- A host with a mark inside, and an address with a port that has one. -/
theorem read_back_iff_of_hiddenMark :
    parse "a:U:b 80" = .ok ⟨"a:U:b", "80"⟩ ∧
      (Target.mk "a:U:b" "80").line = "[a:U:b]:80" ∧
      parse "[a:U:b]:80" = .error (.parse (.invalidTarget "[a:U:b]:80")) ∧
      parse "fe80::1 u:53" = .ok ⟨"fe80::1", "u:53"⟩ ∧
      parse "[fe80::1]:u:53" = .ok ⟨"fe80::1", "u:53"⟩ := by
  have hread : parse "a:U:b 80" = .ok ⟨"a:U:b", "80"⟩ := by decide +kernel
  have hread' : parse "fe80::1 u:53" = .ok ⟨"fe80::1", "u:53"⟩ := by
    decide +kernel
  have hhides : (Target.mk "a:U:b" "80").HidesMark := .inl ⟨['a'], ['b'], by decide⟩
  have hrefused := (read_back_iff hread).2.1 hhides
  have hback := (read_back_iff hread').2.2.1 (.inr ⟨by decide, by decide⟩)
  exact ⟨hread, by decide +kernel, hrefused, hread', hback⟩

end Fingerprinting.Target
