/-
# What a list of ports names

An item of a list names a port as a numeral or as one between the ends of a range, and a transport
may stand before it.  A list that can be read has exactly the ports that its items name.

* `names_iff` says so of an item and its range;
* `contains_of_parse` says so of a list.
-/
import Fingerprinting.Nmap.PortList
import Fingerprinting.Proofs.Results
import Fingerprinting.Proofs.Text.Numeral
import Fingerprinting.Proofs.Text.Pieces

namespace Fingerprinting.Nmap.PortList

/-! ## Names of ports -/

/-- The transports that may stand before an item. -/
def leads : List String := ["", "T:", "U:"]

/-- A text writes a number of at most sixteen bits. -/
def Writes (s : String) (port : Nat) : Prop := Text.decimal? Text.max16 s = some port

instance (s : String) (port : Nat) : Decidable (Writes s port) :=
  inferInstanceAs (Decidable (_ = _))

/-- An item names a port: by a numeral, or as one between the ends of a range. -/
inductive Names (port : Nat) : String → Prop where
  | alone (lead numeral : String) (hlead : lead ∈ leads) (h : Writes numeral port) :
      Names port (lead ++ numeral)
  | between (lead first last : String) (low high : Nat) (hlead : lead ∈ leads)
      (hlow : Writes (Text.trim first) low) (hhigh : Writes (Text.trim last) high)
      (h : low ≤ port ∧ port ≤ high) :
      Names port (lead ++ (first ++ "-" ++ last))

/-- A list names a port when one of its items does. -/
def Lists (s : String) (port : Nat) : Prop := ∃ item ∈ items s, Names port item

/-- The characters of a numeral with blanks around it. -/
theorem of_mem_trimmed {s : String} {port : Nat} (h : Writes (Text.trim s) port) (c : Char)
    (hc : c ∈ s.toList) : Text.isBlank c = true ∨ c = '+' ∨ (Text.digitValue? c).isSome := by
  rw [← Bool.not_eq_false, or_iff_not_imp_left, not_not]
  intro hblank
  refine Text.of_mem_numeral _ _ _ h c ?_
  rw [Text.trim, String.toList_ofList]
  exact Text.mem_trimChars_of_mem _ c hc hblank

/-- A numeral with blanks around it has no hyphen and no letter of a transport. -/
theorem not_mem_trimmed {s : String}
    (h : ∀ c ∈ s.toList, Text.isBlank c = true ∨ c = '+' ∨ (Text.digitValue? c).isSome) :
    '-' ∉ s.toList ∧ 'T' ∉ s.toList ∧ 'U' ∉ s.toList := by
  refine ⟨fun hc => ?_, fun hc => ?_, fun hc => ?_⟩
  · exact absurd (h _ hc) (by decide)
  · exact absurd (h _ hc) (by decide)
  · exact absurd (h _ hc) (by decide)

/-- A transport before an item is taken off. -/
theorem bare_append {lead : String} (hlead : lead ∈ leads) {s : String}
    (ht : s.toList.head? ≠ some 'T') (hu : s.toList.head? ≠ some 'U') : bare (lead ++ s) = s := by
  simp only [leads, List.mem_cons, List.not_mem_nil, or_false] at hlead
  unfold bare
  rcases hlead with rfl | rfl | rfl
  · rw [String.empty_append, Text.after_of_head "T:" s 'T' [':'] rfl ht,
      Text.after_of_head "U:" s 'U' [':'] rfl hu]
    rfl
  · rw [Text.after_append]
    rfl
  · rw [Text.after_of_head "T:" ("U:" ++ s) 'T' [':'] rfl (by simp), Text.after_append]
    rfl

/-- What stands before an item that has been bared is a transport. -/
theorem exists_lead (item : String) : ∃ lead ∈ leads, item = lead ++ bare item := by
  unfold bare
  cases ht : Text.after "T:" item with
  | some rest => exact ⟨"T:", by decide, Text.of_after _ _ _ ht⟩
  | none =>
      cases hu : Text.after "U:" item with
      | some rest => exact ⟨"U:", by decide, Text.of_after _ _ _ hu⟩
      | none => exact ⟨"", by decide, String.empty_append.symm⟩

/-- The range of an item has the ports that the item names. -/
theorem names_iff (item : String) (port : Nat) :
    Names port item ↔ ∃ low high, range? item = some (low, high) ∧ low ≤ port ∧ port ≤ high := by
  constructor
  · intro h
    cases h with
    | alone lead numeral hlead h =>
        obtain ⟨hhyphen, ht, hu⟩ :=
          not_mem_trimmed fun c hc => .inr (Text.of_mem_numeral _ _ _ h c hc)
        have hbare : bare (lead ++ numeral) = numeral :=
          bare_append hlead (fun hc => ht (List.mem_of_head? hc)) fun hc =>
            hu (List.mem_of_head? hc)
        refine ⟨port, port, ?_, le_rfl, le_rfl⟩
        unfold range?
        rw [hbare, Text.cut_eq_none '-' numeral hhyphen]
        exact congrArg (Option.map fun port => (port, port)) h
    | between lead first last low high hlead hlow hhigh h =>
        obtain ⟨hhyphen, ht, hu⟩ := not_mem_trimmed (of_mem_trimmed hlow)
        have hcut : Text.cut '-' (first ++ "-" ++ last) = some (first, last) :=
          Text.cut_append '-' first last hhyphen
        have hhead : ∀ c, c ∉ first.toList → c ≠ '-' →
            (first ++ "-" ++ last).toList.head? ≠ some c := by
          intro c hfirst hne hc
          rw [String.toList_append, String.toList_append, List.append_assoc] at hc
          cases hcs : first.toList with
          | nil =>
              rw [hcs] at hc
              exact hne (Option.some.inj hc).symm
          | cons d rest =>
              rw [hcs] at hc hfirst
              exact hfirst (by rw [← Option.some.inj hc]; exact List.mem_cons_self)
        have hbare := bare_append hlead (hhead 'T' ht (by decide)) (hhead 'U' hu (by decide))
        refine ⟨low, high, ?_, h⟩
        unfold range?
        rw [hbare, hcut]
        dsimp only
        rw [hlow, hhigh]
        rfl
  · rintro ⟨low, high, hrange, h⟩
    obtain ⟨lead, hlead, hitem⟩ := exists_lead item
    rw [hitem]
    unfold range? at hrange
    split at hrange
    · rename_i first last hcut
      obtain ⟨a, ha, hrange⟩ := Option.bind_eq_some_iff.mp hrange
      obtain ⟨b, hb, hrange⟩ := Option.bind_eq_some_iff.mp hrange
      cases hrange
      rw [Text.of_cut _ _ _ _ hcut]
      exact .between lead first last low high hlead ha hb h
    · obtain ⟨n, hn, hrange⟩ := Option.map_eq_some_iff.mp hrange
      cases hrange
      rw [le_antisymm h.1 h.2] at hn
      exact .alone lead _ hlead hn

theorem names_of_rangeOf {item : String} {range : Nat × Nat} (h : rangeOf item = .ok range)
    (port : Nat) : (range.1 ≤ port && port ≤ range.2) = true ↔ Names port item := by
  unfold rangeOf at h
  split at h
  · rename_i r hr
    cases h
    rw [names_iff, hr, Bool.and_eq_true, decide_eq_true_eq, decide_eq_true_eq]
    constructor
    · intro hin
      exact ⟨_, _, rfl, hin⟩
    · rintro ⟨low, high, hends, hin⟩
      cases hends
      exact hin
  · cases h

/-- A list that has been read has the ports that it names. -/
theorem contains_of_parse {s : String} {l : PortList} (h : parse s = .ok l) (port : Nat) :
    l.contains port = true ↔ Lists s port := by
  rw [parse, Results.bind_eq_ok_iff] at h
  obtain ⟨ranges, hranges, hl⟩ := h
  cases hl
  rw [Results.mapM_eq_ok_iff] at hranges
  unfold contains Lists
  generalize items s = named at hranges ⊢
  induction hranges with
  | nil => simp
  | cons hrange _ ih =>
      rw [List.any_cons, Bool.or_eq_true, ih, names_of_rangeOf hrange, List.exists_mem_cons_iff]

end Fingerprinting.Nmap.PortList
