/-
# Hosts in payloads

A payload may have marks that stand for the host it is sent to.  The marks that are found from the
left and do not overlap cut it into pieces, in one way only, and what is sent is the host joined
between these pieces.  The pieces are those of the payload as it is written: whatever the host is,
it never makes another mark with the text beside it.

* `Splits` says which pieces a byte string has between the occurrences of a mark;
* `splits_iff` says that it has no others, and `replace_eq_intercalate` that replacing the
  occurrences joins the pieces;
* `replace_of_cut?` replaces them one after the other, each searched for in what is left, which is
  what probes do.

Main statement: `host_joins_pieces`, for the marks of rules and for those of probes.
-/
import Mathlib.Tactic.Common
import Fingerprinting.Nmap.Probe
import Fingerprinting.Payload
import Fingerprinting.Proofs.Text.Search

namespace Fingerprinting

namespace Bytes

variable {marker : Bytes}

/-! ## Pieces -/

theorem piecesFrom_ne_nil (marker : Bytes) (skip : Nat) (b : Bytes) :
    piecesFrom marker skip b ≠ [] := by
  induction b generalizing skip with
  | nil => cases skip <;> simp [piecesFrom]
  | cons c rest ih =>
      cases skip with
      | zero =>
          unfold piecesFrom
          split
          · simp
          · split <;> simp
      | succ skip => exact ih skip

/-- What is left of an occurrence belongs to no piece. -/
theorem piecesFrom_append (marker left rest : Bytes) :
    piecesFrom marker left.length (left ++ rest) = pieces marker rest := by
  induction left with
  | nil => rfl
  | cons c left ih => exact ih

/-- A byte that begins no occurrence belongs to the first piece. -/
theorem pieces_cons {c : UInt8} {rest : Bytes} (h : ¬ marker <+: c :: rest) :
    pieces marker (c :: rest) = (pieces marker rest).modifyHead (c :: ·) := by
  have hleads : ¬ (!marker.isEmpty && marker.isPrefixOf (c :: rest)) = true := by
    intro hleads
    apply h
    rw [Bool.and_eq_true, List.isPrefixOf_iff_prefix] at hleads
    exact hleads.2
  have hne : pieces marker rest ≠ [] := piecesFrom_ne_nil marker 0 rest
  obtain ⟨first, more, hmore⟩ := List.exists_cons_of_ne_nil hne
  have hfrom : piecesFrom marker 0 rest = first :: more := hmore
  rw [hmore, pieces, piecesFrom, if_neg hleads, hfrom]
  rfl

/-- No piece stands before a marker that begins the byte string. -/
theorem pieces_marker_append (hmarker : marker ≠ []) (rest : Bytes) :
    pieces marker (marker ++ rest) = [] :: pieces marker rest := by
  cases marker with
  | nil => exact absurd rfl hmarker
  | cons c left =>
      have hleads :
          (!(c :: left).isEmpty && (c :: left).isPrefixOf (c :: left ++ rest)) = true := by
        rw [Bool.and_eq_true, List.isPrefixOf_iff_prefix]
        exact ⟨rfl, List.prefix_append _ rest⟩
      have hleft := piecesFrom_append (c :: left) left rest
      rw [List.cons_append] at hleads ⊢
      rw [pieces, piecesFrom, if_pos hleads, List.length_cons, Nat.add_sub_cancel, hleft]

/-- The first piece ends where the marker stands first. -/
theorem pieces_append (hmarker : marker ≠ []) {before : Bytes} (after : Bytes)
    (h : ¬ marker <:+: before ++ marker.dropLast) :
    pieces marker (before ++ marker ++ after) = before :: pieces marker after := by
  induction before with
  | nil => exact pieces_marker_append hmarker after
  | cons c before ih =>
      have hleads : ¬ marker <+: c :: (before ++ marker ++ after) := by
        intro hleads
        cases Lists.eq_nil_of_leads hmarker hleads h
      rw [List.cons_append, List.infix_cons_iff, not_or] at h
      show pieces marker (c :: (before ++ marker ++ after)) = _
      rw [pieces_cons hleads, ih h.2]
      rfl

/-- Without a marker there is one piece. -/
theorem pieces_eq_singleton {b : Bytes} (h : ¬ marker <:+: b) : pieces marker b = [b] := by
  induction b with
  | nil => rfl
  | cons c rest ih =>
      rw [List.infix_cons_iff, not_or] at h
      rw [pieces_cons h.1, ih h.2]
      rfl

/-- A byte string has some pieces between the occurrences of a marker.  The occurrences are taken
from the left: the part before one has none, also not together with the beginning of that one. -/
inductive Splits (marker : Bytes) : Bytes → List Bytes → Prop where
  | whole {b : Bytes} (h : ¬ marker <:+: b) : Splits marker b [b]
  | cut {before after : Bytes} {ps : List Bytes} (first : ¬ marker <:+: before ++ marker.dropLast)
      (rest : Splits marker after ps) : Splits marker (before ++ marker ++ after) (before :: ps)

/-- Every byte string has pieces. -/
theorem splits_pieces (hmarker : marker ≠ []) (b : Bytes) : Splits marker b (pieces marker b) := by
  -- What follows the first occurrence is shorter, since the marker has bytes.
  induction hlength : b.length using Nat.strong_induction_on generalizing b with
  | h n ih =>
      cases hcut : cut? marker b with
      | none =>
          have hnone := (cut?_eq_none_iff hmarker b).mp hcut
          rw [pieces_eq_singleton hnone]
          exact .whole hnone
      | some parts =>
          obtain ⟨before, after⟩ := parts
          obtain ⟨rfl, hfirst⟩ := (cut?_eq_some_iff hmarker b before after).mp hcut
          have hshorter : after.length < n := by
            have hpos := List.length_pos_iff.mpr hmarker
            rw [List.length_append, List.length_append] at hlength
            omega
          rw [pieces_append hmarker after hfirst]
          exact .cut hfirst (ih after.length hshorter after rfl)

/-- A byte string has its pieces and no others. -/
theorem splits_iff (hmarker : marker ≠ []) (b : Bytes) (ps : List Bytes) :
    Splits marker b ps ↔ ps = pieces marker b := by
  constructor
  · intro h
    induction h with
    | whole h => rw [pieces_eq_singleton h]
    | cut first rest ih => rw [pieces_append hmarker _ first, ih]
  · rintro rfl
    exact splits_pieces hmarker b

/-! ## Replacing -/

/-- Replacing the occurrences of a marker joins the pieces between them around the value. -/
theorem replace_eq_intercalate (marker value b : Bytes) :
    replace marker value b = List.intercalate value (pieces marker b) := by
  have hfrom : ∀ skip, replaceFrom marker value skip b =
      List.intercalate value (piecesFrom marker skip b) := by
    induction b with
    | nil =>
        intro skip
        cases skip <;> simp [replaceFrom, piecesFrom]
    | cons c rest ih =>
        intro skip
        cases skip with
        | succ skip => exact ih skip
        | zero =>
            unfold replaceFrom piecesFrom
            split
            · -- The piece before an occurrence that stands first is empty.
              obtain ⟨first, more, hmore⟩ :=
                List.exists_cons_of_ne_nil (piecesFrom_ne_nil marker (marker.length - 1) rest)
              rw [ih, hmore, List.intercalate_cons_cons, List.nil_append]
            · obtain ⟨first, more, hmore⟩ :=
                List.exists_cons_of_ne_nil (piecesFrom_ne_nil marker 0 rest)
              rw [ih, hmore]
              cases more <;> simp
  exact hfrom 0

/-- Without a marker there is nothing to replace. -/
theorem replace_of_not_infix {b : Bytes} (h : ¬ marker <:+: b) (value : Bytes) :
    replace marker value b = b := by
  rw [replace_eq_intercalate, pieces_eq_singleton h, List.intercalate_singleton]

/-- The occurrences of a marker can be replaced one after the other: the first one is searched for,
and then those in what follows it. -/
theorem replace_of_cut? (hmarker : marker ≠ []) (value b : Bytes) :
    replace marker value b =
      match cut? marker b with
      | none => b
      | some (before, after) => before ++ value ++ replace marker value after := by
  cases hcut : cut? marker b with
  | none =>
      exact replace_of_not_infix ((cut?_eq_none_iff hmarker b).mp hcut) value
  | some parts =>
      obtain ⟨before, after⟩ := parts
      obtain ⟨rfl, hfirst⟩ := (cut?_eq_some_iff hmarker b before after).mp hcut
      obtain ⟨first, more, hmore⟩ :=
        List.exists_cons_of_ne_nil (piecesFrom_ne_nil marker 0 after)
      have hpieces : pieces marker after = first :: more := hmore
      show _ = before ++ value ++ replace marker value after
      rw [replace_eq_intercalate, pieces_append hmarker after hfirst, hpieces,
        List.intercalate_cons_cons, replace_eq_intercalate, hpieces]

end Bytes

/-! ## Hosts -/

/-- A host is put into a template in the place of a mark: it joins the pieces of the template, the
same ones for every host, and leaves a template without the mark as it is. -/
def PutsHost (mark template : Bytes) (put : String → Bytes) : Prop :=
  ∃ pieces, (∀ ps, Bytes.Splits mark template ps ↔ ps = pieces) ∧
    (∀ host, put host = List.intercalate (Utf8.encode host) pieces) ∧
    (¬ mark <:+: template → ∀ host, put host = template)

/-- Replacing the occurrences of a mark by the host puts it there. -/
theorem putsHost_replace {mark : Bytes} (hmark : mark ≠ []) (template : Bytes) :
    PutsHost mark template fun host => Bytes.replace mark (Utf8.encode host) template := by
  refine ⟨Bytes.pieces mark template, Bytes.splits_iff hmark template, ?_, ?_⟩
  · intro host
    exact Bytes.replace_eq_intercalate mark _ template
  · intro hnone host
    exact Bytes.replace_of_not_infix hnone _

/-- A payload without a mark need not be gone through. -/
theorem Payload.render_eq_replace (payload : Bytes) (host : String) :
    render payload host = Bytes.replace hostMark (Utf8.encode host) payload := by
  rw [render]
  split
  · rfl
  · rename_i hnone
    rw [Bytes.contains_iff] at hnone
    exact (Bytes.replace_of_not_infix hnone _).symm

/-- Searching for the marks one after the other replaces them all. -/
theorem Nmap.Probe.putHost_eq_replace (host payload : Bytes) :
    putHost host payload = Bytes.replace hostMark host payload := by
  have hmark : hostMark ≠ [] := by decide +kernel
  fun_induction putHost host payload with
  | case1 payload hcut => rw [Bytes.replace_of_cut? hmark, hcut]
  | case2 payload before after hcut _ ih => rw [Bytes.replace_of_cut? hmark, hcut, ih]

/-- The host of a rule's payload and that of a probe's are put in the place of their marks in one
pass, each mark that is found from the left and does not overlap another. -/
theorem host_joins_pieces :
    (∀ payload, PutsHost Payload.hostMark payload (Payload.render payload)) ∧
      ∀ probe : Nmap.Probe, PutsHost Nmap.Probe.hostMark probe.payload probe.request := by
  have hrule : Payload.hostMark ≠ [] := by decide +kernel
  have hprobe : Nmap.Probe.hostMark ≠ [] := by decide +kernel
  constructor
  · intro payload
    rw [show Payload.render payload = _ from funext (Payload.render_eq_replace payload)]
    exact putsHost_replace hrule payload
  · intro probe
    rw [show probe.request = _ from
      funext fun host => Nmap.Probe.putHost_eq_replace (Utf8.encode host) probe.payload]
    exact putsHost_replace hprobe probe.payload

/-- Half a mark before a whole one, and a host that is a mark itself. -/
example :
    let host := "\x7b\x7bHostname\x7d\x7d"
    Payload.render (Utf8.encode ("\x7b" ++ host ++ "Hostname\x7d\x7d")) host =
      Utf8.encode ("\x7b" ++ host ++ "Hostname\x7d\x7d") := by
  decide +kernel

end Fingerprinting
