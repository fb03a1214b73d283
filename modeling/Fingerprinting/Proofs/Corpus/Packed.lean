/-
# Corpora that are packed

A corpus may be packed.  All readers of corpora unpack first, and so a packed corpus says to them
what the plain one says, except for one: the reader of fingers looks at the first byte before it
unpacks, and takes every packed corpus for JSON.

* `unpack_of_isPacked` is what the readers that unpack first have in common;
* `Fingers.sameOutcome_iff` says for which fingers packing makes no difference;
* `load_packed` puts all readers together.
-/
import Fingerprinting.Engine
import Fingerprinting.Alias
import Fingerprinting.Proofs.Gzip.Stored
import Fingerprinting.Proofs.Json.Lists

namespace Fingerprinting

/-- Two results are the same: the same data, or errors of the same kind. -/
def SameOutcome {α : Type} (x y : Except Error α) : Prop :=
  x.mapError Error.kind = y.mapError Error.kind

namespace Corpus

/-! ## Packing -/

/-- A plain corpus `d` and the same corpus packed. -/
structure IsPacked (z d : Bytes) : Prop where
  opens : Gzip.decompress? z = some d
  plain : Gzip.isGzip d = false

/-- The first byte of a corpus that is taken for JSON before it is unpacked. -/
def LooksJson (data : Bytes) : Prop :=
  ∃ b, firstByte? data = some b ∧ (b = 0x5B ∨ b = 0x7B ∨ b = 0x1F)

variable {z d : Bytes}

/-- Packed and plain are the same once they are unpacked. -/
theorem unpack_of_isPacked (h : IsPacked z d) : unpack z = unpack d := by
  have hz := Gzip.isGzip_of_decompress? h.opens
  have hd : ¬ Gzip.isGzip d = true := by rw [h.plain]; exact Bool.false_ne_true
  rw [unpack, unpack, if_pos hz, if_neg hd, h.opens]

theorem unpack_of_plain (h : Gzip.isGzip d = false) : unpack d = .ok d := by
  rw [unpack, h]
  rfl

theorem ofJson_of_plain {α : Type} (read : Document → Option α) (h : Gzip.isGzip d = false) :
    ofJson read d =
      match (Document.ofJson? d).bind read with
      | some a => .ok a
      | none => .error (.corpus .json) := by
  rw [ofJson, unpack_of_plain h]
  rfl

theorem ofYaml_of_plain {α : Type} (read : Document → Option α) (h : Gzip.isGzip d = false) :
    ofYaml read d =
      match (Document.ofYaml? d).bind read with
      | some a => .ok a
      | none => .error (.corpus .yaml) := by
  rw [ofYaml, unpack_of_plain h]
  rfl

theorem ofJson_of_isPacked {α : Type} (read : Document → Option α) (h : IsPacked z d) :
    ofJson read z = ofJson read d := by
  rw [ofJson, ofJson, unpack_of_isPacked h]

theorem ofYaml_of_isPacked {α : Type} (read : Document → Option α) (h : IsPacked z d) :
    ofYaml read z = ofYaml read d := by
  rw [ofYaml, ofYaml, unpack_of_isPacked h]

/-- What is packed begins with the first byte of the magic number. -/
theorem looksJson_of_isGzip (h : Gzip.isGzip z = true) : LooksJson z := by
  obtain ⟨rest, hrest⟩ := List.isPrefixOf_iff_prefix.mp h
  refine ⟨0x1F, ?_, .inr (.inr rfl)⟩
  rw [← hrest]
  rfl

end Corpus

/-! ## Fingers -/

namespace Fingers

variable {z d : Bytes}

theorem load_of_looksJson (h : Corpus.LooksJson d) : load d = Corpus.ofJson ofDocument? d := by
  obtain ⟨b, hfirst, hb⟩ := h
  unfold load
  rw [hfirst]
  exact if_pos hb

/-- A packed corpus of fingers is always read as JSON. -/
theorem load_of_isPacked (h : Corpus.IsPacked z d) : load z = Corpus.ofJson ofDocument? d := by
  have hlooks := Corpus.looksJson_of_isGzip (Gzip.isGzip_of_decompress? h.opens)
  rw [load_of_looksJson hlooks, Corpus.ofJson_of_isPacked _ h]

/-- What does not look like JSON is no list in JSON. -/
theorem ofJson_of_not_looksJson (hd : Gzip.isGzip d = false) (h : ¬ Corpus.LooksJson d) :
    Corpus.ofJson ofDocument? d = .error (.corpus .json) := by
  have hnone : (Document.ofJson? d).bind ofDocument? = none := by
    rw [Option.bind_eq_none_iff]
    intro doc hdoc
    rw [ofDocument?, Document.listOf?]
    cases hitems : doc.items? with
    | none => rfl
    | some items =>
        have hfirst := Json.firstByte?_of_ofJson? hdoc (by rw [hitems]; exact Option.some_ne_none _)
        exact absurd ⟨_, hfirst, .inl rfl⟩ h
  rw [Corpus.ofJson_of_plain _ hd, hnone]

/-- What does not look like JSON is read as YAML, or has no fingers. -/
theorem kind_of_load (hd : Gzip.isGzip d = false) (h : ¬ Corpus.LooksJson d) (e : Error)
    (he : load d = .error e) : e.kind = .corpus := by
  unfold load at he
  split at he
  · cases he
  · rename_i b hfirst
    rw [if_neg fun hb => h ⟨b, hfirst, hb⟩, Corpus.ofYaml_of_plain _ hd] at he
    split at he
    · cases he
    · cases he
      rfl

/-- Packing makes no difference to a corpus of fingers that looks like JSON, or that cannot be read
anyway. -/
theorem sameOutcome_iff (h : Corpus.IsPacked z d) :
    SameOutcome (load z) (load d) ↔ Corpus.LooksJson d ∨ ∃ e, load d = .error e := by
  rw [load_of_isPacked h]
  by_cases hjson : Corpus.LooksJson d
  · rw [load_of_looksJson hjson]
    exact ⟨fun _ => .inl hjson, fun _ => rfl⟩
  · rw [ofJson_of_not_looksJson h.plain hjson]
    cases hload : load d with
    | ok fingers =>
        constructor
        · intro hsame
          cases hsame
        · rintro (hlooks | ⟨e, he⟩)
          · exact absurd hlooks hjson
          · cases he
    | error e =>
        have hkind := kind_of_load h.plain hjson e hload
        refine ⟨fun _ => .inr ⟨e, rfl⟩, fun _ => ?_⟩
        rw [SameOutcome, Except.mapError, Except.mapError, hkind]
        rfl

end Fingers

/-! ## The other readers -/

section

variable {z d : Bytes} (h : Corpus.IsPacked z d)

include h

theorem Hub.load_of_isPacked : Hub.load z = Hub.load d := by
  rw [Hub.load, Hub.load, Corpus.unpack_of_isPacked h]

theorem EHole.load_of_isPacked : EHole.load z = EHole.load d := by
  rw [EHole.load, EHole.load, Corpus.unpack_of_isPacked h]

theorem Goby.load_of_isPacked : Goby.load z = Goby.load d := by
  rw [Goby.load, Goby.load, Corpus.unpack_of_isPacked h]

theorem Wappalyzer.load_of_isPacked : Wappalyzer.load z = Wappalyzer.load d := by
  rw [Wappalyzer.load, Wappalyzer.load, Corpus.unpack_of_isPacked h]

theorem Aliases.load_of_isPacked (seed : List Alias) :
    Aliases.load seed (some z) = Aliases.load seed (some d) := by
  rw [Aliases.load, Aliases.load, Corpus.ofYaml_of_isPacked _ h]

theorem Nmap.ProbeSet.load_of_isPacked : Nmap.ProbeSet.load z = Nmap.ProbeSet.load d := by
  rw [Nmap.ProbeSet.load, Nmap.ProbeSet.load, Corpus.unpack_of_isPacked h]

theorem Nmap.ServiceTable.load_of_isPacked :
    Nmap.ServiceTable.load z = Nmap.ServiceTable.load d := by
  rw [Nmap.ServiceTable.load, Nmap.ServiceTable.load, Corpus.unpack_of_isPacked h]

end

/-! ## All readers -/

namespace Corpus

/-- What is read from a packed corpus is what is read from the plain one.  For fingers that is so
when the plain corpus looks like JSON or cannot be read, and only then. -/
theorem load_packed {z d : Bytes} (h : IsPacked z d) :
    Hub.load z = Hub.load d ∧ EHole.load z = EHole.load d ∧ Goby.load z = Goby.load d ∧
    Wappalyzer.load z = Wappalyzer.load d ∧
    (∀ seed, Aliases.load seed (some z) = Aliases.load seed (some d)) ∧
    Nmap.ProbeSet.load z = Nmap.ProbeSet.load d ∧
    Nmap.ServiceTable.load z = Nmap.ServiceTable.load d ∧
    (SameOutcome (Fingers.load z) (Fingers.load d) ↔
      LooksJson d ∨ ∃ e, Fingers.load d = .error e) :=
  ⟨Hub.load_of_isPacked h, EHole.load_of_isPacked h, Goby.load_of_isPacked h,
    Wappalyzer.load_of_isPacked h, Aliases.load_of_isPacked h, Nmap.ProbeSet.load_of_isPacked h,
    Nmap.ServiceTable.load_of_isPacked h, Fingers.sameOutcome_iff h⟩

/-- One finger in YAML, which can be read plain. -/
theorem load_packed_of_yaml :
    let d := Utf8.encode "- name: nginx\n"
    IsPacked (Gzip.compress d) d ∧ (Fingers.load d).isOk = true ∧
      ¬ SameOutcome (Fingers.load (Gzip.compress d)) (Fingers.load d) := by
  intro d
  have h : IsPacked (Gzip.compress d) d :=
    ⟨Gzip.decompress?_compress d, by decide +kernel⟩
  have hread : (Fingers.load d).isOk = true := by decide +kernel
  have hfirst : firstByte? d = some 0x2D := by decide +kernel
  refine ⟨h, hread, fun hsame => ?_⟩
  obtain ⟨-, -, -, -, -, -, -, hfingers⟩ := load_packed h
  rcases hfingers.mp hsame with ⟨b, hb, hjson⟩ | ⟨e, he⟩
  · rw [hfirst] at hb
    cases hb
    exact absurd hjson (by decide)
  · rw [he] at hread
    cases hread

end Corpus

end Fingerprinting
