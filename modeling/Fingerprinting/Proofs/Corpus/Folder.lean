/-
# Folders of which some files are packed

A folder has each corpus in a file of its own, which may stand there packed under a longer name.
Packing files takes nothing away from the folder: the same corpora are found there, and the engines
that are built from them are the same.  There are two exceptions, a text of directives, which cannot
be read when it is packed, and fingers that do not look like JSON.

* `bytes?_packFiles` says what is found in a folder whose files have been packed;
* `text?_packFiles` says when a text of directives is found there;
* `packed_folder` says that they are the same corpora, and which detectors are built from them.
-/
import Fingerprinting.Proofs.Corpus.Repacked

namespace Fingerprinting

/-! ## Erasing -/

namespace Dictionary

variable {α : Type}

/-- The dictionary without a key. -/
def erase (d : Dictionary α) (key : String) : Dictionary α :=
  ⟨d.entries.filter fun e => e.1 != key⟩

theorem get?_erase (d : Dictionary α) (key other : String) :
    (d.erase key).get? other = if key = other then none else d.get? other := by
  show find? other (d.entries.filter fun e => e.1 != key) =
    if key = other then none else find? other d.entries
  induction d.entries with
  | nil => simp [find?]
  | cons entry rest ih =>
      obtain ⟨k, a⟩ := entry
      rw [List.filter_cons]
      simp only [find?]
      grind [find?]

end Dictionary

namespace Corpora

/-! ## Packing files -/

/-- The name that a file has when packed. -/
def packedFile (kind : CorpusKind) : String := kind.file ++ ".gz"

/-- The folder in which the file of a corpus, if it is there, is replaced by the packed one. -/
def packFile (pack : Bytes → Bytes) (folder : Folder) (kind : CorpusKind) : Folder :=
  match folder.get? kind.file with
  | none => folder
  | some data => (folder.erase kind.file).insert (packedFile kind) (pack data)

/-- The folder in which the files of some corpora are replaced by packed ones. -/
def packFiles (pack : Bytes → Bytes) (kinds : List CorpusKind) (folder : Folder) : Folder :=
  kinds.foldl (packFile pack) folder

theorem mem_fileNames_iff (kind : CorpusKind) (name : String) :
    name ∈ fileNames kind ↔ name = kind.file ∨ name = packedFile kind := by
  simp [fileNames, packedFile]

/-- No two corpora have a file in common. -/
theorem fileNames_disjoint {kind other : CorpusKind} (h : other ≠ kind) {name : String}
    (hname : name ∈ fileNames other) : name ∉ fileNames kind := by
  have hall : ∀ kind ∈ CorpusKind.all, ∀ other ∈ CorpusKind.all, other ≠ kind →
      ∀ name ∈ fileNames other, name ∉ fileNames kind := by decide +kernel
  have hmem : ∀ kind : CorpusKind, kind ∈ CorpusKind.all := by
    intro kind
    cases kind <;> decide
  exact hall kind (hmem kind) other (hmem other) h name hname

theorem file_ne_packedFile (kind : CorpusKind) : packedFile kind ≠ kind.file := by
  cases kind <;> decide +kernel

theorem bytes?_eq (folder : Folder) (kind : CorpusKind) :
    bytes? folder kind = (folder.get? kind.file).or (folder.get? (packedFile kind)) := by
  simp only [bytes?, fileNames, packedFile, List.findSome?_cons, List.findSome?_nil]
  cases folder.get? kind.file with
  | some data => rfl
  | none => cases folder.get? (kind.file ++ ".gz") <;> rfl

/-- A file under its own name is the one that is found. -/
theorem bytes?_of_file {folder : Folder} {kind : CorpusKind} {data : Bytes}
    (h : folder.get? kind.file = some data) : bytes? folder kind = some data := by
  rw [bytes?_eq, h, Option.some_or]

section

variable (pack : Bytes → Bytes)

/-- Packing a file touches its two names only. -/
theorem get?_packFile_of_not_mem (folder : Folder) (kind : CorpusKind) (name : String)
    (h : name ∉ fileNames kind) : (packFile pack folder kind).get? name = folder.get? name := by
  rw [mem_fileNames_iff, not_or] at h
  unfold packFile
  split
  · rfl
  · rw [Dictionary.get?_insert, if_neg (Ne.symm h.2), Dictionary.get?_erase, if_neg (Ne.symm h.1)]

theorem get?_packFile_file (folder : Folder) (kind : CorpusKind) :
    (packFile pack folder kind).get? kind.file = none := by
  unfold packFile
  split
  · assumption
  · rw [Dictionary.get?_insert, if_neg (file_ne_packedFile kind), Dictionary.get?_erase, if_pos rfl]

/-- A corpus whose file has been packed. -/
theorem bytes?_packFile (folder : Folder) (kind : CorpusKind) :
    bytes? (packFile pack folder kind) kind =
      match folder.get? kind.file with
      | some data => some (pack data)
      | none => bytes? folder kind := by
  rw [bytes?_eq, get?_packFile_file, Option.none_or]
  cases hdata : folder.get? kind.file with
  | none =>
      rw [bytes?_eq, hdata, Option.none_or]
      unfold packFile
      rw [hdata]
  | some data =>
      unfold packFile
      rw [hdata]
      dsimp only
      rw [Dictionary.get?_insert, if_pos rfl]

/-- What a folder holds after some files have been packed. -/
theorem bytes?_packFiles (kinds : List CorpusKind) (folder : Folder) (kind : CorpusKind) :
    bytes? (packFiles pack kinds folder) kind =
      match folder.get? kind.file with
      | some data => if kind ∈ kinds then some (pack data) else some data
      | none => bytes? folder kind := by
  induction kinds generalizing folder with
  | nil =>
      rw [packFiles, List.foldl_nil, bytes?_eq]
      cases folder.get? kind.file with
      | none => rfl
      | some data => rfl
  | cons first rest ih =>
      have hcons : packFiles pack (first :: rest) folder =
          packFiles pack rest (packFile pack folder first) := rfl
      rw [hcons, ih]
      by_cases hfirst : kind = first
      · subst hfirst
        rw [get?_packFile_file, bytes?_packFile]
        simp only [List.mem_cons_self, if_true]
      · have hkept : ∀ name ∈ fileNames kind,
            (packFile pack folder first).get? name = folder.get? name := fun name hname =>
          get?_packFile_of_not_mem pack folder first name (fileNames_disjoint hfirst hname)
        have hfile := hkept kind.file ((mem_fileNames_iff kind _).mpr (.inl rfl))
        have hpacked := hkept (packedFile kind) ((mem_fileNames_iff kind _).mpr (.inr rfl))
        rw [bytes?_eq, bytes?_eq, hfile, hpacked]
        simp only [List.mem_cons, hfirst, false_or]

end

/-! ## Texts of directives -/

/-- What is packed is no text. -/
theorem decode?_of_isGzip {z : Bytes} (h : Gzip.isGzip z = true) : Utf8.decode? z = none := by
  obtain ⟨rest, hrest⟩ := List.isPrefixOf_iff_prefix.mp h
  have hscan : Utf8.scan z = some '\x1f' :: none :: Utf8.scanFrom none rest := by
    rw [← hrest]
    rfl
  unfold Utf8.decode?
  rw [hscan]
  rfl

section

variable (pack : Bytes → Bytes) (kinds : List CorpusKind) (folder : Folder)

/-- The text of directives is found unless its file has been packed. -/
theorem text?_packFiles (hpack : ∀ data, Gzip.decompress? (pack data) = some data)
    (text : Option String) :
    text? (packFiles pack kinds folder) .probes = .ok text ↔
      text? folder .probes = .ok text ∧
        ¬ (.probes ∈ kinds ∧ (folder.get? CorpusKind.probes.file).isSome) := by
  unfold text?
  rw [bytes?_packFiles]
  cases hdata : folder.get? CorpusKind.probes.file with
  | none => simp
  | some data =>
      rw [bytes?_of_file hdata]
      dsimp only
      by_cases hkind : CorpusKind.probes ∈ kinds
      · have hnone := decode?_of_isGzip (Gzip.isGzip_of_decompress? (hpack data))
        rw [if_pos hkind]
        dsimp only
        rw [hnone]
        simp [hkind]
      · rw [if_neg hkind]
        simp [hkind]

end

/-! ## Folders -/

/-- The file of some fingers is to be packed and does not look like JSON. -/
def MisreadFile (kinds : List CorpusKind) (folder : Folder) : Prop :=
  ∃ kind, (kind = .fingersHttp ∨ kind = .fingersSocket) ∧ kind ∈ kinds ∧
    ∃ data, folder.get? kind.file = some data ∧ ¬ Corpus.LooksJson data

/-- What is read from a folder. -/
theorem ofFolder_eq_ok_iff (folder : Folder) (c : Corpora) :
    ofFolder folder = .ok c ↔ ∃ probes, text? folder .probes = .ok probes ∧
      c = { aliases := bytes? folder .aliases
            fingersHttp := bytes? folder .fingersHttp
            fingersSocket := bytes? folder .fingersSocket
            fingerprintHub := bytes? folder .fingerprintHub
            eHole := bytes? folder .eHole
            goby := bytes? folder .goby
            wappalyzer := bytes? folder .wappalyzer
            probeRecords := bytes? folder .probeRecords
            probes
            services := bytes? folder .services } := by
  rw [ofFolder, Results.bind_eq_ok_iff]
  constructor
  · rintro ⟨probes, hprobes, hc⟩
    exact ⟨probes, hprobes, (Except.ok.inj hc).symm⟩
  · rintro ⟨probes, hprobes, rfl⟩
    exact ⟨probes, hprobes, rfl⟩

section

variable {pack : Bytes → Bytes} (hpack : ∀ data, Gzip.decompress? (pack data) = some data)
  {folder : Folder}
  (hplain : ∀ kind data, folder.get? (CorpusKind.file kind) = some data → Gzip.isGzip data = false)
  (kinds : List CorpusKind)

include hpack hplain

/-- A corpus whose file may have been packed is repacked. -/
theorem isRepacked_bytes? (kind : CorpusKind) :
    IsRepacked (bytes? folder kind) (bytes? (packFiles pack kinds folder) kind) := by
  rw [bytes?_packFiles]
  cases hdata : folder.get? kind.file with
  | none => exact .inl rfl
  | some data =>
      dsimp only
      rw [bytes?_of_file hdata]
      split
      · exact .inr ⟨data, pack data, rfl, rfl, hpack data, hplain kind data hdata⟩
      · exact .inl rfl

/-- A corpus is misread when its file is packed and does not look like JSON. -/
theorem misread_bytes?_iff (kind : CorpusKind) :
    Misread (bytes? folder kind) (bytes? (packFiles pack kinds folder) kind) ↔
      kind ∈ kinds ∧ ∃ data, folder.get? kind.file = some data ∧ ¬ Corpus.LooksJson data := by
  -- What stays as it is has not been packed.
  have hsame : ∀ x, ¬ Misread x x := by
    rintro x ⟨d, z, hd, hz, hpacked, -⟩
    obtain rfl : d = z := Option.some.inj (hd.symm.trans hz)
    have hgzip := Gzip.isGzip_of_decompress? hpacked.opens
    rw [hpacked.plain] at hgzip
    cases hgzip
  rw [bytes?_packFiles]
  cases hdata : folder.get? kind.file with
  | none =>
      dsimp only
      constructor
      · intro h
        exact absurd h (hsame _)
      · rintro ⟨-, data, h, -⟩
        cases h
  | some data =>
      dsimp only
      rw [bytes?_of_file hdata]
      by_cases hkind : kind ∈ kinds
      · rw [if_pos hkind]
        constructor
        · rintro ⟨d, z, hd, -, -, hjson⟩
          exact ⟨hkind, d, hd, hjson⟩
        · rintro ⟨-, d, hd, hjson⟩
          cases hd
          exact ⟨data, pack data, rfl, rfl, ⟨hpack data, hplain kind data hdata⟩, hjson⟩
      · rw [if_neg hkind]
        constructor
        · intro h
          exact absurd h (hsame _)
        · rintro ⟨h, -⟩
          exact absurd h hkind

/-- The corpora of a folder whose files have been packed are those of the folder, repacked. -/
theorem repacked_of_ofFolder {c c' : Corpora} (hc : ofFolder folder = .ok c)
    (hc' : ofFolder (packFiles pack kinds folder) = .ok c') : c.Repacked c' := by
  obtain ⟨probes, hprobes, rfl⟩ := (ofFolder_eq_ok_iff _ _).mp hc
  obtain ⟨probes', hprobes', rfl⟩ := (ofFolder_eq_ok_iff _ _).mp hc'
  have hfield := isRepacked_bytes? hpack hplain kinds
  have htext := ((text?_packFiles pack kinds folder hpack probes').mp hprobes').1
  exact {
    aliases := hfield .aliases
    fingersHttp := hfield .fingersHttp
    fingersSocket := hfield .fingersSocket
    fingerprintHub := hfield .fingerprintHub
    eHole := hfield .eHole
    goby := hfield .goby
    wappalyzer := hfield .wappalyzer
    probeRecords := hfield .probeRecords
    probes := Except.ok.inj (htext.symm.trans hprobes)
    services := hfield .services }

/-- The corpora of fingers of such a folder are misread when the file of one of them is. -/
theorem misreadFingers_of_ofFolder {c c' : Corpora} (hc : ofFolder folder = .ok c)
    (hc' : ofFolder (packFiles pack kinds folder) = .ok c') :
    c.MisreadFingers c' ↔ MisreadFile kinds folder := by
  obtain ⟨probes, -, rfl⟩ := (ofFolder_eq_ok_iff _ _).mp hc
  obtain ⟨probes', -, rfl⟩ := (ofFolder_eq_ok_iff _ _).mp hc'
  rw [MisreadFingers, misread_bytes?_iff hpack hplain, misread_bytes?_iff hpack hplain]
  constructor
  · rintro (h | h)
    · exact ⟨.fingersHttp, .inl rfl, h⟩
    · exact ⟨.fingersSocket, .inr rfl, h⟩
  · rintro ⟨kind, rfl | rfl, h⟩
    · exact .inl h
    · exact .inr h

end

/-- Packing some plain files of a folder keeps its corpora readable, unless the text of directives
is among them.  The same corpora are there, and they give the same detectors for the same options;
but none when the fingers are wanted and one of their corpora has been packed that does not look
like JSON. -/
theorem packed_folder (pack : Bytes → Bytes)
    (hpack : ∀ data, Gzip.decompress? (pack data) = some data) (folder : Folder)
    (hplain : ∀ kind data, folder.get? (CorpusKind.file kind) = some data →
      Gzip.isGzip data = false) (kinds : List CorpusKind) :
    ((∃ c', ofFolder (packFiles pack kinds folder) = .ok c') ↔
      (∃ c, ofFolder folder = .ok c) ∧
        ¬ (.probes ∈ kinds ∧ (folder.get? CorpusKind.probes.file).isSome)) ∧
    ∀ c c', ofFolder folder = .ok c → ofFolder (packFiles pack kinds folder) = .ok c' →
      (∀ kind, c'.has kind = c.has kind) ∧
      ∀ (o : EngineOptions) (d : Detector),
        Detector.new { o with corpora := c' } = .ok d ↔
          Detector.new { o with corpora := c } = .ok d ∧
            ¬ (EngineName.fingers.name ∈ o.names ∧ MisreadFile kinds folder) := by
  refine ⟨⟨?_, ?_⟩, fun c c' hc hc' => ?_⟩
  · rintro ⟨c', hc'⟩
    obtain ⟨probes, hprobes, -⟩ := (ofFolder_eq_ok_iff _ _).mp hc'
    obtain ⟨htext, hkept⟩ := (text?_packFiles pack kinds folder hpack probes).mp hprobes
    exact ⟨⟨_, (ofFolder_eq_ok_iff _ _).mpr ⟨probes, htext, rfl⟩⟩, hkept⟩
  · rintro ⟨⟨c, hc⟩, hkept⟩
    obtain ⟨probes, hprobes, -⟩ := (ofFolder_eq_ok_iff _ _).mp hc
    have htext := (text?_packFiles pack kinds folder hpack probes).mpr ⟨hprobes, hkept⟩
    exact ⟨_, (ofFolder_eq_ok_iff _ _).mpr ⟨probes, htext, rfl⟩⟩
  · have hrepacked := repacked_of_ofFolder hpack hplain kinds hc hc'
    refine ⟨hrepacked.has_eq, fun o d => ?_⟩
    rw [← misreadFingers_of_ofFolder hpack hplain kinds hc hc']
    exact Detector.new_of_repacked { o with corpora := c } hrepacked d

/-- A folder with a text of directives alone. -/
def directivesOnly : Folder :=
  Dictionary.empty.insert CorpusKind.probes.file (Utf8.encode "Probe TCP NULL q||\n")

/-- The text of the folder can be read, but not when it has been packed. -/
theorem packed_folder_of_directives :
    (∃ c, ofFolder directivesOnly = .ok c) ∧
      ¬ ∃ c', ofFolder (packFiles Gzip.compress [.probes] directivesOnly) = .ok c' := by
  have hfile : directivesOnly.get? CorpusKind.probes.file =
      some (Utf8.encode "Probe TCP NULL q||\n") := by decide +kernel
  have hplain : ∀ kind data, directivesOnly.get? (CorpusKind.file kind) = some data →
      Gzip.isGzip data = false := by
    intro kind data hdata
    rw [directivesOnly, Dictionary.get?_insert] at hdata
    split at hdata
    · cases hdata
      decide +kernel
    · cases hdata
  have hread : (ofFolder directivesOnly).isOk = true := by decide +kernel
  constructor
  · cases hc : ofFolder directivesOnly with
    | ok c => exact ⟨c, rfl⟩
    | error e =>
        rw [hc] at hread
        cases hread
  · intro hpacked
    have h := packed_folder Gzip.compress Gzip.decompress?_compress directivesOnly hplain [.probes]
    refine (h.1.mp hpacked).2 ⟨List.mem_cons_self, ?_⟩
    rw [hfile]
    rfl

end Corpora

end Fingerprinting
