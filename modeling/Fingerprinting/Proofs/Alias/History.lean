/-
# The history of a table of aliases

A table of aliases comes about by filing one alias after the other.  Every alias claims the
spellings that it lists, also from aliases that claimed them before, and replaces the alias of the
same name, whose spellings stay claimed.  What the table answers therefore depends on all aliases
that have been filed, its history:

* a spelling belongs to the name of the last alias that listed it (`claimed?_extend`);
* under a name stands the last alias of that name, with the demonstrations of all of them
  (`filed_extend`).

Main statement: `find?_extend` says what is found for a spelling after any history.
-/
import Mathlib.Data.List.Induction
import Fingerprinting.Alias
import Fingerprinting.Proofs.Dictionary
import Fingerprinting.Proofs.Results

namespace Fingerprinting

/-- An alias lists a spelling in normal form among those of an engine. -/
def Alias.Spells (a : Alias) (engine key : String) : Prop :=
  ∃ entry ∈ a.spellings.entries, entry.1 = engine ∧ ∃ s ∈ entry.2, Corpus.normalName s = key

instance (a : Alias) (engine key : String) : Decidable (a.Spells engine key) :=
  inferInstanceAs (Decidable (∃ entry ∈ a.spellings.entries, _))

namespace Aliases

/-! ## Claims -/

/-- The name that a spelling in normal form is claimed for. -/
def claimed? (claims : Dictionary (Dictionary String)) (engine key : String) : Option String :=
  (claims.get? engine).bind fun names => names.get? key

/-- A claim changes whom its own spelling belongs to. -/
theorem claimed?_claim (claims : Dictionary (Dictionary String))
    (engine spelling name other key : String) :
    claimed? (claim claims engine spelling name) other key =
      if engine = other ∧ Corpus.normalName spelling = key then some name
      else claimed? claims other key := by
  unfold claimed? claim Dictionary.alter
  rw [Dictionary.get?_insert]
  by_cases hengine : engine = other
  · subst hengine
    rw [if_pos rfl, Option.bind_some, Dictionary.get?_insert]
    cases claims.get? engine with
    | none => simp
    | some names => simp
  · simp [hengine]

/-- Some spellings of one engine. -/
theorem claimed?_spellings (claims : Dictionary (Dictionary String)) (engine name : String)
    (spellings : List String) (other key : String) :
    claimed? (spellings.foldl (fun claims s => claim claims engine s name) claims) other key =
      if engine = other ∧ ∃ s ∈ spellings, Corpus.normalName s = key then some name
      else claimed? claims other key := by
  induction spellings generalizing claims with
  | nil => simp
  | cons s rest ih =>
      rw [List.foldl_cons, ih, claimed?_claim]
      by_cases hengine : engine = other
      · by_cases hrest : ∃ s ∈ rest, Corpus.normalName s = key
        · simp only [hengine, hrest, List.exists_mem_cons_iff, or_true, and_self, if_true]
        · simp only [hengine, hrest, List.exists_mem_cons_iff, or_false, and_false, if_false]
      · simp only [hengine, false_and, if_false]

/-- An alias claims what it lists, and nothing else. -/
theorem claimed?_claimAll (claims : Dictionary (Dictionary String)) (a : Alias)
    (engine key : String) :
    claimed? (claimAll claims a) engine key =
      if a.Spells engine key then some a.name else claimed? claims engine key := by
  have hentries : ∀ entries : List (String × List String), ∀ claims,
      claimed? (entries.foldl (fun claims entry =>
        entry.2.foldl (fun claims spelling => claim claims entry.1 spelling a.name) claims) claims)
          engine key =
        if ∃ entry ∈ entries, entry.1 = engine ∧ ∃ s ∈ entry.2, Corpus.normalName s = key then
          some a.name
        else claimed? claims engine key := by
    intro entries
    induction entries with
    | nil => simp
    | cons entry rest ih =>
        intro claims
        rw [List.foldl_cons, ih, claimed?_spellings]
        by_cases hrest : ∃ entry ∈ rest, entry.1 = engine ∧ ∃ s ∈ entry.2,
            Corpus.normalName s = key
        · simp only [hrest, List.exists_mem_cons_iff, or_true, if_true]
        · simp only [hrest, List.exists_mem_cons_iff, or_false, if_false]
  exact hentries a.spellings.entries claims

/-- The last alias of a history that lists a spelling. -/
def claimant? (history : List Alias) (engine key : String) : Option Alias :=
  (history.filter fun a => a.Spells engine key).getLast?

theorem claimant?_concat (history : List Alias) (a : Alias) (engine key : String) :
    claimant? (history ++ [a]) engine key =
      if a.Spells engine key then some a else claimant? history engine key := by
  unfold claimant?
  rw [List.filter_append]
  by_cases ha : a.Spells engine key
  · simp [ha]
  · simp [ha]

theorem claimant?_eq_none_iff (history : List Alias) (engine key : String) :
    claimant? history engine key = none ↔ ∀ a ∈ history, ¬ a.Spells engine key := by
  simp [claimant?]

theorem mem_of_claimant? {history : List Alias} {engine key : String} {a : Alias}
    (h : claimant? history engine key = some a) : a ∈ history :=
  (List.mem_filter.mp (List.mem_of_getLast? h)).1

theorem extend_concat (t : Aliases) (history : List Alias) (a : Alias) :
    t.extend (history ++ [a]) = (t.extend history).append a := by
  rw [extend, List.foldl_append]
  rfl

/-- A spelling belongs to the name of the last alias that listed it. -/
theorem claimed?_extend (history : List Alias) (engine key : String) :
    claimed? (empty.extend history).claims engine key =
      (claimant? history engine key).map fun a => Text.lower a.name := by
  induction history using List.reverseRecOn with
  | nil => rfl
  | append_singleton history a ih =>
      have hspells : ∀ old, (succeed old a.filed).Spells engine key ↔ a.Spells engine key := by
        intro old
        cases old <;> rfl
      have hname : ∀ old, (succeed old a.filed).name = Text.lower a.name := by
        intro old
        cases old <;> rfl
      rw [extend_concat, claimant?_concat]
      show claimed? (claimAll (empty.extend history).claims (succeed _ a.filed)) engine key = _
      rw [claimed?_claimAll, hname, if_congr (hspells _) rfl rfl, ih]
      split <;> rfl

/-! ## Records -/

/-- The aliases of a history that are filed under a name. -/
def versions (history : List Alias) (name : String) : List Alias :=
  history.filter fun a => Text.lower a.name == name

theorem versions_concat (history : List Alias) (a : Alias) (name : String) :
    versions (history ++ [a]) name =
      if Text.lower a.name = name then versions history name ++ [a] else versions history name := by
  unfold versions
  rw [List.filter_append]
  by_cases ha : Text.lower a.name = name
  · simp [ha]
  · simp [ha]

/-- What stands under a name after some aliases of that name: the last of them, with the
demonstrations of all. -/
inductive Filed : List Alias → Option Alias → Prop where
  | nothing : Filed [] none
  | record (earlier : List Alias) (latest r : Alias)
      (hr : r = { latest.filed with pocs := r.pocs })
      (hpocs : ∀ poc, poc ∈ r.pocs ↔ ∃ a ∈ earlier ++ [latest], poc ∈ a.pocs) :
      Filed (earlier ++ [latest]) (some r)

/-- The demonstrations of an alias that replaces another one. -/
theorem mem_pocs_succeed (old : Option Alias) (a : Alias) (poc : String) :
    poc ∈ (succeed old a).pocs ↔ (∃ o, old = some o ∧ poc ∈ o.pocs) ∨ poc ∈ a.pocs := by
  cases old with
  | none => simp [succeed]
  | some o =>
      have hfold : ∀ new known : List String,
          poc ∈ new.foldl (fun ps p => if ps.contains p then ps else ps ++ [p]) known ↔
            poc ∈ known ∨ poc ∈ new := by
        intro new
        induction new with
        | nil => simp
        | cons p rest ih =>
            intro known
            rw [List.foldl_cons, ih, List.mem_cons, ← or_assoc]
            refine or_congr_left ?_
            by_cases hp : p ∈ known
            · -- A demonstration that is known is not added, and adding it would change nothing.
              rw [if_pos (List.contains_iff_mem.mpr hp), or_iff_left_of_imp]
              rintro rfl
              exact hp
            · rw [if_neg (by simpa using hp), List.mem_append, List.mem_singleton]
      have hnew := hfold a.pocs o.pocs
      simpa only [succeed, Option.some.injEq, exists_eq_left'] using hnew

/-- One more alias of the name. -/
theorem Filed.succeed {vs : List Alias} {old : Option Alias} (h : Filed vs old) (a : Alias) :
    Filed (vs ++ [a]) (some (succeed old a.filed)) := by
  refine .record vs a _ ?_ fun poc => ?_
  · cases old <;> rfl
  · rw [mem_pocs_succeed]
    have hold : (∃ o, old = some o ∧ poc ∈ o.pocs) ↔ ∃ b ∈ vs, poc ∈ b.pocs := by
      cases h with
      | nothing => simp
      | record earlier latest r hr hpocs => simp [hpocs]
    have hnew : poc ∈ a.filed.pocs ↔ poc ∈ a.pocs := Iff.rfl
    rw [hold, hnew]
    constructor
    · rintro (⟨b, hb, hpoc⟩ | hpoc)
      · exact ⟨b, List.mem_append_left _ hb, hpoc⟩
      · exact ⟨a, List.mem_append_right _ List.mem_cons_self, hpoc⟩
    · rintro ⟨b, hb, hpoc⟩
      rcases List.mem_append.mp hb with hb | hb
      · exact .inl ⟨b, hb, hpoc⟩
      · rw [List.mem_singleton.mp hb] at hpoc
        exact .inr hpoc

/-- Under a name stands what the aliases of that name make up, in their order. -/
theorem filed_extend (history : List Alias) (name : String) :
    Filed (versions history name) ((empty.extend history).records.get? name) := by
  induction history using List.reverseRecOn with
  | nil => exact .nothing
  | append_singleton history a ih =>
      have hname : ∀ old, (Aliases.succeed old a.filed).name = Text.lower a.name := by
        intro old
        cases old <;> rfl
      rw [extend_concat, versions_concat]
      show Filed _ (((empty.extend history).records.insert (Aliases.succeed _ a.filed).name
        (Aliases.succeed _ a.filed)).get? name)
      rw [Dictionary.get?_insert, hname]
      by_cases ha : Text.lower a.name = name
      · rw [if_pos ha, if_pos ha]
        subst ha
        exact ih.succeed a
      · rw [if_neg ha, if_neg ha]
        exact ih

/-- A name has a record when an alias of the history is filed under it. -/
theorem isSome_record_iff (history : List Alias) (name : String) :
    ((empty.extend history).records.get? name).isSome = true ↔
      name ∈ history.map fun a => Text.lower a.name := by
  have hmem : name ∈ history.map (fun a => Text.lower a.name) ↔ versions history name ≠ [] := by
    simp [versions, List.filter_eq_nil_iff]
  rw [hmem]
  have hfiled := filed_extend history name
  generalize (empty.extend history).records.get? name = found at hfiled ⊢
  generalize versions history name = vs at hfiled ⊢
  cases hfiled with
  | nothing => simp
  | record earlier latest r hr hpocs => simp

theorem isSorted_extend (history : List Alias) : (empty.extend history).records.IsSorted := by
  induction history using List.reverseRecOn with
  | nil => exact Dictionary.isSorted_empty
  | append_singleton history a ih =>
      rw [extend_concat]
      exact ih.insert _ _

/-! ## Look-ups -/

/-- A spelling is looked up in two steps, the name that it is claimed for and the record there. -/
theorem find?_eq (t : Aliases) (engine name : String) :
    t.find? engine name =
      ((claimed? t.claims engine (Corpus.normalName name)).bind t.records.get?).map fun a =>
        if a.blocks engine then .blocked a else .found a := by
  unfold find? claimed?
  cases t.claims.get? engine with
  | none => rfl
  | some names =>
      show ((names.get? (Corpus.normalName name)).bind fun n =>
        (t.records.get? n).bind fun a => _) = _
      rw [Option.bind_some]
      cases names.get? (Corpus.normalName name) with
      | none => rfl
      | some n =>
          rw [Option.bind_some, Option.bind_some]
          cases t.records.get? n <;> rfl

/-- The name that a spelling is claimed for has a record. -/
theorem exists_record_of_claimed? {history : List Alias} {engine key name : String}
    (h : claimed? (empty.extend history).claims engine key = some name) :
    ∃ r, (empty.extend history).records.get? name = some r := by
  rw [claimed?_extend] at h
  obtain ⟨a, ha, rfl⟩ := Option.map_eq_some_iff.mp h
  rw [← Option.isSome_iff_exists, isSome_record_iff]
  exact List.mem_map_of_mem (mem_of_claimant? ha)

/-- What has a record is the last alias of its name, with the demonstrations of all. -/
theorem latest_of_record {history : List Alias} {name : String} {r : Alias}
    (h : (empty.extend history).records.get? name = some r) :
    ∃ latest, (versions history name).getLast? = some latest ∧
      r = { latest.filed with pocs := r.pocs } ∧
      ∀ poc, poc ∈ r.pocs ↔ ∃ a ∈ versions history name, poc ∈ a.pocs := by
  have hfiled := filed_extend history name
  rw [h] at hfiled
  generalize versions history name = vs at hfiled ⊢
  cases hfiled with
  | record earlier latest _ hr hpocs => exact ⟨latest, List.getLast?_concat, hr, hpocs⟩

/-- Every table that is loaded is the table of a history: the seeds first, then the aliases the
corpus gives, so what holds of histories holds of the table a program starts with. -/
theorem exists_history_of_load {seed : List Alias} {corpus : Option Bytes} {t : Aliases}
    (h : load seed corpus = .ok t) : ∃ more, t = empty.extend (seed ++ more) := by
  have hextend : ∀ more, empty.extend (seed ++ more) = (empty.extend seed).extend more :=
    fun more => List.foldl_append
  cases corpus with
  | none =>
      refine ⟨[], ?_⟩
      rw [hextend]
      exact (Except.ok.inj h).symm
  | some data =>
      obtain ⟨more, -, hmore⟩ := (Results.bind_eq_ok_iff _ _ _).mp h
      refine ⟨more, ?_⟩
      rw [hextend]
      exact (Except.ok.inj hmore).symm

/-- After any history, a spelling of an engine is unknown when no alias ever listed it.  Otherwise
it stands for the name of the last alias that did, in the version that came last under that name,
and is blocked when that version blocks the engine.  Every spelling that is claimed has a record,
there is one record for each name, and none has lost a demonstration. -/
theorem find?_extend (history : List Alias) :
    (∀ engine name, (empty.extend history).find? engine name = none ↔
      ∀ a ∈ history, ¬ a.Spells engine (Corpus.normalName name)) ∧
    (∀ engine name claimant, claimant? history engine (Corpus.normalName name) = some claimant →
      ∃ latest r, (versions history (Text.lower claimant.name)).getLast? = some latest ∧
        r = { latest with name := Text.lower claimant.name, pocs := r.pocs } ∧
        (empty.extend history).get? claimant.name = some r ∧
        (empty.extend history).find? engine name =
          some (if engine ∈ latest.block then .blocked r else .found r)) ∧
    (∀ engine names key name, (empty.extend history).claims.get? engine = some names →
      names.get? key = some name → ∃ r, (empty.extend history).records.get? name = some r) ∧
    (empty.extend history).size = (history.map fun a => Text.lower a.name).eraseDups.length ∧
    ∀ a ∈ history, ∃ r, (empty.extend history).get? a.name = some r ∧
      ∀ poc ∈ a.pocs, poc ∈ r.pocs := by
  refine ⟨fun engine name => ?_, fun engine name claimant hclaimant => ?_,
    fun engine names key name hnames hname => ?_, ?_, fun a ha => ?_⟩
  · rw [← claimant?_eq_none_iff, find?_eq, Option.map_eq_none_iff]
    cases hclaimant : claimant? history engine (Corpus.normalName name) with
    | none => simp [claimed?_extend, hclaimant]
    | some a =>
        have hclaimed : claimed? (empty.extend history).claims engine (Corpus.normalName name) =
            some (Text.lower a.name) := by
          rw [claimed?_extend, hclaimant, Option.map_some]
        obtain ⟨r, hr⟩ := exists_record_of_claimed? hclaimed
        simp [hclaimed, hr]
  · have hclaimed : claimed? (empty.extend history).claims engine (Corpus.normalName name) =
        some (Text.lower claimant.name) := by
      rw [claimed?_extend, hclaimant, Option.map_some]
    obtain ⟨r, hr⟩ := exists_record_of_claimed? hclaimed
    obtain ⟨latest, hlatest, heq, -⟩ := latest_of_record hr
    have hversion : latest ∈ versions history (Text.lower claimant.name) :=
      List.mem_of_getLast? hlatest
    have hname : Text.lower latest.name = Text.lower claimant.name :=
      beq_iff_eq.mp (List.mem_filter.mp hversion).2
    have hblocks : r.blocks engine = true ↔ engine ∈ latest.block := by
      rw [heq]
      exact List.contains_iff_mem
    refine ⟨latest, r, hlatest, ?_, hr, ?_⟩
    · rw [← hname]
      exact heq
    · rw [find?_eq, hclaimed, Option.bind_some, hr, Option.map_some, if_congr hblocks rfl rfl]
  · have hclaimed : claimed? (empty.extend history).claims engine key = some name := by
      rw [claimed?, hnames, Option.bind_some, hname]
    exact exists_record_of_claimed? hclaimed
  · exact (isSorted_extend history).size_eq _ (isSome_record_iff history)
  · have hmem : Text.lower a.name ∈ history.map fun a => Text.lower a.name :=
      List.mem_map_of_mem ha
    obtain ⟨r, hr⟩ := Option.isSome_iff_exists.mp ((isSome_record_iff history _).mpr hmem)
    obtain ⟨-, -, -, hpocs⟩ := latest_of_record hr
    refine ⟨r, hr, fun poc hpoc => (hpocs poc).mpr ⟨a, ?_, hpoc⟩⟩
    exact List.mem_filter.mpr ⟨ha, beq_self_eq_true _⟩

/-- A product under a name that is filed twice, and another one that claims a spelling of it in
between. -/
def contested : List Alias := [
  { name := "Tomcat", spellings := .ofList [("goby", ["Apache-Tomcat"])], pocs := ["old"] },
  { name := "Server", spellings := .ofList [("goby", ["apache tomcat", "Apache"])] },
  { name := "TOMCAT", spellings := .ofList [("goby", ["Apache_Tomcat"])], block := ["goby"],
    pocs := ["new"] }]

/-- The spelling has come back to the first product, which blocks the engine by now. -/
theorem find?_extend_of_contested : ∃ r,
    (empty.extend contested).find? "goby" "Apache Tomcat" = some (.blocked r) ∧
      r.name = "tomcat" ∧ "old" ∈ r.pocs ∧ (empty.extend contested).size = 2 := by
  have hkey : Corpus.normalName "Apache Tomcat" = "apachetomcat" := by decide +kernel
  have hlast : (claimant? contested "goby" "apachetomcat").map Alias.name = some "TOMCAT" := by
    decide +kernel
  have hblock : (versions contested "tomcat").getLast?.map Alias.block = some ["goby"] := by
    decide +kernel
  have hlower : Text.lower "TOMCAT" = "tomcat" ∧ Text.lower "Tomcat" = "tomcat" := by
    decide +kernel
  have hnames : (contested.map fun a => Text.lower a.name) = ["tomcat", "server", "tomcat"] := by
    decide +kernel
  rw [← hkey] at hlast
  obtain ⟨claimant, hclaimant, hname⟩ := Option.map_eq_some_iff.mp hlast
  obtain ⟨-, hfound, -, hsize, hpocs⟩ := find?_extend contested
  obtain ⟨latest, r, hlatest, hr, hget, hfind⟩ := hfound _ _ _ hclaimant
  rw [hname, hlower.1] at hlatest hr
  rw [hlatest, Option.map_some, Option.some.injEq] at hblock
  rw [hblock, if_pos List.mem_cons_self] at hfind
  refine ⟨r, hfind, ?_, ?_, ?_⟩
  · rw [hr]
  · obtain ⟨first, hfirst, hold⟩ := hpocs _ List.mem_cons_self
    have hsame : (empty.extend contested).get? "Tomcat" = some r := by
      rw [hname] at hget
      rw [get?, hlower.2, ← hlower.1]
      exact hget
    rw [Option.some.inj (hsame.symm.trans hfirst)]
    exact hold _ List.mem_cons_self
  · rw [hsize, hnames]
    decide

end Aliases

end Fingerprinting
