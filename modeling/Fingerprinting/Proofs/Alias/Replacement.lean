/-
# Spellings of aliases that have been replaced

An alias that is filed in the place of another one brings its own spellings, but takes none away:
the spellings of the alias before it stay claimed for the name.  So the record that is found for a
spelling need not list it.

* `claimant?_eq_some_iff` says which alias of a history claimed a spelling last;
* `answersTo_iff` says for which name a spelling stands;
* `spells_iff_of_record` says whether a record lists the spelling that it was claimed by.

Main statement: `record_spells_iff`.
-/
import Fingerprinting.Proofs.Alias.History

namespace Fingerprinting

/-- The record that a look-up has found. -/
def AliasMatch.record : AliasMatch → Alias
  | .found a => a
  | .blocked a => a

namespace Aliases

/-- A spelling of an engine stands for the alias of a name. -/
def AnswersTo (t : Aliases) (name engine spelling : String) : Prop :=
  ∃ m, t.find? engine spelling = some m ∧ m.record.name = name

/-! ## The last claim -/

/-- The last alias that lists a spelling has none after it that does. -/
theorem claimant?_eq_some_iff (history : List Alias) (engine key : String) (a : Alias) :
    claimant? history engine key = some a ↔
      a.Spells engine key ∧ ∃ before after, history = before ++ a :: after ∧
        ∀ b ∈ after, ¬ b.Spells engine key := by
  rw [claimant?, List.getLast?_eq_head?_reverse, ← List.filter_reverse, List.head?_filter,
    List.find?_eq_some_iff_append, decide_eq_true_iff]
  apply and_congr_right
  intro _
  constructor
  · rintro ⟨after, before, hreverse, hafter⟩
    refine ⟨before.reverse, after.reverse, ?_, ?_⟩
    · rw [← List.reverse_reverse history, hreverse, List.reverse_append, List.reverse_cons,
        List.append_assoc, List.singleton_append]
    · intro b hb
      simpa using hafter b (List.mem_reverse.mp hb)
  · rintro ⟨before, after, rfl, hafter⟩
    refine ⟨after.reverse, before.reverse, by simp, ?_⟩
    intro b hb
    simpa using hafter b (List.mem_reverse.mp hb)

/-- A look-up finds the record of the name that the spelling is claimed for. -/
theorem of_find? {t : Aliases} {engine spelling : String} {m : AliasMatch}
    (h : t.find? engine spelling = some m) :
    ∃ name, claimed? t.claims engine (Corpus.normalName spelling) = some name ∧
      t.records.get? name = some m.record := by
  rw [find?_eq] at h
  obtain ⟨r, hr, rfl⟩ := Option.map_eq_some_iff.mp h
  obtain ⟨name, hname, hrecord⟩ := Option.bind_eq_some_iff.mp hr
  refine ⟨name, hname, ?_⟩
  rw [hrecord]
  split <;> rfl

/-! ## Records -/

/-- A record stands under its own name. -/
theorem name_of_record {history : List Alias} {name : String} {r : Alias}
    (h : (empty.extend history).records.get? name = some r) : r.name = name := by
  obtain ⟨latest, hlatest, hr, -⟩ := latest_of_record h
  have hversion := List.mem_filter.mp (List.mem_of_getLast? hlatest)
  rw [hr]
  exact beq_iff_eq.mp hversion.2

/-- A spelling stands for the name that it is claimed for. -/
theorem answersTo_iff (history : List Alias) (name engine spelling : String) :
    (empty.extend history).AnswersTo name engine spelling ↔
      claimed? (empty.extend history).claims engine (Corpus.normalName spelling) = some name := by
  constructor
  · rintro ⟨m, hfind, rfl⟩
    obtain ⟨name, hname, hrecord⟩ := of_find? hfind
    rw [name_of_record hrecord]
    exact hname
  · intro hname
    obtain ⟨r, hr⟩ := exists_record_of_claimed? hname
    have hfind : (empty.extend history).find? engine spelling =
        some (if r.blocks engine then .blocked r else .found r) := by
      rw [find?_eq, hname, Option.bind_some, hr, Option.map_some]
    refine ⟨_, hfind, ?_⟩
    rw [← name_of_record hr]
    split <;> rfl

/-- The record of a name lists a spelling that was last claimed for it, unless the alias that
claimed it has been replaced since. -/
theorem spells_iff_of_record {before after : List Alias} {claimant r : Alias} {engine key : String}
    (hspells : claimant.Spells engine key) (hafter : ∀ a ∈ after, ¬ a.Spells engine key)
    (h : (empty.extend (before ++ claimant :: after)).records.get? (Text.lower claimant.name) =
      some r) :
    r.Spells engine key ↔ ∀ a ∈ after, Text.lower a.name ≠ Text.lower claimant.name := by
  obtain ⟨latest, hlatest, hr, -⟩ := latest_of_record h
  have hsame : r.Spells engine key ↔ latest.Spells engine key := by
    rw [hr]
    exact Iff.rfl
  have hversions : versions (before ++ claimant :: after) (Text.lower claimant.name) =
      versions before (Text.lower claimant.name) ++
        claimant :: versions after (Text.lower claimant.name) := by
    simp [versions]
  rw [hversions, List.getLast?_append, List.getLast?_cons, Option.some_or, Option.some.injEq]
    at hlatest
  rw [hsame, ← hlatest]
  cases hlast : (versions after (Text.lower claimant.name)).getLast? with
  | none =>
      -- The claimant is the last alias of its name.
      have hnone : versions after (Text.lower claimant.name) = [] :=
        List.getLast?_eq_none_iff.mp hlast
      have hothers : ∀ a ∈ after, Text.lower a.name ≠ Text.lower claimant.name := by
        intro a ha hname
        have hkept : a ∈ versions after (Text.lower claimant.name) :=
          List.mem_filter.mpr ⟨ha, beq_iff_eq.mpr hname⟩
        rw [hnone] at hkept
        cases hkept
      exact iff_of_true hspells hothers
  | some a =>
      have hkept := List.mem_filter.mp (List.mem_of_getLast? hlast)
      apply iff_of_false
      · exact hafter a hkept.1
      · intro hothers
        exact hothers a hkept.1 (beq_iff_eq.mp hkept.2)

/-! ## Look-ups -/

/-- What is found for a spelling is the record of the last alias that listed it, or of one that has
replaced that alias since, and only in the first case does the record list the spelling itself: an
alias that replaces another one answers to the spellings of both. -/
theorem record_spells_iff (history : List Alias) :
    (∀ engine spelling m, (empty.extend history).find? engine spelling = some m →
      ∃ before claimant after, history = before ++ claimant :: after ∧
        claimant.Spells engine (Corpus.normalName spelling) ∧
        (∀ a ∈ after, ¬ a.Spells engine (Corpus.normalName spelling)) ∧
        m.record.name = Text.lower claimant.name ∧
        (empty.extend history).get? claimant.name = some m.record ∧
        (m.record.Spells engine (Corpus.normalName spelling) ↔
          ∀ a ∈ after, Text.lower a.name ≠ Text.lower claimant.name)) ∧
    ∀ a engine spelling,
      ((empty.extend history).append a).AnswersTo (Text.lower a.name) engine spelling ↔
        a.Spells engine (Corpus.normalName spelling) ∨
          (empty.extend history).AnswersTo (Text.lower a.name) engine spelling := by
  constructor
  · intro engine spelling m hfind
    obtain ⟨name, hname, hrecord⟩ := of_find? hfind
    rw [claimed?_extend] at hname
    obtain ⟨claimant, hclaimant, rfl⟩ := Option.map_eq_some_iff.mp hname
    obtain ⟨hspells, before, after, rfl, hafter⟩ :=
      (claimant?_eq_some_iff history engine _ claimant).mp hclaimant
    exact ⟨before, claimant, after, rfl, hspells, hafter, name_of_record hrecord, hrecord,
      spells_iff_of_record hspells hafter hrecord⟩
  · intro a engine spelling
    rw [← extend_concat, answersTo_iff, answersTo_iff, claimed?_extend, claimed?_extend,
      claimant?_concat]
    by_cases ha : a.Spells engine (Corpus.normalName spelling)
    · simp [ha]
    · simp [ha]

/-- A product that is filed again, with another spelling of an engine. -/
def respelled : List Alias := [
  { name := "Nginx", spellings := .ofList [("fingers", ["nginx-http"])] },
  { name := "NGINX", spellings := .ofList [("fingers", ["nginx"])] }]

/-- The first spelling still stands for the product, whose record does not list it. -/
theorem record_spells_iff_of_respelled : ∃ m,
    (empty.extend respelled).find? "fingers" "nginx_http" = some m ∧ m.record.name = "nginx" ∧
      ¬ m.record.Spells "fingers" (Corpus.normalName "nginx_http") ∧
      ∃ before claimant after, respelled = before ++ claimant :: after ∧
        claimant.Spells "fingers" (Corpus.normalName "nginx_http") ∧
        ∃ a ∈ after, Text.lower a.name = Text.lower claimant.name := by
  have hkey : Corpus.normalName "nginx_http" = "nginxhttp" := by decide +kernel
  have hlast : (claimant? respelled "fingers" "nginxhttp").map (fun a => Text.lower a.name) =
      some "nginx" := by
    decide +kernel
  have hsecond : ∀ a ∈ respelled.tail, ¬ a.Spells "fingers" "nginxhttp" := by decide +kernel
  have hnames : ∀ a ∈ respelled, Text.lower a.name = "nginx" := by decide +kernel
  have hanswers : (empty.extend respelled).AnswersTo "nginx" "fingers" "nginx_http" := by
    rw [answersTo_iff, claimed?_extend, hkey]
    exact hlast
  obtain ⟨m, hfind, hname⟩ := hanswers
  obtain ⟨before, claimant, after, hhistory, hspells, -, -, -, hiff⟩ :=
    (record_spells_iff respelled).1 _ _ _ hfind
  -- The second alias does not list the spelling, so the first one claimed it.
  have hreplaced : ∃ a ∈ after, Text.lower a.name = Text.lower claimant.name := by
    cases before with
    | nil =>
        obtain ⟨hclaimant, hafter⟩ := List.cons.inj hhistory
        have hlater := hnames _ (List.mem_cons_of_mem _ List.mem_cons_self)
        refine ⟨_, hafter ▸ List.mem_cons_self, ?_⟩
        rw [hlater, ← hclaimant]
        exact (hnames _ List.mem_cons_self).symm
    | cons a rest =>
        have htail : claimant ∈ respelled.tail := by
          rw [hhistory]
          exact List.mem_append_right _ List.mem_cons_self
        rw [hkey] at hspells
        exact absurd hspells (hsecond claimant htail)
  refine ⟨m, hfind, hname, ?_, before, claimant, after, hhistory, hspells, hreplaced⟩
  rw [hiff]
  push Not
  exact hreplaced

end Aliases

end Fingerprinting
