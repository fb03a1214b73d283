/-
# Names in a table of aliases

A table files every alias under its name in lower case, so the names that it gives out are in lower
case.  What is reported for a frame under the table is therefore filed under exactly the name of the
alias, or under its own name in lower case when there is no alias.

* `Aliases.isLowered_load` says that a loaded table gives out such names only;
* `Aliases.key_apply` says under which name a frame is filed.
-/
import Fingerprinting.Alias
import Fingerprinting.Proofs.Frame.Arrivals

namespace Fingerprinting.Aliases

/-! ## Names in lower case -/

/-- Every alias in a table has a name in lower case. -/
def IsLowered (t : Aliases) : Prop :=
  ∀ name a, t.records.get? name = some a → Text.lower a.name = a.name

theorem name_succeed (old : Option Alias) (a : Alias) : (succeed old a).name = a.name := by
  cases old <;> rfl

/-- Filing an alias files it under a name in lower case. -/
theorem IsLowered.append {t : Aliases} (h : t.IsLowered) (a : Alias) : (t.append a).IsLowered := by
  intro name b hb
  -- What is filed replaces the alias of the same name and leaves the others.
  have hb : (t.records.insert (succeed (t.records.get? a.filed.name) a.filed).name
      (succeed (t.records.get? a.filed.name) a.filed)).get? name = some b := hb
  rw [Dictionary.get?_insert] at hb
  split at hb
  · cases hb
    rw [name_succeed]
    exact Text.lower_lower a.name
  · exact h name b hb

theorem IsLowered.extend {t : Aliases} (h : t.IsLowered) (as : List Alias) :
    (t.extend as).IsLowered := by
  induction as generalizing t with
  | nil => exact h
  | cons a rest ih => exact ih (h.append a)

/-- A loaded table gives out names in lower case. -/
theorem isLowered_load (seed : List Alias) (corpus : Option Bytes) (t : Aliases)
    (h : load seed corpus = .ok t) : t.IsLowered := by
  have hempty : empty.IsLowered := by
    intro name a ha
    cases ha
  have hseed := hempty.extend seed
  cases corpus with
  | none =>
      cases h
      exact hseed
  | some data =>
      cases hread : Corpus.ofYaml (Document.listOf? Alias.ofDocument?) data with
      | error e =>
          simp only [load, hread] at h
          cases h
      | ok as =>
          simp only [load, hread] at h
          cases h
          exact hseed.extend as

theorem IsLowered.lower_of_find {t : Aliases} (h : t.IsLowered) {engine spelling : String}
    {a : Alias} (hfind : t.find? engine spelling = some (.found a)) :
    Text.lower a.name = a.name := by
  simp only [find?, Option.bind_eq_bind, Option.bind_eq_some_iff] at hfind
  obtain ⟨names, -, name, -, b, hname, hfound⟩ := hfind
  split at hfound
  · cases hfound
  · cases hfound
    exact h name a hname

/-! ## Reported frames -/

/-- The name under which a product is reported that an engine spells in some way; nothing is
reported when an alias blocks the engine. -/
def reportedName? (t : Aliases) (engine spelling : String) : Option String :=
  match t.find? engine spelling with
  | some (.blocked _) => none
  | some (.found a) => some a.name
  | none => some (Text.lower spelling)

/-- A frame is filed under the name that is reported for it. -/
theorem key_apply {t : Aliases} (h : t.IsLowered) (engine : String) (f : Frame) :
    (t.apply engine f).map Frame.key = t.reportedName? engine f.name := by
  unfold apply reportedName?
  cases hfind : t.find? engine f.name with
  | none => rfl
  | some found =>
      cases found with
      | blocked a => rfl
      | found a =>
          exact congrArg some (h.lower_of_find hfind)

end Fingerprinting.Aliases
