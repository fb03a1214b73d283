/-
# Names of vulnerabilities

A set of vulnerabilities keeps one for each name.  Adding takes the name as it is, while merging takes
it in lower case, so that one vulnerability may come to stand in a set under names of two cases.  That
a merge does not bring this about is a matter of the names which the set has already: the lower case
of each has to be among them (`Vulns.IsClosed`).

* `Vulns.byName_put` reads a set as a dictionary, from which the laws of single names come;
* `Vulns.mem_names_add` and `Vulns.mem_names_absorb` say what one vulnerability adds to the names, and
  `Vulns.mem_names_merge` what a whole set does;
* `Vulns.count_absorbAll` counts the names that a merge adds;
* `Vulns.mem_names_after` says which names a history leads to;
* `Vulns.doubles_add_iff` and `Vulns.doubles_merge_iff` say when a change records a vulnerability
  for a second time.

Main statement: `Vulns.self_merge`.
-/
import Fingerprinting.Vulnerability
import Fingerprinting.Proofs.Dictionary
import Fingerprinting.Proofs.Text.Lower

namespace Fingerprinting

/-- The name under which a merge files a vulnerability. -/
def Vuln.key (v : Vuln) : String := Text.lower v.name

namespace Vulns

/-! ## Names -/

/-- The names of a set, in their order. -/
def names (s : Vulns) : List String := s.toList.map Vuln.name

/-- A set as a dictionary of what stands under each name. -/
def byName (s : Vulns) : Dictionary Vuln := ⟨s.toList.map fun v => (v.name, v)⟩

theorem keys_byName (s : Vulns) : s.byName.keys = s.names := by
  simp [byName, Dictionary.keys, names]

theorem get?_byName (s : Vulns) (name : String) : s.byName.get? name = s.get? name := by
  obtain ⟨vs⟩ := s
  show Dictionary.find? name (vs.map fun v => (v.name, v)) = vs.find? fun v => v.name == name
  induction vs with
  | nil => rfl
  | cons v rest ih =>
      rw [List.map_cons, Dictionary.find?, List.find?_cons, ih]
      by_cases hname : v.name = name
      · rw [if_pos hname, beq_iff_eq.mpr hname]
      · rw [if_neg hname, beq_eq_false_iff_ne.mpr hname]

/-- A vulnerability is put where an entry for its name is. -/
theorem byName_put (s : Vulns) (v : Vuln) : byName ⟨put v s.toList⟩ = s.byName.insert v.name v := by
  obtain ⟨vs⟩ := s
  show Dictionary.mk ((put v vs).map fun v => (v.name, v)) =
    ⟨Dictionary.put v.name v (vs.map fun v => (v.name, v))⟩
  congr 1
  induction vs with
  | nil => rfl
  | cons w rest ih =>
      rw [put, List.map_cons, Dictionary.put]
      -- The two insertions compare the names in another order, but only one comparison succeeds.
      rcases lt_trichotomy v.name w.name with hlt | heq | hgt
      · rw [if_pos hlt, if_neg hlt.ne, if_pos hlt]
        rfl
      · rw [if_neg heq.not_lt, if_pos heq, if_pos heq]
        rfl
      · rw [if_neg hgt.not_gt, if_neg hgt.ne', if_neg hgt.ne', if_neg hgt.not_gt, List.map_cons, ih]

/-- A set knows the names that it has. -/
theorem contains_iff (s : Vulns) (name : String) : s.contains name = true ↔ name ∈ s.names := by
  rw [contains, ← get?_byName, ← keys_byName, Dictionary.mem_keys_iff]

theorem get?_eq_none_iff (s : Vulns) (name : String) : s.get? name = none ↔ name ∉ s.names := by
  rw [← contains_iff, contains]
  cases s.get? name <;> simp

/-- A vulnerability that is put into a set brings its name. -/
theorem mem_names_put (s : Vulns) (v : Vuln) (name : String) :
    name ∈ names ⟨put v s.toList⟩ ↔ name ∈ s.names ∨ name = v.name := by
  rw [← keys_byName, ← keys_byName, byName_put, Dictionary.mem_keys_iff, Dictionary.mem_keys_iff,
    Dictionary.get?_insert]
  by_cases hname : v.name = name
  · simp [hname]
  · have hother : ¬ name = v.name := fun h => hname h.symm
    simp [hname, hother]

/-! ## One more vulnerability -/

/-- A vulnerability that is added brings its name as it is. -/
theorem mem_names_add (s : Vulns) (v : Vuln) (name : String) :
    name ∈ (s.add v).names ↔ name ∈ s.names ∨ name = v.name := by
  rw [add, enter]
  split
  · rename_i hknown
    rw [contains_iff] at hknown
    constructor
    · exact Or.inl
    · rintro (h | rfl)
      · exact h
      · exact hknown
  · exact mem_names_put s v name

/-- Adding answers whether the name is new. -/
theorem enter_eq_true_iff (s : Vulns) (v : Vuln) : (s.enter v).2 = true ↔ v.name ∉ s.names := by
  rw [← contains_iff, enter]
  split <;> simp [*]

theorem name_of_get? {s : Vulns} {name : String} {v : Vuln} (h : s.get? name = some v) :
    v.name = name := by
  have hfound := List.find?_some (show s.toList.find? (fun v => v.name == name) = some v from h)
  exact beq_iff_eq.mp hfound

/-- A vulnerability that is folded in brings its name. -/
theorem mem_names_absorb (s : Vulns) (v : Vuln) (name : String) :
    name ∈ (s.absorb v).1.names ↔ name ∈ s.names ∨ name = v.name := by
  rw [absorb]
  split
  · rename_i w hw
    rw [mem_names_put, show (w.addTags v.tags).name = w.name from rfl, name_of_get? hw]
  · exact mem_names_put s v name

/-- Folding a vulnerability in answers whether its name is new. -/
theorem absorb_eq_true_iff (s : Vulns) (v : Vuln) : (s.absorb v).2 = true ↔ v.name ∉ s.names := by
  rw [← get?_eq_none_iff, absorb]
  split <;> simp [*]

/-! ## Another set -/

theorem foldl_tally_concat (r : Vulns × Nat) (vs : List Vuln) (v : Vuln) :
    (vs ++ [v]).foldl tally r = tally (vs.foldl tally r) v := by
  rw [List.foldl_append, List.foldl_cons, List.foldl_nil]

/-- The names after some vulnerabilities have been folded in. -/
theorem mem_names_foldl_tally (s : Vulns) (vs : List Vuln) (name : String) :
    name ∈ (vs.foldl tally (s, 0)).1.names ↔ name ∈ s.names ∨ name ∈ vs.map Vuln.key := by
  induction vs using List.reverseRecOn with
  | nil => simp
  | append_singleton vs v ih =>
      rw [foldl_tally_concat]
      show name ∈ ((vs.foldl tally (s, 0)).1.absorb v.filed).1.names ↔ _
      rw [mem_names_absorb, ih, List.map_append, List.mem_append, List.map_singleton,
        List.mem_singleton, or_assoc]
      rfl

/-- A merge brings the names of the other set in lower case. -/
theorem mem_names_merge (s t : Vulns) (name : String) :
    name ∈ (s.merge t).names ↔ name ∈ s.names ∨ ∃ v ∈ t.toList, v.key = name := by
  rw [merge, absorbAll, mem_names_foldl_tally, List.mem_map]

/-- A merge counts the names in lower case that are new, each once. -/
theorem count_absorbAll (s t : Vulns) :
    (s.absorbAll t).2 =
      ((t.toList.map Vuln.key).filter fun name => name ∉ s.names).eraseDups.length := by
  rw [absorbAll]
  induction t.toList using List.reverseRecOn with
  | nil => rfl
  | append_singleton vs v ih =>
      rw [foldl_tally_concat, List.map_append, List.map_singleton, List.filter_append]
      show (if ((vs.foldl tally (s, 0)).1.absorb v.filed).2 then (vs.foldl tally (s, 0)).2 + 1
        else (vs.foldl tally (s, 0)).2) = _
      -- The name is counted when neither the set nor a vulnerability before it has it.
      have hnew : ((vs.foldl tally (s, 0)).1.absorb v.filed).2 = true ↔
          ¬ (v.key ∈ s.names ∨ v.key ∈ vs.map Vuln.key) := by
        rw [absorb_eq_true_iff, ← mem_names_foldl_tally]
        rfl
      by_cases hset : v.key ∈ s.names
      · have hknown : ¬ ((vs.foldl tally (s, 0)).1.absorb v.filed).2 = true := by
          rw [hnew]
          exact not_not_intro (.inl hset)
        rw [if_neg hknown, ih]
        simp [hset]
      · have hsingle : [v.key].filter (fun name => name ∉ s.names) = [v.key] := by simp [hset]
        have hmem : v.key ∈ (vs.map Vuln.key).filter (fun name => name ∉ s.names) ↔
            v.key ∈ vs.map Vuln.key := by
          simp [hset]
        rw [hsingle]
        by_cases hbefore : v.key ∈ vs.map Vuln.key
        · have hknown : ¬ ((vs.foldl tally (s, 0)).1.absorb v.filed).2 = true := by
            rw [hnew]
            exact not_not_intro (.inr hbefore)
          rw [if_neg hknown, ih, Lists.eraseDups_append_of_mem _ _ (hmem.mpr hbefore)]
        · rw [if_pos (hnew.mpr (not_or.mpr ⟨hset, hbefore⟩)), ih,
            Lists.eraseDups_append_of_not_mem _ _ (mt hmem.mp hbefore), List.length_append,
            List.length_singleton]

/-! ## Order -/

/-- The names of a set stand in order, and so none of them stands there twice. -/
def IsOrdered (s : Vulns) : Prop := s.byName.IsSorted

theorem isOrdered_empty : empty.IsOrdered := Dictionary.isSorted_empty

theorem IsOrdered.put {s : Vulns} (h : s.IsOrdered) (v : Vuln) : IsOrdered ⟨put v s.toList⟩ := by
  rw [IsOrdered, byName_put]
  exact Dictionary.IsSorted.insert h v.name v

theorem IsOrdered.add {s : Vulns} (h : s.IsOrdered) (v : Vuln) : (s.add v).IsOrdered := by
  rw [Vulns.add, enter]
  split
  · exact h
  · exact h.put v

theorem IsOrdered.absorb {s : Vulns} (h : s.IsOrdered) (v : Vuln) : (s.absorb v).1.IsOrdered := by
  rw [Vulns.absorb]
  split
  · exact h.put _
  · exact h.put v

/-- A merge keeps the names in order. -/
theorem IsOrdered.merge {s : Vulns} (h : s.IsOrdered) (t : Vulns) : (s.merge t).IsOrdered := by
  rw [Vulns.merge, absorbAll]
  have hstart : (s, 0).1.IsOrdered := h
  refine List.foldlRecOn (motive := fun r => r.1.IsOrdered) t.toList tally hstart ?_
  intro r hr v _
  exact hr.absorb v.filed

/-- Sets with the same names have them in the same order. -/
theorem IsOrdered.names_eq {s t : Vulns} (hs : s.IsOrdered) (ht : t.IsOrdered)
    (h : ∀ name, name ∈ s.names ↔ name ∈ t.names) : s.names = t.names := by
  rw [← keys_byName, ← keys_byName]
  apply Dictionary.IsSorted.keys_eq hs ht
  intro name
  rw [keys_byName, keys_byName]
  exact h name

/-! ## Histories -/

/-- A change to a set of vulnerabilities. -/
inductive Change where
  /-- One vulnerability is added. -/
  | add (v : Vuln)
  /-- Another set is folded in. -/
  | merge (t : Vulns)

/-- The names that a change brings. -/
def Change.names : Change → List String
  | .add v => [v.name]
  | .merge t => t.toList.map Vuln.key

/-- A set after one change. -/
def change (s : Vulns) : Change → Vulns
  | .add v => s.add v
  | .merge t => s.merge t

/-- A set after some changes. -/
def after (s : Vulns) (changes : List Change) : Vulns := changes.foldl change s

/-- A change brings its names and takes none away. -/
theorem mem_names_change (s : Vulns) (c : Change) (name : String) :
    name ∈ (s.change c).names ↔ name ∈ s.names ∨ name ∈ c.names := by
  cases c with
  | add v => rw [change, mem_names_add, Change.names, List.mem_singleton]
  | merge t => rw [change, mem_names_merge, Change.names, List.mem_map]

/-- The names of a history are those that its changes bring. -/
theorem mem_names_after (changes : List Change) (name : String) :
    name ∈ (after empty changes).names ↔ ∃ c ∈ changes, name ∈ c.names := by
  induction changes using List.reverseRecOn with
  | nil => simp [after, empty, names]
  | append_singleton changes c ih =>
      rw [after, List.foldl_append, List.foldl_cons, List.foldl_nil, ← after, mem_names_change, ih]
      simp [or_and_right, exists_or]

/-- The names of a history stand in order. -/
theorem isOrdered_after (changes : List Change) : (after empty changes).IsOrdered := by
  rw [after]
  refine List.foldlRecOn (motive := IsOrdered) changes change isOrdered_empty ?_
  intro s hs c _
  cases c with
  | add v => exact hs.add v
  | merge t => exact hs.merge t

/-! ## Names of two cases -/

/-- A set has the lower case of each of its names. -/
def IsClosed (s : Vulns) : Prop := ∀ name ∈ s.names, Text.lower name ∈ s.names

/-- A change records a vulnerability for a second time: under a new name that has the lower case of a
name which is there. -/
def Doubles (s : Vulns) (c : Change) : Prop :=
  ∃ name ∈ (s.change c).names, name ∉ s.names ∧
    ∃ known ∈ s.names, Text.lower known = Text.lower name

/-- What a change records for a second time is among the names that it brings. -/
theorem doubles_iff (s : Vulns) (c : Change) :
    s.Doubles c ↔ ∃ name ∈ c.names, name ∉ s.names ∧
      ∃ known ∈ s.names, Text.lower known = Text.lower name := by
  constructor
  · rintro ⟨name, hname, hnew, hknown⟩
    rw [mem_names_change] at hname
    exact ⟨name, hname.resolve_left hnew, hnew, hknown⟩
  · rintro ⟨name, hname, hnew, hknown⟩
    exact ⟨name, (mem_names_change s c name).mpr (.inr hname), hnew, hknown⟩

/-- A vulnerability is added for a second time when its name is only known in another case. -/
theorem doubles_add_iff (s : Vulns) (v : Vuln) :
    s.Doubles (.add v) ↔ v.name ∉ s.names ∧ ∃ known ∈ s.names, Text.lower known = v.key := by
  rw [doubles_iff]
  simp [Change.names, Vuln.key]

/-- A vulnerability is merged for a second time when its name is known, but not in lower case. -/
theorem doubles_merge_iff (s t : Vulns) :
    s.Doubles (.merge t) ↔
      ∃ v ∈ t.toList, v.key ∉ s.names ∧ ∃ known ∈ s.names, Text.lower known = v.key := by
  rw [doubles_iff]
  simp [Change.names, Vuln.key]

/-- No merge records a vulnerability for a second time exactly when the set has the lower case of its
names. -/
theorem forall_not_doubles_merge_iff (s : Vulns) :
    (∀ t, ¬ s.Doubles (.merge t)) ↔ s.IsClosed := by
  constructor
  · -- Merging the set itself would record the name that is missing.
    intro hnone name hname
    obtain ⟨v, hv, rfl⟩ := List.mem_map.mp hname
    by_contra hmissing
    exact hnone s ((doubles_merge_iff s s).mpr ⟨v, hv, hmissing, v.name, hname, rfl⟩)
  · intro hclosed t hdoubles
    obtain ⟨v, -, hnew, known, hknown, hkey⟩ := (doubles_merge_iff s t).mp hdoubles
    apply hnew
    rw [← hkey]
    exact hclosed known hknown

/-! ## Merging a set into itself -/

/-- Merging a set into itself brings the lower case of its names. -/
theorem mem_names_merge_self (s : Vulns) (name : String) :
    name ∈ (s.merge s).names ↔ name ∈ s.names ∨ ∃ known ∈ s.names, Text.lower known = name := by
  rw [mem_names_merge]
  simp [names, Vuln.key]

/-- Merging a set into itself leads to a set that has the lower case of its names. -/
theorem isClosed_merge_self (s : Vulns) : (s.merge s).IsClosed := by
  intro name hname
  rw [mem_names_merge_self] at hname ⊢
  rcases hname with hname | ⟨known, hknown, rfl⟩
  · exact .inr ⟨name, hname, rfl⟩
  · exact .inr ⟨known, hknown, (Text.lower_lower known).symm⟩

/-- Merging a set into itself adds nothing exactly when the set has the lower case of its names. -/
theorem count_absorbAll_self_eq_zero_iff (s : Vulns) : (s.absorbAll s).2 = 0 ↔ s.IsClosed := by
  rw [count_absorbAll, List.length_eq_zero_iff]
  constructor
  · intro hnone name hname
    obtain ⟨v, hv, rfl⟩ := List.mem_map.mp hname
    by_contra hmissing
    have hnew : v.key ∈ ((s.toList.map Vuln.key).filter fun name => name ∉ s.names).eraseDups := by
      rw [List.mem_eraseDups, List.mem_filter]
      exact ⟨List.mem_map_of_mem hv, decide_eq_true hmissing⟩
    rw [hnone] at hnew
    cases hnew
  · intro hclosed
    have hempty : (s.toList.map Vuln.key).filter (fun name => name ∉ s.names) = [] := by
      rw [List.filter_eq_nil_iff]
      intro key hkey
      obtain ⟨v, hv, rfl⟩ := List.mem_map.mp hkey
      have hlower : v.key ∈ s.names := hclosed v.name (List.mem_map_of_mem hv)
      simpa using hlower
    rw [hempty]
    rfl

/-- Merging a set into itself leaves the names alone exactly when the lower case of each is among
them. -/
theorem IsOrdered.names_merge_self_iff {s : Vulns} (h : s.IsOrdered) :
    (s.merge s).names = s.names ↔ s.IsClosed := by
  constructor
  · intro hsame name hname
    rw [← hsame, mem_names_merge_self]
    exact .inr ⟨name, hname, rfl⟩
  · intro hclosed
    apply (h.merge s).names_eq h
    intro name
    rw [mem_names_merge_self]
    constructor
    · rintro (hname | ⟨known, hknown, rfl⟩)
      · exact hname
      · exact hclosed known hknown
    · exact .inl

/-- A history leads to a set that has the lower case of its names exactly when it brings the lower
case of every name that is added. -/
theorem isClosed_after_iff (changes : List Change) :
    (after empty changes).IsClosed ↔
      ∀ v, .add v ∈ changes → ∃ c ∈ changes, v.key ∈ c.names := by
  constructor
  · intro hclosed v hv
    rw [← mem_names_after]
    exact hclosed v.name ((mem_names_after changes v.name).mpr ⟨_, hv, List.mem_singleton_self _⟩)
  · intro hadded name hname
    rw [mem_names_after] at hname ⊢
    obtain ⟨c, hc, hname⟩ := hname
    cases c with
    | add v =>
        rw [List.mem_singleton.mp hname]
        exact hadded v hc
    | merge t =>
        -- What a merge brings is in lower case already.
        obtain ⟨v, hv, rfl⟩ := List.mem_map.mp hname
        refine ⟨.merge t, hc, ?_⟩
        rw [Vuln.key, Text.lower_lower]
        exact List.mem_map_of_mem hv

/-- A set has the names that were added to it, and in lower case those that were merged.  Merging it
into itself adds each lower case of a name that is missing, and nothing if there is none: if the
lower case of every added name has been brought too.  The same sets are those into which no merge
records a vulnerability a second time, and what merging a set into itself leads to is such a set.
An addition does so whenever the name is known in another case only. -/
theorem self_merge (changes : List Change) :
    let s := after empty changes
    (∀ name, name ∈ s.names ↔ ∃ c ∈ changes, name ∈ c.names) ∧
    (s.absorbAll s).2 =
      ((s.names.map Text.lower).filter fun name => name ∉ s.names).eraseDups.length ∧
    ((s.absorbAll s).2 = 0 ↔ s.IsClosed) ∧
    ((s.merge s).names = s.names ↔ s.IsClosed) ∧
    (s.IsClosed ↔ ∀ v, .add v ∈ changes → ∃ c ∈ changes, v.key ∈ c.names) ∧
    ((s.merge s).absorbAll (s.merge s)).2 = 0 ∧
    ((∀ t, ¬ s.Doubles (.merge t)) ↔ s.IsClosed) ∧
    ∀ v, s.Doubles (.add v) ↔ v.name ∉ s.names ∧ ∃ known ∈ s.names, Text.lower known = v.key := by
  intro s
  refine ⟨mem_names_after changes, ?_, count_absorbAll_self_eq_zero_iff s,
    (isOrdered_after changes).names_merge_self_iff, isClosed_after_iff changes, ?_,
    forall_not_doubles_merge_iff s, doubles_add_iff s⟩
  · rw [count_absorbAll, names, List.map_map]
    rfl
  · exact (count_absorbAll_self_eq_zero_iff _).mpr (isClosed_merge_self s)

/-- One vulnerability added in capitals, and one merged. -/
def capitals : List Change := [
  .add { name := "CVE-1", severity := .high },
  .merge ⟨[{ name := "Info-Leak", severity := .info }]⟩]

/-- Merging the set into itself records the vulnerability in capitals for a second time. -/
theorem self_merge_of_capitals :
    let s := after empty capitals
    s.names = ["CVE-1", "info-leak"] ∧ (s.absorbAll s).2 = 1 ∧
      (s.merge s).names = ["CVE-1", "cve-1", "info-leak"] ∧ ¬ s.IsClosed ∧
      ∃ t, s.Doubles (.merge t) := by
  intro s
  obtain ⟨-, -, hcount, -, -, -, hmerge, -⟩ := self_merge capitals
  have hone : (s.absorbAll s).2 = 1 := by decide +kernel
  have hopen : ¬ s.IsClosed := by
    rw [← hcount]
    exact ne_of_eq_of_ne hone Nat.one_ne_zero
  refine ⟨by decide +kernel, hone, by decide +kernel, hopen, ?_⟩
  by_contra hnone
  exact hopen (hmerge.mp (not_exists.mp hnone))

end Vulns

end Fingerprinting
