/-
# What a set of frames knows about its arrivals

A set of frames is the outcome of a history: frames that were added one after the other, among them
those of whole sets that were merged in.  `Frames.Records` relates a set to the frames that arrived:
the index leads to the records by name, the names stand in the order of their first arrival, and
every record gathers exactly the frames that arrived under its name.

* `records_enter` is the step and `records_after` the run;
* `changes_recorded` says what a set is after any changes, and what the next change answers.
-/
import Fingerprinting.Proofs.Frame.Gathered
import Fingerprinting.Proofs.Text.Lower

namespace Fingerprinting

/-- The name under which a frame is filed. -/
def Frame.key (f : Frame) : String := Text.lower f.name

/-- The frames of some that are filed under a name. -/
def Frame.under (name : String) (fs : List Frame) : List Frame := fs.filter fun f => f.key == name

namespace Frames

/-! ## Changes -/

/-- A change to a set of frames. -/
inductive Change where
  /-- One frame is added. -/
  | add (f : Frame)
  /-- All frames of another set are added. -/
  | merge (t : Frames)

/-- The frames that arrive with a change. -/
def Change.arrivals : Change → List Frame
  | .add f => [f]
  | .merge t => t.toList

/-- A set after one change. -/
def change (s : Frames) : Change → Frames
  | .add f => s.add f
  | .merge t => s.merge t

/-- A set after some changes. -/
def after (s : Frames) (changes : List Change) : Frames := changes.foldl change s

/-! ## Records -/

/-- A set has recorded the frames of a history. -/
structure Records (s : Frames) (log : List Frame) : Prop where
  /-- Names stand in the order of their first arrival. -/
  names : s.toList.map Frame.name = (log.map Frame.key).eraseDups
  /-- The index knows the place of every name and nothing else. -/
  index : ∀ name place,
    s.position? name = some place ↔ (s.toList.map Frame.name)[place]? = some name
  /-- A record gathers the frames that arrived under its name. -/
  record : ∀ r ∈ s.toList, ∃ first later,
    Frame.under r.name log = first :: later ∧ r = first.gathered later

variable {s : Frames} {log : List Frame}

/-- A name is in the index when a frame has arrived under it. -/
theorem Records.position?_eq_none_iff (h : Records s log) (name : String) :
    s.position? name = none ↔ ∀ f ∈ log, f.key ≠ name := by
  have hmem : name ∈ s.toList.map Frame.name ↔ ∃ f ∈ log, f.key = name := by
    rw [h.names, List.mem_eraseDups, List.mem_map]
  rw [Option.eq_none_iff_forall_ne_some]
  constructor
  · intro hnone f hf hkey
    obtain ⟨place, hplace⟩ := List.mem_iff_getElem?.mp (hmem.mpr ⟨f, hf, hkey⟩)
    exact hnone place ((h.index name place).mpr hplace)
  · intro hall place hplace
    have hat := (h.index name place).mp hplace
    obtain ⟨f, hf, hkey⟩ := hmem.mp (List.mem_iff_getElem?.mpr ⟨place, hat⟩)
    exact hall f hf hkey

/-- A set knows the names under which frames have arrived. -/
theorem Records.exists_position?_iff (h : Records s log) (name : String) :
    (∃ place, s.position? name = some place) ↔ ∃ f ∈ log, f.key = name := by
  rw [← Option.ne_none_iff_exists', Ne, h.position?_eq_none_iff]
  simp only [not_forall, not_not, exists_prop]

/-- A place in the index is that of a record. -/
theorem Records.lt_of_position? (h : Records s log) {name : String} {place : Nat}
    (hplace : s.position? name = some place) : place < s.toList.length := by
  have hlt := (List.getElem?_eq_some_iff.mp ((h.index name place).mp hplace)).1
  rwa [List.length_map] at hlt

/-- Nothing has been recorded in the empty set. -/
theorem records_empty : Records empty [] where
  names := rfl
  index := by
    intro name place
    simp [empty, position?]
  record := by
    intro r hr
    cases hr

/-- A record has its name in lower case. -/
theorem Records.key_of_mem (h : Records s log) {r : Frame} (hr : r ∈ s.toList) :
    r.key = r.name := by
  have hmem : r.name ∈ s.toList.map Frame.name := List.mem_map_of_mem hr
  rw [h.names, List.mem_eraseDups, List.mem_map] at hmem
  obtain ⟨f, -, hf⟩ := hmem
  rw [Frame.key, ← hf, Frame.key, Text.lower_lower]

/-! ## One more frame -/

/-- A frame whose name is known is folded into the record at its place. -/
theorem enter_of_known {f : Frame} {place : Nat} (h : s.position? f.key = some place) :
    s.enter f =
      ({ s with toList := s.toList.modify place fun r => r.absorb f.filed }, false) := by
  rw [enter]
  simp only [show f.filed.name = f.key from rfl, h]

/-- A frame whose name is new is filed at the end. -/
theorem enter_of_new {f : Frame} (h : s.position? f.key = none) :
    s.enter f = (⟨s.toList ++ [f.filed], s.index.insert f.key s.size⟩, true) := by
  rw [enter]
  simp only [show f.filed.name = f.key from rfl, h]

/-- A frame that arrives last is the last under its name, and under no other name. -/
theorem under_concat (name : String) (log : List Frame) (f : Frame) :
    Frame.under name (log ++ [f]) = Frame.under name log ++ if f.key = name then [f] else [] := by
  by_cases h : f.key = name
  · simp [Frame.under, h]
  · simp [Frame.under, h]

/-- Folding a frame into a record keeps the name. -/
theorem name_absorb (r f : Frame) : (r.absorb f).name = r.name := by
  simp only [Frame.absorb, Frame.foldl_addTag]
  split <;> rfl

/-- Folding a frame into the record at some place keeps all names. -/
theorem map_name_modify (rs : List Frame) (place : Nat) (f : Frame) :
    (rs.modify place fun r => r.absorb f).map Frame.name = rs.map Frame.name := by
  apply List.ext_getElem?
  intro i
  rw [List.getElem?_map, List.getElem?_modify, List.getElem?_map]
  cases rs[i]? with
  | none => rfl
  | some r =>
      by_cases h : place = i
      · simp [h, name_absorb]
      · simp [h]

/-- A frame whose name is known is folded into the record of that name. -/
theorem Records.enter_known (h : Records s log) (f : Frame) (place : Nat)
    (hplace : s.position? f.key = some place) :
    (s.enter f).2 = false ∧ Records (s.enter f).1 (log ++ [f]) := by
  have hknown : f.key ∈ log.map Frame.key := by
    obtain ⟨g, hg, hkey⟩ := (h.exists_position?_iff f.key).mp ⟨place, hplace⟩
    exact List.mem_map.mpr ⟨g, hg, hkey⟩
  rw [enter_of_known hplace]
  -- No name changes and no place does; only the record at `place` gathers one frame more.
  refine ⟨rfl, ?_, ?_, ?_⟩
  · rw [map_name_modify, h.names, List.map_append, List.map_singleton,
      Lists.eraseDups_append_of_mem _ _ hknown]
  · intro name i
    rw [map_name_modify]
    exact h.index name i
  · intro r hr
    obtain ⟨i, hi⟩ := List.mem_iff_getElem?.mp hr
    rw [List.getElem?_modify] at hi
    obtain ⟨old, hold, rfl⟩ := Option.map_eq_some_iff.mp hi
    have hname : (s.toList.map Frame.name)[i]? = some old.name := by
      rw [List.getElem?_map, hold]
      rfl
    obtain ⟨first, later, hunder, hgathered⟩ := h.record old (List.mem_of_getElem? hold)
    by_cases hi : place = i
    · have hkey : f.key = old.name := by
        have hkeyAt := (h.index f.key place).mp hplace
        rw [hi, hname] at hkeyAt
        exact (Option.some.inj hkeyAt).symm
      refine ⟨first, later ++ [f], ?_, ?_⟩
      · rw [if_pos hi, name_absorb, under_concat, if_pos hkey, hunder, List.cons_append]
      · rw [if_pos hi, hgathered, Frame.absorb_gathered]
    · have hkey : f.key ≠ old.name := by
        intro hkey
        rw [← hkey] at hname
        rw [(h.index f.key i).mpr hname] at hplace
        exact hi (Option.some.inj hplace).symm
      refine ⟨first, later, ?_, ?_⟩
      · rw [if_neg hi, under_concat, if_neg hkey, List.append_nil, hunder]
      · rw [if_neg hi, hgathered]

/-- A frame whose name is new becomes the last record. -/
theorem Records.enter_new (h : Records s log) (f : Frame) (hnone : s.position? f.key = none) :
    (s.enter f).2 = true ∧ Records (s.enter f).1 (log ++ [f]) := by
  have hnew := (h.position?_eq_none_iff f.key).mp hnone
  have hunder : Frame.under f.key log = [] := by
    rw [Frame.under, List.filter_eq_nil_iff]
    intro g hg
    simpa using hnew g hg
  rw [enter_of_new hnone]
  refine ⟨rfl, ?_, ?_, ?_⟩
  · have hkey : f.key ∉ log.map Frame.key := by
      intro hmem
      obtain ⟨g, hg, hkey⟩ := List.mem_map.mp hmem
      exact hnew g hg hkey
    rw [List.map_append, h.names, List.map_append, List.map_singleton, List.map_singleton,
      Lists.eraseDups_append_of_not_mem _ _ hkey]
    rfl
  · intro name i
    have hold := h.index name i
    rw [position?] at hold hnone
    rw [position?, Dictionary.get?_insert, List.map_append, List.getElem?_append, List.length_map]
    -- Places before the end are those of the old records, and the end is that of the new one.
    by_cases hi : i < s.toList.length
    · rw [if_pos hi, ← hold]
      by_cases hname : f.key = name
      · have hne : s.size ≠ i := Nat.ne_of_gt hi
        simp [hname ▸ hnone, hne, hname]
      · rw [if_neg hname]
    · have hbeyond : s.index.get? name ≠ some i := by
        rw [Ne, hold, List.getElem?_eq_none (by simpa using hi)]
        simp
      rw [if_neg hi]
      by_cases hname : f.key = name
      · have hlast : s.size = i ↔ i - s.toList.length = 0 := by
          rw [size]
          omega
        simp [hname, hlast, List.getElem?_singleton, show f.filed.name = f.key from rfl]
      · simp [hname, hbeyond, List.getElem?_singleton, show f.filed.name = f.key from rfl]
  · intro r hr
    rcases List.mem_append.mp hr with hr | hr
    · obtain ⟨first, later, hfirst, hgathered⟩ := h.record r hr
      refine ⟨first, later, ?_, hgathered⟩
      have hkey : f.key ≠ r.name := by
        intro hkey
        rw [hkey, hfirst] at hunder
        cases hunder
      rw [under_concat, if_neg hkey, List.append_nil, hfirst]
    · rw [List.mem_singleton.mp hr]
      refine ⟨f, [], ?_, (Frame.gathered_nil f).symm⟩
      rw [under_concat, show f.filed.name = f.key from rfl, if_pos rfl, hunder, List.nil_append]

/-- One more frame is recorded, and its name is new when no frame has arrived under it. -/
theorem records_enter (h : Records s log) (f : Frame) :
    Records (s.enter f).1 (log ++ [f]) ∧
      ((s.enter f).2 = true ↔ ∀ g ∈ log, g.key ≠ f.key) := by
  cases hplace : s.position? f.key with
  | none =>
      obtain ⟨hanswer, hrecords⟩ := h.enter_new f hplace
      refine ⟨hrecords, ?_⟩
      rw [hanswer, eq_self_iff_true, true_iff]
      exact (h.position?_eq_none_iff f.key).mp hplace
  | some place =>
      obtain ⟨hanswer, hrecords⟩ := h.enter_known f place hplace
      refine ⟨hrecords, ?_⟩
      rw [hanswer, ← h.position?_eq_none_iff f.key, hplace]
      simp

/-! ## Many more frames -/

/-- A frame that is added is recorded. -/
theorem records_add (h : Records s log) (f : Frame) : Records (s.add f) (log ++ [f]) :=
  (records_enter h f).1

/-- Frames added one after the other are recorded one after the other. -/
theorem records_foldl_add (h : Records s log) (fs : List Frame) :
    Records (fs.foldl add s) (log ++ fs) := by
  induction fs generalizing s log with
  | nil => simpa using h
  | cons f rest ih =>
      rw [List.foldl_cons, List.append_cons]
      exact ih (records_add h f)

/-- Merging a set adds its frames one after the other. -/
theorem merge_eq_foldl (s t : Frames) : s.merge t = t.toList.foldl add s := by
  have hfold (fs : List Frame) (r : Frames × Nat) : (fs.foldl tally r).1 = fs.foldl add r.1 := by
    induction fs generalizing r with
    | nil => rfl
    | cons f rest ih => exact ih (tally r f)
  exact hfold t.toList (s, 0)

/-- Entering a frame makes a set larger exactly when its name is new. -/
theorem size_enter (s : Frames) (f : Frame) :
    (s.enter f).1.size = if (s.enter f).2 then s.size + 1 else s.size := by
  rw [enter]
  split <;> simp [size]

/-- Merging answers by how much a set grows. -/
theorem size_absorbAll (s t : Frames) : (s.merge t).size = s.size + (s.absorbAll t).2 := by
  have hfold (fs : List Frame) (r : Frames × Nat) (n : Nat) (hr : r.1.size = n + r.2) :
      (fs.foldl tally r).1.size = n + (fs.foldl tally r).2 := by
    induction fs generalizing r with
    | nil => exact hr
    | cons f rest ih =>
        apply ih
        show (r.1.enter f).1.size = n + if (r.1.enter f).2 then r.2 + 1 else r.2
        rw [size_enter]
        split
        · omega
        · exact hr
  exact hfold t.toList (s, 0) s.size rfl

/-- After any changes a set has recorded all frames that arrived with them. -/
theorem records_after (changes : List Change) :
    Records (after empty changes) (changes.flatMap Change.arrivals) := by
  -- The history before the changes is generalised, since every change adds to it.
  have hrun (s : Frames) (log : List Frame) (h : Records s log) :
      Records (after s changes) (log ++ changes.flatMap Change.arrivals) := by
    induction changes generalizing s log with
    | nil => simpa [after] using h
    | cons c rest ih =>
        rw [after, List.foldl_cons, List.flatMap_cons, ← List.append_assoc]
        apply ih
        cases c with
        | add f => exact records_add h f
        | merge t =>
            rw [change, merge_eq_foldl]
            exact records_foldl_add h t.toList
  exact hrun empty [] records_empty

/-! ## Histories -/

/-- Every record stands at the place that the index gives for its name in lower case. -/
theorem Records.position?_eq_some_iff (h : Records s log) (name : String) (place : Nat) :
    s.position? name = some place ↔
      ∃ r, s.toList[place]? = some r ∧ Text.lower r.name = name := by
  have hlower (r : Frame) (hr : s.toList[place]? = some r) : Text.lower r.name = r.name :=
    h.key_of_mem (List.mem_of_getElem? hr)
  rw [h.index, List.getElem?_map, Option.map_eq_some_iff]
  constructor
  · rintro ⟨r, hr, rfl⟩
    exact ⟨r, hr, hlower r hr⟩
  · rintro ⟨r, hr, rfl⟩
    exact ⟨r, hr, (hlower r hr).symm⟩

/-- Every frame that has arrived is in exactly one record. -/
theorem Records.existsUnique_place (h : Records s log) (f : Frame) (hf : f ∈ log) :
    ∃! place : Nat, ∃ r : Frame, s.toList[place]? = some r ∧ r.name = f.key := by
  have hmem : f.key ∈ s.toList.map Frame.name := by
    rw [h.names, List.mem_eraseDups]
    exact List.mem_map_of_mem hf
  obtain ⟨place, hplace⟩ := List.mem_iff_getElem?.mp hmem
  have hat (i : Nat) : (∃ r, s.toList[i]? = some r ∧ r.name = f.key) ↔
      s.position? f.key = some i := by
    rw [h.index, List.getElem?_map, Option.map_eq_some_iff]
  refine ⟨place, (hat place).mpr ((h.index f.key place).mpr hplace), ?_⟩
  intro i hi
  have hsame := (hat i).mp hi
  rw [(h.index f.key place).mpr hplace] at hsame
  exact (Option.some.inj hsame).symm

/-- After any changes, the index maps the names of the records in lower case to their places; the
names are distinct and stand in the order of their first arrival; the next frame is new exactly when
none has arrived under its name, and merging answers the growth.  Every record is made of all frames
that arrived under its name, and every arrival is in exactly one record. -/
theorem changes_recorded (changes : List Change) :
    let s := after empty changes
    let log := changes.flatMap Change.arrivals
    (∀ name place, s.position? name = some place ↔
      ∃ r, s.toList[place]? = some r ∧ Text.lower r.name = name) ∧
    s.toList.map Frame.name = (log.map Frame.key).eraseDups ∧
    (s.toList.map Frame.name).Nodup ∧
    (∀ f, (s.enter f).2 = true ↔ ∀ g ∈ log, g.key ≠ f.key) ∧
    (∀ t, (s.merge t).size = s.size + (s.absorbAll t).2) ∧
    (∀ r ∈ s.toList, ∃ first later, Frame.under r.name log = first :: later ∧
      r = first.gathered later ∧
      ∀ p, r.froms.contains p = true ↔
        first.froms.contains p = true ∨
          ∃ g ∈ later, g.origin = p ∨ g.froms.contains p = true) ∧
    ∀ f ∈ log, ∃! place : Nat, ∃ r : Frame, s.toList[place]? = some r ∧ r.name = f.key := by
  intro s log
  have h : Records s log := records_after changes
  refine ⟨h.position?_eq_some_iff, h.names, ?_, fun f => (records_enter h f).2,
    size_absorbAll s, ?_, h.existsUnique_place⟩
  · rw [h.names]
    exact Lists.nodup_eraseDups _
  · intro r hr
    obtain ⟨first, later, hunder, hgathered⟩ := h.record r hr
    refine ⟨first, later, hunder, hgathered, ?_⟩
    intro p
    rw [hgathered]
    exact Frame.contains_gathered first later p

end Frames

end Fingerprinting
