/-
# What does not depend on the order of arrivals

The first version and the first detail of a record depend on the order in which frames arrive, and
so do its other attributes.  Its provenances, its set of tags and its focus do not, nor does it
matter how often a frame arrives, as long as every frame has the provenance that it comes from
(`Frame.IsRooted`).

* `agrees_ofList` says so of the sets of some frames;
* `isRooted_of_mem_ofList` says that the records of such frames are such frames again.
-/
import Fingerprinting.Proofs.Frame.Arrivals

namespace Fingerprinting

/-! ## Provenances -/

/-- Sets with the same provenances are equal. -/
theorem Provenances.ext_contains (s t : Provenances)
    (h : ∀ p, s.contains p = true ↔ t.contains p = true) : s = t := by
  -- Every bit of a mask is that of some provenance.
  have hrank : ∀ i : Fin 12, ∃ p : Provenance, p.rank = i := by
    intro i
    have hall : ∀ i : Fin 12, ∃ p ∈ Provenance.all, p.rank = i := by decide
    obtain ⟨p, -, hp⟩ := hall i
    exact ⟨p, hp⟩
  have hmask : s.mask = t.mask := by
    apply BitVec.eq_of_getLsbD_eq
    intro i hi
    obtain ⟨p, hp⟩ := hrank ⟨i, hi⟩
    have hbit : s.contains p = t.contains p := Bool.eq_iff_iff.mpr (h p)
    rw [contains, contains, hp] at hbit
    exact hbit
  cases s
  cases t
  exact congrArg mk hmask

namespace Frame

/-! ## Rooted frames -/

/-- A frame has the provenance that it comes from. -/
def IsRooted (f : Frame) : Prop := f.froms.contains f.origin = true

@[simp] theorem name_addTag (f : Frame) (tag : String) : (f.addTag tag).name = f.name := by
  unfold addTag
  split <;> rfl

@[simp] theorem origin_addTag (f : Frame) (tag : String) : (f.addTag tag).origin = f.origin := by
  unfold addTag
  split <;> rfl

@[simp] theorem froms_addTag (f : Frame) (tag : String) : (f.addTag tag).froms = f.froms := by
  unfold addTag
  split <;> rfl

@[simp] theorem name_new (name : String) (origin : Provenance) : (new name origin).name = name := by
  unfold new
  dsimp only
  split <;> simp

@[simp] theorem origin_new (name : String) (origin : Provenance) :
    (new name origin).origin = origin := by
  unfold new
  dsimp only
  split <;> simp

/-- A new frame comes from where it says. -/
theorem isRooted_new (name : String) (origin : Provenance) : (new name origin).IsRooted := by
  unfold new IsRooted
  dsimp only
  split <;> simp

theorem IsRooted.addTag {f : Frame} (h : f.IsRooted) (tag : String) : (f.addTag tag).IsRooted := by
  unfold IsRooted
  rw [froms_addTag, origin_addTag]
  exact h

/-- A record is rooted when its first frame is. -/
theorem IsRooted.gathered {first : Frame} (h : first.IsRooted) (later : List Frame) :
    (first.gathered later).IsRooted :=
  (contains_gathered first later first.origin).mpr (.inl h)

/-- A record of rooted frames has the provenances that some of them has. -/
theorem contains_gathered_of_rooted (first : Frame) (later : List Frame)
    (h : ∀ f ∈ first :: later, f.IsRooted) (p : Provenance) :
    (first.gathered later).froms.contains p = true ↔
      ∃ f ∈ first :: later, f.froms.contains p = true := by
  rw [contains_gathered, List.exists_mem_cons_iff]
  -- The provenance that a later frame comes from is among its own, so it adds nothing.
  constructor
  · rintro (hfirst | ⟨g, hg, rfl | hfroms⟩)
    · exact .inl hfirst
    · exact .inr ⟨g, hg, h g (List.mem_cons_of_mem _ hg)⟩
    · exact .inr ⟨g, hg, hfroms⟩
  · rintro (hfirst | ⟨g, hg, hfroms⟩)
    · exact .inl hfirst
    · exact .inr ⟨g, hg, .inr hfroms⟩

/-- A record is in focus when some of its frames is. -/
theorem focus_gathered (first : Frame) (later : List Frame) :
    (first.gathered later).focus = true ↔ ∃ f ∈ first :: later, f.focus = true := by
  show (first :: later).any focus = true ↔ _
  rw [List.any_eq_true]

/-- Whether a frame is a guess depends on its provenances alone. -/
theorem isGuess_congr {f g : Frame} (h : f.froms = g.froms) : f.isGuess = g.isGuess := by
  unfold isGuess
  rw [h]

end Frame

namespace Frames

/-! ## Agreement -/

/-- Two sets have the same names, and under each of them the same provenances, tags and focus. -/
structure Agrees (s t : Frames) : Prop where
  names : ∀ name, name ∈ s.toList.map Frame.name ↔ name ∈ t.toList.map Frame.name
  records : ∀ r ∈ s.toList, ∀ r' ∈ t.toList, r.name = r'.name →
    r.froms = r'.froms ∧ (∀ tag, tag ∈ r.tags ↔ tag ∈ r'.tags) ∧ r.focus = r'.focus ∧
      r.isGuess = r'.isGuess

/-- The set of some frames has recorded them. -/
theorem records_ofList (fs : List Frame) : Records (ofList fs) fs := by
  have h := records_foldl_add records_empty fs
  rwa [List.nil_append] at h

/-- The set of some frames is empty when there are none. -/
theorem isEmpty_ofList (fs : List Frame) : (ofList fs).isEmpty = fs.isEmpty := by
  have hnames := congrArg List.isEmpty (records_ofList fs).names
  rw [List.isEmpty_map] at hnames
  refine hnames.trans ?_
  cases fs with
  | nil => rfl
  | cons f rest =>
      rw [List.isEmpty_cons, List.isEmpty_eq_false_iff_exists_mem]
      exact ⟨f.key, List.mem_eraseDups.mpr List.mem_cons_self⟩

/-- Records of rooted frames are rooted. -/
theorem isRooted_of_mem_ofList (fs : List Frame) (h : ∀ f ∈ fs, f.IsRooted) :
    ∀ r ∈ (ofList fs).toList, r.IsRooted := by
  intro r hr
  obtain ⟨first, later, hunder, rfl⟩ := (records_ofList fs).record r hr
  have hfirst : first ∈ Frame.under (first.gathered later).name fs :=
    hunder ▸ List.mem_cons_self
  exact (h first (List.mem_filter.mp hfirst).1).gathered later

/-- What a record has, some frame has that arrived under its name. -/
theorem record_of_ofList (fs : List Frame) (h : ∀ f ∈ fs, f.IsRooted) (r : Frame)
    (hr : r ∈ (ofList fs).toList) :
    (∀ p, r.froms.contains p = true ↔
      ∃ f ∈ fs, f.key = r.name ∧ f.froms.contains p = true) ∧
    (∀ tag, tag ∈ r.tags ↔ ∃ f ∈ fs, f.key = r.name ∧ tag ∈ f.tags) ∧
    (r.focus = true ↔ ∃ f ∈ fs, f.key = r.name ∧ f.focus = true) := by
  obtain ⟨first, later, hunder, hgathered⟩ := (records_ofList fs).record r hr
  have hmem (f : Frame) : f ∈ first :: later ↔ f ∈ fs ∧ f.key = r.name := by
    rw [← hunder, Frame.under, List.mem_filter, beq_iff_eq]
  have hrooted : ∀ f ∈ first :: later, f.IsRooted := fun f hf => h f ((hmem f).mp hf).1
  have hexists (P : Frame → Prop) :
      (∃ f ∈ first :: later, P f) ↔ ∃ f ∈ fs, f.key = r.name ∧ P f := by
    simp only [hmem, and_assoc]
  refine ⟨fun p => ?_, fun tag => ?_, ?_⟩
  · rw [← hexists, hgathered]
    exact Frame.contains_gathered_of_rooted first later hrooted p
  · rw [← hexists, hgathered]
    exact Frame.mem_tags_gathered first later tag
  · rw [← hexists, hgathered]
    exact Frame.focus_gathered first later

/-- The sets of some frames agree when the frames are the same, in any order and any number. -/
theorem agrees_ofList (fs gs : List Frame) (h : ∀ f ∈ fs, f.IsRooted)
    (hsame : ∀ f, f ∈ fs ↔ f ∈ gs) :
    Agrees (ofList fs) (ofList gs) where
  names := by
    intro name
    rw [(records_ofList fs).names, (records_ofList gs).names, List.mem_eraseDups,
      List.mem_eraseDups, List.mem_map, List.mem_map]
    simp only [hsame]
  records := by
    intro r hr r' hr' hname
    have hgs : ∀ f ∈ gs, f.IsRooted := fun f hf => h f ((hsame f).mpr hf)
    obtain ⟨hfroms, htags, hfocus⟩ := record_of_ofList fs h r hr
    obtain ⟨hfroms', htags', hfocus'⟩ := record_of_ofList gs hgs r' hr'
    have hjoined : r.froms = r'.froms := by
      apply Provenances.ext_contains
      intro p
      rw [hfroms, hfroms', hname]
      simp only [hsame]
    refine ⟨hjoined, fun tag => ?_, Bool.eq_iff_iff.mpr ?_, Frame.isGuess_congr hjoined⟩
    · rw [htags, htags', hname]
      simp only [hsame]
    · rw [hfocus, hfocus', hname]
      simp only [hsame]

end Frames

end Fingerprinting
