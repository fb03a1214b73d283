/-
# Coherent frames

The version and the vendor of a product stand in two places of a frame, and the engine that reports
a frame stands among its provenances and among its tags.  `Frame.IsCoherent` says that these agree.
`Frame.Made` collects the ways in which frames come about: they are constructed, changed field by
field, renamed by aliases, marked as the hits of active probes, and folded into one another.

* `Made.isCoherent` says that every frame that comes about in these ways is coherent, in whatever
  order they are combined;
* `Frames.forall_mem_ofList` says that a set keeps what filing and folding keep.
-/
import Mathlib.Data.List.Nodup
import Fingerprinting.Alias
import Fingerprinting.Finger.Match
import Fingerprinting.Proofs.Frame.Agreement

namespace Fingerprinting

namespace Frame

/-! ## Tags -/

theorem mem_tags_addTag (f : Frame) (tag : String) : tag ∈ (f.addTag tag).tags := by
  unfold addTag
  split
  · rename_i h
    exact List.contains_iff_mem.mp h
  · exact List.mem_append_right _ (List.mem_singleton_self tag)

theorem mem_tags_addTag_of_mem {f : Frame} {old : String} (h : old ∈ f.tags) (tag : String) :
    old ∈ (f.addTag tag).tags := by
  unfold addTag
  split
  · exact h
  · exact List.mem_append_left _ h

theorem nodup_tags_addTag {f : Frame} (h : f.tags.Nodup) (tag : String) :
    (f.addTag tag).tags.Nodup := by
  unfold addTag
  split
  · exact h
  · rename_i hnew
    rw [List.contains_iff_mem] at hnew
    exact List.nodup_append.mpr ⟨h, List.nodup_singleton tag, fun x hx y hy hxy =>
      hnew (List.mem_singleton.mp hy ▸ hxy ▸ hx)⟩

/-! ## Coherence -/

/-- What a frame says in two places agrees. -/
structure IsCoherent (f : Frame) : Prop where
  /-- The attributes have the version of the frame. -/
  version : f.cpe.version = f.version
  /-- The attributes have the vendor of the frame. -/
  vendor : f.cpe.vendor = f.vendor
  /-- The attributes say what kind of product it is. -/
  part : f.cpe.part ≠ ""
  /-- The frame has the provenance that it comes from. -/
  rooted : f.IsRooted
  /-- No tag is there twice. -/
  nodup : f.tags.Nodup
  /-- An engine that the frame comes from is among its tags. -/
  engine : f.origin.isEngine = true → f.origin.name ∈ f.tags

/-- A new frame is for an application without version and vendor, and has at most the tag of its
engine. -/
theorem isCoherent_new (name : String) (origin : Provenance) : (new name origin).IsCoherent := by
  have hbare : (new name origin).cpe = .application name ∧ (new name origin).version = "" ∧
      (new name origin).vendor = "" := by
    unfold new addTag
    dsimp only
    split
    · split <;> exact ⟨rfl, rfl, rfl⟩
    · exact ⟨rfl, rfl, rfl⟩
  obtain ⟨hcpe, hversion, hvendor⟩ := hbare
  refine ⟨?_, ?_, ?_, isRooted_new name origin, ?_, ?_⟩
  · rw [hcpe, hversion]
    rfl
  · rw [hcpe, hvendor]
    rfl
  · rw [hcpe]
    exact (by decide : "a" ≠ "")
  · unfold new
    dsimp only
    split
    · exact nodup_tags_addTag List.nodup_nil _
    · exact List.nodup_nil
  · intro hengine
    unfold new at hengine ⊢
    dsimp only at hengine ⊢
    split at hengine
    · rename_i horigin
      rw [if_pos horigin, origin_addTag]
      exact mem_tags_addTag _ _
    · rename_i horigin
      exact absurd hengine horigin

namespace IsCoherent

variable {f g : Frame}

theorem addTag (h : f.IsCoherent) (tag : String) : (f.addTag tag).IsCoherent := by
  have hsame : (f.addTag tag).cpe = f.cpe ∧ (f.addTag tag).version = f.version ∧
      (f.addTag tag).vendor = f.vendor := by
    unfold Frame.addTag
    split <;> exact ⟨rfl, rfl, rfl⟩
  obtain ⟨hcpe, hversion, hvendor⟩ := hsame
  refine ⟨?_, ?_, ?_, h.rooted.addTag tag, nodup_tags_addTag h.nodup tag, ?_⟩
  · rw [hcpe, hversion, h.version]
  · rw [hcpe, hvendor, h.vendor]
  · rw [hcpe]
    exact h.part
  · rw [origin_addTag]
    exact fun hengine => mem_tags_addTag_of_mem (h.engine hengine) tag

theorem foldl_addTag (h : f.IsCoherent) (tags : List String) :
    (tags.foldl Frame.addTag f).IsCoherent :=
  List.foldlRecOn tags Frame.addTag h fun _ hf tag _ => hf.addTag tag

/-- Fields that nothing else in a frame repeats may have any value. -/
theorem describe (h : f.IsCoherent) (name product : String) (focus : Bool)
    (detail : Option MatchDetail) : IsCoherent { f with name, product, focus, detail } :=
  ⟨h.version, h.vendor, h.part, h.rooted, h.nodup, h.engine⟩

theorem setVersion (h : f.IsCoherent) (version : String) : (f.setVersion version).IsCoherent :=
  ⟨rfl, h.vendor, h.part, h.rooted, h.nodup, h.engine⟩

theorem setVendor (h : f.IsCoherent) (vendor : String) : (f.setVendor vendor).IsCoherent := by
  unfold Frame.setVendor
  split
  · exact h
  · exact ⟨h.version, rfl, h.part, h.rooted, h.nodup, h.engine⟩

theorem setProduct (h : f.IsCoherent) (product : String) : (f.setProduct product).IsCoherent := by
  unfold Frame.setProduct
  split
  · exact h
  · exact ⟨h.version, h.vendor, h.part, h.rooted, h.nodup, h.engine⟩

/-- Attributes are taken over into the frame and into its attributes by the same rules, except that
the version which the frame has already stays in both places. -/
theorem update (h : f.IsCoherent) (a : Cpe) : (f.update a).IsCoherent := by
  refine ⟨?_, ?_, ?_, h.rooted, h.nodup, h.engine⟩
  · unfold Frame.update Cpe.updated Cpe.prefer
    have hversion := h.version
    dsimp only
    grind
  · unfold Frame.update Cpe.updated
    have hvendor := h.vendor
    dsimp only
    grind
  · unfold Frame.update
    dsimp only
    grind

/-- More provenances do no harm. -/
theorem withFroms (h : f.IsCoherent) {froms : Provenances}
    (hfroms : froms.contains f.origin = true) : IsCoherent { f with froms } :=
  ⟨h.version, h.vendor, h.part, hfroms, h.nodup, h.engine⟩

theorem addFrom (h : f.IsCoherent) (p : Provenance) : (f.addFrom p).IsCoherent := by
  apply h.withFroms
  rw [Provenances.insert, Provenances.contains_union, show f.froms.contains f.origin = true from
    h.rooted, Bool.true_or]

/-- The frame that absorbs another keeps its version if it has one, and else the version of the
other is written in both places. -/
theorem absorb (h : f.IsCoherent) (g : Frame) : (f.absorb g).IsCoherent := by
  have hjoined : IsCoherent { f with froms := (f.froms.insert g.origin).union g.froms } := by
    apply h.withFroms
    rw [Provenances.contains_union, Provenances.insert, Provenances.contains_union,
      show f.froms.contains f.origin = true from h.rooted, Bool.true_or, Bool.true_or]
  have htagged := hjoined.foldl_addTag g.tags
  unfold Frame.absorb
  dsimp only
  split
  · exact (htagged.setVersion g.version).describe _ _ _ _
  · exact htagged.describe _ _ _ _

/-- Renaming a frame gives it the attributes of the alias. -/
theorem apply (h : f.IsCoherent) {t : Aliases} {engine : String} (hg : t.apply engine f = some g) :
    g.IsCoherent := by
  unfold Aliases.apply at hg
  split at hg
  · rename_i a _
    cases hg
    exact (h.describe a.name f.product f.focus f.detail).update a.attributes
  · cases hg
  · cases hg
    exact h

/-- The hit of a finger comes from fingers whether or not it is active. -/
theorem markActive {hit : Hit} (h : hit.frame.IsCoherent) (horigin : hit.frame.origin = .fingers) :
    hit.markActive.frame.IsCoherent := by
  have hrooted : ((Provenances.singleton .fingers).insert .active).contains .fingers = true := by
    decide
  refine ⟨h.version, h.vendor, h.part, hrooted, h.nodup, fun _ => ?_⟩
  have hengine := h.engine
  rw [horigin] at hengine
  exact hengine rfl

end IsCoherent

/-! ## The making of frames -/

/-- The frames that come about by construction, by changes, by aliases, by marking the hits of
fingers as active, and by folding. -/
inductive Made : Frame → Prop where
  | new (name : String) (origin : Provenance) : Made (new name origin)
  | setVersion {f : Frame} (h : Made f) (version : String) : Made (f.setVersion version)
  | setVendor {f : Frame} (h : Made f) (vendor : String) : Made (f.setVendor vendor)
  | setProduct {f : Frame} (h : Made f) (product : String) : Made (f.setProduct product)
  | update {f : Frame} (h : Made f) (a : Cpe) : Made (f.update a)
  | addTag {f : Frame} (h : Made f) (tag : String) : Made (f.addTag tag)
  | addFrom {f : Frame} (h : Made f) (p : Provenance) : Made (f.addFrom p)
  | rename {f : Frame} (h : Made f) (name : String) : Made { f with name }
  | withProduct {f : Frame} (h : Made f) (product : String) : Made { f with product }
  | withFocus {f : Frame} (h : Made f) (focus : Bool) : Made { f with focus }
  | withDetail {f : Frame} (h : Made f) (detail : Option MatchDetail) : Made { f with detail }
  | apply {f g : Frame} (h : Made f) (t : Aliases) (engine : String)
      (hg : t.apply engine f = some g) : Made g
  | markActive {hit : Hit} (h : Made hit.frame) (horigin : hit.frame.origin = .fingers) :
      Made hit.markActive.frame
  | absorb {f g : Frame} (hf : Made f) (hg : Made g) : Made (f.absorb g)

/-- Every way of making frames keeps them coherent. -/
theorem Made.isCoherent {f : Frame} (h : f.Made) : f.IsCoherent := by
  induction h with
  | new name origin => exact isCoherent_new name origin
  | setVersion _ version ih => exact ih.setVersion version
  | setVendor _ vendor ih => exact ih.setVendor vendor
  | setProduct _ product ih => exact ih.setProduct product
  | update _ a ih => exact ih.update a
  | addTag _ tag ih => exact ih.addTag tag
  | addFrom _ p ih => exact ih.addFrom p
  | rename _ name ih => exact ih.describe name _ _ _
  | withProduct _ product ih => exact ih.describe _ product _ _
  | withFocus _ focus ih => exact ih.describe _ _ focus _
  | withDetail _ detail ih => exact ih.describe _ _ _ detail
  | apply _ t engine hg ih => exact ih.apply hg
  | markActive _ horigin ih => exact ih.markActive horigin
  | @absorb f g _ _ ih _ => exact ih.absorb g

theorem Made.foldl_addTag {f : Frame} (h : f.Made) (tags : List String) :
    (tags.foldl Frame.addTag f).Made :=
  List.foldlRecOn tags Frame.addTag h fun _ hf tag _ => hf.addTag tag

/-- A frame is filed under another name only. -/
theorem Made.filed {f : Frame} (h : f.Made) : f.filed.Made :=
  h.rename (Text.lower f.name)

end Frame

namespace Frames

/-! ## Sets of frames -/

/-- What filing a frame keeps, and folding one into another, holds of all frames of a set when it
holds of those that were added. -/
theorem forall_mem_ofList {P : Frame → Prop} (hfiled : ∀ f, P f → P f.filed)
    (habsorb : ∀ f g, P f → P g → P (f.absorb g)) (fs : List Frame) (h : ∀ f ∈ fs, P f) :
    ∀ r ∈ (ofList fs).toList, P r := by
  have hadd (s : Frames) (hs : ∀ r ∈ s.toList, P r) (f : Frame) (hf : P f) :
      ∀ r ∈ (s.add f).toList, P r := by
    intro r hr
    unfold add enter at hr
    dsimp only at hr
    split at hr
    · rename_i place _
      obtain ⟨i, hi⟩ := List.mem_iff_getElem?.mp hr
      rw [List.getElem?_modify] at hi
      obtain ⟨old, hold, rfl⟩ := Option.map_eq_some_iff.mp hi
      have hP := hs old (List.mem_of_getElem? hold)
      split
      · exact habsorb old f.filed hP (hfiled f hf)
      · exact hP
    · rcases List.mem_append.mp hr with hr | hr
      · exact hs r hr
      · rw [List.mem_singleton.mp hr]
        exact hfiled f hf
  exact List.foldlRecOn fs add (fun r hr => nomatch hr) fun s hs f hf => hadd s hs f (h f hf)

/-- The records of a set of frames come about by folding them. -/
theorem made_of_mem_ofList (fs : List Frame) (h : ∀ f ∈ fs, f.Made) :
    ∀ r ∈ (ofList fs).toList, r.Made :=
  forall_mem_ofList (fun _ hf => hf.filed) (fun _ _ hf hg => hf.absorb hg) fs h

end Frames

end Fingerprinting
