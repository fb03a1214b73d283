/-
# The algebra of merging

Merging is addition of frames one after the other, so its laws are laws of addition.  Two of them
suffice.  Frames of one name may be folded into each other before they are added
(`add_add_of_key_eq`), and a frame whose name is known may be added earlier than frames of other
names (`Records.add_foldl_add`).  Together they say that a frame added to a set reaches whatever the
set is merged into (`Records.merge_add`); everything else follows by induction on the frames of a
history.

* `Records.merge_assoc` and `empty_merge_ofList` make sets with recorded histories a monoid;
* `Records.absorbAll_self` says that a set of rooted frames has nothing to learn from its copy;
* `merge_laws` says so of the sets that any changes lead to.
-/
import Fingerprinting.Proofs.Frame.Agreement

namespace Fingerprinting

/-! ## Folding -/

theorem Provenances.union_assoc (a b c : Provenances) :
    (a.union b).union c = a.union (b.union c) :=
  congrArg mk (BitVec.or_assoc a.mask b.mask c.mask)

namespace Frame

/-- Tags that were added are there. -/
theorem mem_tags_foldl_addTag (f : Frame) (new : List String) (tag : String) :
    tag ∈ (new.foldl addTag f).tags ↔ tag ∈ f.tags ∨ tag ∈ new := by
  rw [foldl_addTag]
  by_cases h : tag ∈ f.tags
  · simp [h]
  · simp [h]

/-- Adding the tags of a frame with new ones is adding its tags and then the new ones. -/
theorem foldl_addTag_tags (r f : Frame) (new : List String) :
    (new.foldl addTag f).tags.foldl addTag r = new.foldl addTag (f.tags.foldl addTag r) := by
  induction new using List.reverseRecOn with
  | nil => rfl
  | append_singleton new tag ih =>
      rw [List.foldl_append, List.foldl_append, ← ih, List.foldl_cons, List.foldl_nil,
        List.foldl_cons, List.foldl_nil]
      by_cases h : tag ∈ (new.foldl addTag f).tags
      · -- The tag adds nothing to `f`, and by the same token nothing to `r`.
        have hthere : tag ∈ ((new.foldl addTag f).tags.foldl addTag r).tags :=
          (mem_tags_foldl_addTag r _ tag).mpr (.inr h)
        rw [addTag, if_pos (by simpa using h), addTag, if_pos (by simpa using hthere)]
      · rw [addTag, if_neg (by simpa using h), List.foldl_append, List.foldl_cons, List.foldl_nil]

/-- What folding in a frame does to each field. -/
theorem absorb_eq (r f : Frame) :
    r.absorb f =
      { r with
        version := if r.version = "" then f.version else r.version
        cpe :=
          if r.version = "" ∧ f.version ≠ "" then { r.cpe with version := f.version } else r.cpe
        tags := (f.tags.foldl addTag r).tags
        froms := (r.froms.insert f.origin).union f.froms
        focus := r.focus || f.focus
        detail := r.detail.or f.detail } := by
  by_cases hr : r.version = ""
  · by_cases hf : f.version = ""
    · simp [absorb, foldl_addTag, hr, hf]
    · simp [absorb, foldl_addTag, setVersion, hr, hf]
  · simp [absorb, foldl_addTag, hr]

/-- The tags after adding some depend on the tags before alone. -/
theorem tags_foldl_addTag_congr {f g : Frame} (h : f.tags = g.tags) (new : List String) :
    (new.foldl addTag f).tags = (new.foldl addTag g).tags := by
  rw [foldl_addTag, foldl_addTag, h]

/-- Folding in one frame after the other is folding in the second folded into the first. -/
theorem absorb_absorb (r f g : Frame) : (r.absorb f).absorb g = r.absorb (f.absorb g) := by
  have htags : (g.tags.foldl addTag (r.absorb f)).tags =
      ((f.absorb g).tags.foldl addTag r).tags := by
    have hr : (r.absorb f).tags = (f.tags.foldl addTag r).tags := by rw [absorb_eq]
    have hf : (f.absorb g).tags = (g.tags.foldl addTag f).tags := by rw [absorb_eq]
    rw [tags_foldl_addTag_congr hr, hf, foldl_addTag_tags]
  have hfroms : ((r.absorb f).froms.insert g.origin).union g.froms =
      (r.froms.insert (f.absorb g).origin).union (f.absorb g).froms := by
    simp only [absorb_eq, Provenances.insert, Provenances.union_assoc]
  rw [absorb_eq (r.absorb f) g, absorb_eq r (f.absorb g), htags, hfroms]
  -- What is left are alternatives: of two versions or details the first that is there counts.
  by_cases hr : r.version = ""
  · by_cases hf : f.version = ""
    · simp [absorb_eq r f, absorb_eq f g, hr, hf, Bool.or_assoc, Option.or_assoc]
    · simp [absorb_eq r f, absorb_eq f g, hr, hf, Bool.or_assoc, Option.or_assoc]
  · simp [absorb_eq r f, absorb_eq f g, hr, Bool.or_assoc, Option.or_assoc]

/-- A rooted frame has nothing to learn from itself. -/
theorem IsRooted.absorb_self {r : Frame} (h : r.IsRooted) : r.absorb r = r := by
  have hfroms : (r.froms.insert r.origin).union r.froms = r.froms := by
    apply Provenances.ext_contains
    intro p
    rw [Provenances.contains_union, Provenances.insert, Provenances.contains_union,
      Provenances.contains_singleton]
    by_cases hp : r.origin = p
    · simp [← hp, show r.froms.contains r.origin = true from h]
    · simp [hp]
  have htags : (r.tags.foldl Frame.addTag r).tags = r.tags := by
    rw [foldl_addTag]
    simp [List.filter_eq_nil_iff]
  rw [absorb_eq, hfroms, htags, ite_self, if_neg (fun hv => hv.2 hv.1), Bool.or_self,
    Option.or_self]

/-- A filed frame stays as it is when it is filed again. -/
@[simp] theorem filed_filed (f : Frame) : f.filed.filed = f.filed := by
  simp [filed, Text.lower_lower]

/-- Folding in a frame leaves the name to be filed. -/
theorem filed_absorb (r f : Frame) : (r.absorb f).filed = r.filed.absorb f := by
  simp only [absorb_eq, filed, foldl_addTag]

end Frame

namespace Frames

variable {s t : Frames} {log logt : List Frame}

/-! ## Two frames -/

/-- Filing a frame before it is added makes no difference. -/
theorem add_filed (s : Frames) (f : Frame) : s.add f.filed = s.add f := by
  rw [add, enter, Frame.filed_filed, add, enter]

/-- A frame of a known name is folded into the record at its place. -/
theorem add_of_known (f : Frame) {place : Nat} (h : s.position? f.key = some place) :
    s.add f = { s with toList := s.toList.modify place fun r => r.absorb f.filed } := by
  rw [add, enter_of_known h]

/-- A frame of a new name is filed at the end. -/
theorem add_of_new (f : Frame) (h : s.position? f.key = none) :
    s.add f = ⟨s.toList ++ [f.filed], s.index.insert f.key s.size⟩ := by
  rw [add, enter_of_new h]

/-- Frames of one name may be folded into each other before they are added. -/
theorem add_add_of_key_eq (s : Frames) {f g : Frame} (h : g.key = f.key) :
    (s.add f).add g = s.add (f.absorb g.filed) := by
  have hkey : (f.absorb g.filed).key = f.key := by rw [Frame.key, name_absorb, Frame.key]
  cases hplace : s.position? f.key with
  | some place =>
      have hg : (s.add f).position? g.key = some place := by
        rw [add_of_known f hplace, h]
        exact hplace
      have hfg : s.position? (f.absorb g.filed).key = some place := by rw [hkey, hplace]
      rw [add_of_known g hg, add_of_known _ hfg, add_of_known f hplace, Frame.filed_absorb]
      simp [List.modify_modify_eq, Function.comp_def, Frame.absorb_absorb]
  | none =>
      have hg : (s.add f).position? g.key = some s.size := by
        rw [add_of_new f hplace, h, position?, Dictionary.get?_insert, if_pos rfl]
      have hfg : s.position? (f.absorb g.filed).key = none := by rw [hkey, hplace]
      rw [add_of_known g hg, add_of_new _ hfg, add_of_new f hplace, Frame.filed_absorb, hkey, size]
      simp [Lists.modify_append]

/-- A frame of a known name may be added before a frame of another name. -/
theorem Records.add_add_of_known (h : Records s log) {f g : Frame} {place : Nat}
    (hg : s.position? g.key = some place) (hne : f.key ≠ g.key) :
    (s.add f).add g = (s.add g).add f := by
  have hat := (h.index g.key place).mp hg
  cases hf : s.position? f.key with
  | some other =>
      have hplaces : other ≠ place := by
        rintro rfl
        have hother := (h.index f.key other).mp hf
        rw [hat] at hother
        exact hne (Option.some.inj hother).symm
      have hg' : (s.add f).position? g.key = some place := by rw [add_of_known f hf]; exact hg
      have hf' : (s.add g).position? f.key = some other := by rw [add_of_known g hg]; exact hf
      rw [add_of_known g hg', add_of_known f hf', add_of_known f hf, add_of_known g hg]
      dsimp only
      rw [List.modify_modify_ne _ _ _ hplaces]
  | none =>
      have hlt := h.lt_of_position? hg
      have hg' : (s.add f).position? g.key = some place := by
        rw [add_of_new f hf, position?, Dictionary.get?_insert, if_neg hne]
        exact hg
      have hf' : (s.add g).position? f.key = none := by rw [add_of_known g hg]; exact hf
      rw [add_of_known g hg', add_of_new f hf', add_of_new f hf, add_of_known g hg]
      simp [size, Lists.modify_append, hlt]

/-- A frame of a known name may be added before any frames of other names. -/
theorem Records.add_foldl_add (h : Records s log) {g : Frame} (hg : ∃ k ∈ log, k.key = g.key)
    (fs : List Frame) (hne : ∀ f ∈ fs, f.key ≠ g.key) :
    (fs.foldl add s).add g = fs.foldl add (s.add g) := by
  induction fs generalizing s log with
  | nil => rfl
  | cons f rest ih =>
      obtain ⟨place, hplace⟩ := (h.exists_position?_iff g.key).mpr hg
      have hg' : ∃ k ∈ log ++ [f], k.key = g.key :=
        hg.imp fun k hk => ⟨List.mem_append_left [f] hk.1, hk.2⟩
      rw [List.foldl_cons, List.foldl_cons,
        ← h.add_add_of_known hplace (hne f List.mem_cons_self)]
      exact ih (records_add h f) hg' fun k hk => hne k (List.mem_cons_of_mem f hk)

/-! ## Whole sets -/

/-- The record that a frame of a known name is folded into stands before records of other names. -/
theorem Records.exists_split (h : Records s log) {g : Frame} {place : Nat}
    (hplace : s.position? g.key = some place) :
    ∃ before r behind, s.toList = before ++ r :: behind ∧
      (s.add g).toList = before ++ r.absorb g.filed :: behind ∧
      r.key = g.key ∧ ∀ f ∈ behind, f.key ≠ g.key := by
  obtain ⟨before, r, behind, hsplit, hlength, hmodify⟩ :=
    List.exists_of_modify (fun r => r.absorb g.filed) (h.lt_of_position? hplace)
  have hname : r.name = g.key := by
    have hat := (h.index g.key place).mp hplace
    rw [hsplit, ← hlength] at hat
    simpa using hat
  have hkeys : ∀ f ∈ r :: behind, f.key = f.name := fun f hf =>
    h.key_of_mem (hsplit ▸ List.mem_append_right before hf)
  refine ⟨before, r, behind, hsplit, ?_, ?_, ?_⟩
  · rw [add_of_known g hplace, ← hmodify]
  · rw [hkeys r List.mem_cons_self, hname]
  · intro f hf hkey
    have hnodup := h.names ▸ Lists.nodup_eraseDups (log.map Frame.key)
    rw [hsplit, List.map_append, List.map_cons] at hnodup
    apply (List.nodup_cons.mp (List.nodup_append.mp hnodup).2.1).1
    rw [hname, ← hkey, hkeys f (List.mem_cons_of_mem r hf)]
    exact List.mem_map_of_mem hf

/-- A frame that was added to a set reaches whatever the set is merged into. -/
theorem Records.merge_add (hs : Records s log) (ht : Records t logt) (g : Frame) :
    t.merge (s.add g) = (t.merge s).add g := by
  rw [merge_eq_foldl, merge_eq_foldl]
  cases hplace : s.position? g.key with
  | none => rw [add_of_new g hplace, List.foldl_append, List.foldl_cons, List.foldl_nil, add_filed]
  | some place =>
      obtain ⟨before, r, behind, hsplit, hadd, hr, hothers⟩ := hs.exists_split hplace
      have hrecords := records_add (records_foldl_add ht before) r
      have hknown : ∃ k ∈ logt ++ before ++ [r], k.key = g.key := ⟨r, List.mem_concat_self, hr⟩
      -- The frame arrives after the records behind its own, and they all have other names.
      calc (s.add g).toList.foldl add t
          = behind.foldl add ((before.foldl add t).add (r.absorb g.filed)) := by
            rw [hadd, List.foldl_append, List.foldl_cons]
        _ = behind.foldl add (((before.foldl add t).add r).add g) := by
            rw [add_add_of_key_eq _ hr.symm]
        _ = (behind.foldl add ((before.foldl add t).add r)).add g :=
            (hrecords.add_foldl_add hknown behind hothers).symm
        _ = (s.toList.foldl add t).add g := by
            rw [hsplit, List.foldl_append, List.foldl_cons]

/-- Frames that were added to a set reach whatever the set is merged into. -/
theorem Records.merge_foldl_add (hs : Records s log) (ht : Records t logt) (fs : List Frame) :
    t.merge (fs.foldl add s) = fs.foldl add (t.merge s) := by
  induction fs generalizing s log with
  | nil => rfl
  | cons f rest ih =>
      rw [List.foldl_cons, List.foldl_cons, ← hs.merge_add ht f]
      exact ih (records_add hs f)

/-- Merging is associative. -/
theorem Records.merge_assoc (hs : Records s log) (ht : Records t logt) (u : Frames) :
    (t.merge s).merge u = t.merge (s.merge u) := by
  rw [merge_eq_foldl (t.merge s) u, merge_eq_foldl s u, hs.merge_foldl_add ht]

/-- A set is what its history makes of the empty set. -/
theorem after_eq_ofList (changes : List Change) :
    after empty changes = ofList (changes.flatMap Change.arrivals) := by
  have hrun (s : Frames) :
      after s changes = (changes.flatMap Change.arrivals).foldl add s := by
    induction changes generalizing s with
    | nil => rfl
    | cons c rest ih =>
        have hstep : change s c = c.arrivals.foldl add s := by
          cases c with
          | add f => rfl
          | merge t => exact merge_eq_foldl s t
        rw [List.flatMap_cons, List.foldl_append, ← hstep, ← ih]
        rfl
  exact hrun empty

/-- Merging into the empty set copies a set. -/
theorem empty_merge_ofList (fs : List Frame) : empty.merge (ofList fs) = ofList fs := by
  rw [ofList, records_empty.merge_foldl_add records_empty]
  rfl

/-- A rooted record is known to its set and changes nothing there. -/
theorem Records.enter_self (h : Records s log) {r : Frame} (hr : r ∈ s.toList)
    (hrooted : r.IsRooted) : s.enter r = (s, false) := by
  obtain ⟨place, hlt, hat⟩ := List.getElem_of_mem hr
  have hfiled : r.filed = r := by
    rw [Frame.filed, show Text.lower r.name = r.name from h.key_of_mem hr]
  have hplace : s.position? r.key = some place := by
    rw [h.index, h.key_of_mem hr, List.getElem?_map, List.getElem?_eq_getElem hlt, hat,
      Option.map_some]
  have hsame : (s.toList.modify place fun r' => r'.absorb r) = s.toList := by
    apply List.ext_getElem?
    intro i
    rw [List.getElem?_modify]
    by_cases hi : place = i
    · subst hi
      simp [hlt, hat, hrooted.absorb_self]
    · simp [hi]
  rw [enter_of_known hplace, hfiled, hsame]

/-- A set of rooted frames has nothing to learn from its copy. -/
theorem Records.absorbAll_self (h : Records s log) (hrooted : ∀ r ∈ s.toList, r.IsRooted) :
    s.absorbAll s = (s, 0) := by
  rw [absorbAll]
  -- The count is as it was at the start, and so is the set, after each of its records.
  refine List.foldlRecOn (motive := fun r => r = (s, 0)) s.toList tally rfl ?_
  rintro _ rfl r hr
  rw [tally, h.enter_self hr (hrooted r hr)]
  rfl

/-! ## The laws -/

/-- Of sets that any changes lead to, merging is associative, the empty set is neutral on both
sides, and merging a set of rooted frames with its copy adds no name and changes nothing. -/
theorem merge_laws (as bs cs : List Change) :
    let a := after empty as
    let b := after empty bs
    let c := after empty cs
    (a.merge b).merge c = a.merge (b.merge c) ∧
    empty.merge a = a ∧
    a.merge empty = a ∧
    ((∀ f ∈ as.flatMap Change.arrivals, f.IsRooted) → a.absorbAll a = (a, 0)) := by
  intro a b c
  refine ⟨(records_after bs).merge_assoc (records_after as) c, ?_, rfl, ?_⟩
  · rw [show a = _ from after_eq_ofList as]
    exact empty_merge_ofList _
  · intro hrooted
    apply (records_after as).absorbAll_self
    rw [after_eq_ofList]
    exact isRooted_of_mem_ofList _ hrooted

/-- Three sets that share names in two cases, versions and tags. -/
theorem merge_laws_of_shared_names :
    let as : List Change :=
      [.add (.new "Nginx" .fingerprintHub), .add ((Frame.new "php" .goby).setVersion "8.1")]
    let bs : List Change := [.add ((Frame.new "NGINX" .wappalyzer).setVersion "1.24")]
    let cs : List Change :=
      [.merge (ofList [.new "jQuery" .wappalyzer, (Frame.new "nginx" .nmap).setVersion "1.18"])]
    let a := after empty as
    let b := after empty bs
    let c := after empty cs
    let shown (f : Frame) : List String := [f.name, f.version] ++ f.tags
    (∀ f ∈ as.flatMap Change.arrivals, f.IsRooted) ∧
    ((a.merge b).merge c).toList.map shown =
      [["nginx", "1.24", "fingerprinthub", "wappalyzer", "nmap"], ["php", "8.1", "goby"],
        ["jquery", "", "wappalyzer"]] ∧
    (a.merge b).merge c = a.merge (b.merge c) ∧ a.absorbAll a = (a, 0) := by
  intro as bs cs a b c shown
  have hrooted : ∀ f ∈ as.flatMap Change.arrivals, f.IsRooted := by
    intro f hf
    simp only [as, List.flatMap_cons, Change.arrivals, List.flatMap_nil, List.append_nil,
      List.cons_append, List.nil_append, List.mem_cons, List.not_mem_nil, or_false] at hf
    rcases hf with rfl | rfl
    · exact Frame.isRooted_new "Nginx" .fingerprintHub
    · exact Frame.isRooted_new "php" .goby
  obtain ⟨hassoc, -, -, hself⟩ := merge_laws as bs cs
  exact ⟨hrooted, by decide +kernel, hassoc, hself hrooted⟩

end Frames

end Fingerprinting
