/-
# What a record gathers

The frames that arrive under one name become one record.  `Frame.gathered` says what the record is
in terms of the first of them and the later ones, field by field and without folding anything:
provenances and focus are joined, unseen tags follow, the first version and the first detail count,
and everything else is that of the first frame.

* `absorb_gathered` is the step: a record that absorbs one more frame gathers one more frame;
* `contains_gathered` and `mem_tags_gathered` say which provenances and tags a record has.
-/
import Mathlib.Data.List.Induction
import Fingerprinting.Frame.Set
import Fingerprinting.Proofs.Lists

namespace Fingerprinting

namespace Frame

/-! ## Fields -/

/-- The version that counts among those of some frames: the first that is not empty. -/
def firstVersion (fs : List Frame) : String := ((fs.map version).find? (· != "")).getD ""

/-- The provenances of a record: those of the first frame, and of every later one also the one that
it comes from. -/
def joinedFroms (first : Frame) (later : List Frame) : Provenances :=
  later.foldl (fun s g => (s.insert g.origin).union g.froms) first.froms

/-- The tags of later frames that the first one does not have, in the order of their arrival. -/
def unseenTags (first : Frame) (later : List Frame) : List String :=
  (later.flatMap tags).eraseDups.filter fun tag => !first.tags.contains tag

/-- The record of a frame and of later ones under the same name. -/
def gathered (first : Frame) (later : List Frame) : Frame :=
  { first with
    name := Text.lower first.name
    version := firstVersion (first :: later)
    cpe :=
      if first.version = "" ∧ firstVersion later ≠ "" then
        { first.cpe with version := firstVersion later }
      else first.cpe
    tags := first.tags ++ unseenTags first later
    froms := joinedFroms first later
    focus := (first :: later).any focus
    detail := (first :: later).findSome? detail }

/-! ## Versions -/

theorem firstVersion_cons (f : Frame) (fs : List Frame) :
    firstVersion (f :: fs) = if f.version = "" then firstVersion fs else f.version := by
  by_cases h : f.version = ""
  · simp [firstVersion, h]
  · simp [firstVersion, h]

/-- A version at the end counts when there is none before it. -/
theorem firstVersion_concat (fs : List Frame) (g : Frame) :
    firstVersion (fs ++ [g]) = if firstVersion fs = "" then g.version else firstVersion fs := by
  induction fs with
  | nil =>
      by_cases h : g.version = ""
      · simp [firstVersion, h]
      · simp [firstVersion, h]
  | cons f rest ih =>
      rw [List.cons_append, firstVersion_cons, firstVersion_cons, ih]
      by_cases h : f.version = ""
      · simp [h]
      · simp [h]

/-! ## Tags -/

/-- Adding tags changes nothing but the tags. -/
theorem foldl_addTag (f : Frame) (new : List String) :
    new.foldl addTag f =
      { f with tags := f.tags ++ new.eraseDups.filter fun tag => !f.tags.contains tag } := by
  induction new using List.reverseRecOn with
  | nil => simp
  | append_singleton new tag ih =>
      rw [List.foldl_append, ih, List.foldl_cons, List.foldl_nil, addTag]
      -- A tag that came before is in the fold by now, whether or not the frame had it at first.
      by_cases hnew : tag ∈ new
      · have hseen :
            (f.tags ++ new.eraseDups.filter fun tag => !f.tags.contains tag).contains tag := by
          by_cases h : tag ∈ f.tags <;> simp [h, hnew]
        rw [if_pos hseen, Lists.eraseDups_append_of_mem _ _ hnew]
      · rw [Lists.eraseDups_append_of_not_mem _ _ hnew, List.filter_append]
        by_cases h : tag ∈ f.tags
        · simp [h]
        · simp [h, hnew]

/-- The tags of one more frame follow the others when they are unseen. -/
theorem unseenTags_concat (first : Frame) (later : List Frame) (g : Frame) :
    first.tags ++ unseenTags first (later ++ [g]) =
      first.tags ++ unseenTags first later ++
        g.tags.eraseDups.filter fun tag =>
          !(first.tags ++ unseenTags first later).contains tag := by
  have hfold : ((later ++ [g]).flatMap tags).foldl addTag first =
      g.tags.foldl addTag ((later.flatMap tags).foldl addTag first) := by
    rw [List.flatMap_append, List.flatMap_singleton, List.foldl_append]
  rw [foldl_addTag, foldl_addTag, foldl_addTag] at hfold
  exact congrArg tags hfold

/-! ## Records -/

/-- The record of one frame is that frame, filed. -/
theorem gathered_nil (f : Frame) : gathered f [] = f.filed := by
  by_cases hversion : f.version = ""
  · cases hdetail : f.detail <;>
      simp [gathered, filed, unseenTags, joinedFroms, firstVersion, hversion, hdetail]
  · cases hdetail : f.detail <;>
      simp [gathered, filed, unseenTags, joinedFroms, firstVersion, hversion, hdetail]

/-- A record that absorbs one more frame gathers one more frame. -/
theorem absorb_gathered (first : Frame) (later : List Frame) (g : Frame) :
    (gathered first later).absorb g.filed = gathered first (later ++ [g]) := by
  have hfroms : joinedFroms first (later ++ [g]) =
      ((joinedFroms first later).insert g.origin).union g.froms := by
    simp [joinedFroms]
  have hdetail : (first :: (later ++ [g])).findSome? detail =
      ((first :: later).findSome? detail).or g.detail := by
    rw [← List.cons_append, List.findSome?_append]
    congr 1
    cases h : g.detail <;> simp [h]
  simp only [absorb, filed, foldl_addTag, gathered, unseenTags_concat, hfroms, hdetail,
    firstVersion_cons, firstVersion_concat]
  by_cases hfirst : first.version = ""
  · by_cases hlater : firstVersion later = ""
    · by_cases hg : g.version = ""
      · simp [hfirst, hlater, hg, Bool.or_assoc]
      · simp [hfirst, hlater, hg, setVersion, Bool.or_assoc]
    · simp [hfirst, hlater, Bool.or_assoc]
  · simp [hfirst, Bool.or_assoc]

/-! ## What a record has -/

/-- A record has the provenances of its first frame, and of every later one also the one that it
comes from. -/
theorem contains_gathered (first : Frame) (later : List Frame) (p : Provenance) :
    (gathered first later).froms.contains p = true ↔
      first.froms.contains p = true ∨
        ∃ g ∈ later, g.origin = p ∨ g.froms.contains p = true := by
  have hjoin (s : Provenances) :
      (later.foldl (fun s g => (s.insert g.origin).union g.froms) s).contains p = true ↔
        s.contains p = true ∨ ∃ g ∈ later, g.origin = p ∨ g.froms.contains p = true := by
    induction later generalizing s with
    | nil => simp
    | cons g rest ih =>
        rw [List.foldl_cons, ih, Provenances.contains_union, Provenances.insert,
          Provenances.contains_union, Provenances.contains_singleton]
        simp [or_assoc]
  exact hjoin first.froms

/-- A record has the tags of all its frames. -/
theorem mem_tags_gathered (first : Frame) (later : List Frame) (tag : String) :
    tag ∈ (gathered first later).tags ↔ ∃ g ∈ first :: later, tag ∈ g.tags := by
  by_cases h : tag ∈ first.tags
  · simp [gathered, h]
  · simp [gathered, unseenTags, h]

end Frame

end Fingerprinting
