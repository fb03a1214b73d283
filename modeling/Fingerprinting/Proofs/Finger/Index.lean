/-
# The indices of a collection

Beside its fingers a collection keeps the places of the active ones, the places of those for every
port, and the names under the hashes of their icons.  Every finger that is filed is entered in all
of them at once, so they fit the fingers after any additions, also after such as end with an error.

* `Fingers.IsIndexed` says how the indices fit the fingers;
* `Fingers.IsIndexed.file` says that filing one finger keeps this, and `Fingers.Built.isIndexed`
  that it holds of every collection;
* `Fingers.isIndexed_addAll` is the main result.
-/
import Fingerprinting.Proofs.Dictionary
import Fingerprinting.Proofs.Finger.Filing

namespace Fingerprinting

/-! ## Icons -/

/-- The digests of an icon in the form in which they are compared. -/
def RuleIcon.digests (icon : RuleIcon) : List String := icon.md5.map normalDigest

/-- The hash numbers of an icon in the form in which they are compared. -/
def RuleIcon.numbers (icon : RuleIcon) : List String := icon.mmh3.map normalNumber

/-- The hashes of one kind that a rule lists. -/
def CompiledRule.iconHashes (hashes : RuleIcon → List String) (r : CompiledRule) : List String :=
  r.rule.favicon.elim [] hashes

/-- The hashes of one kind that the rules of a finger list. -/
def CompiledFinger.iconHashes (hashes : RuleIcon → List String) (f : CompiledFinger) :
    List String :=
  f.rules.flatMap (CompiledRule.iconHashes hashes)

/-- The dictionary with the same value under some keys. -/
def Dictionary.insertAll {α : Type} (d : Dictionary α) (keys : List String) (a : α) :
    Dictionary α :=
  keys.foldl (fun d key => d.insert key a) d

theorem Dictionary.insertAll_append {α : Type} (d : Dictionary α) (keys more : List String)
    (a : α) : d.insertAll (keys ++ more) a = (d.insertAll keys a).insertAll more a :=
  List.foldl_append

/-- Insertions change the value under their keys and no other. -/
theorem Dictionary.get?_insertAll {α : Type} (d : Dictionary α) (keys : List String) (a : α)
    (key : String) :
    (d.insertAll keys a).get? key = if key ∈ keys then some a else d.get? key := by
  induction keys generalizing d with
  | nil => rfl
  | cons k rest ih =>
      rw [insertAll, List.foldl_cons, ← insertAll, ih, get?_insert]
      by_cases hrest : key ∈ rest
      · rw [if_pos hrest, if_pos (List.mem_cons_of_mem k hrest)]
      · rw [if_neg hrest]
        exact if_congr (by simp [hrest, eq_comm]) rfl rfl

namespace Fingers

/-- The icons of a rule are filed under all of its hashes. -/
theorem fileIcons_eq (name : String) (s : Favicons) (r : CompiledRule) :
    fileIcons name s r =
      ⟨s.md5.insertAll (r.iconHashes RuleIcon.digests) name,
        s.mmh3.insertAll (r.iconHashes RuleIcon.numbers) name⟩ := by
  have hdigests (hashes : List String) (s : Favicons) :
      hashes.foldl (fun s hash => s.insertMd5 hash name) s =
        ⟨s.md5.insertAll (hashes.map normalDigest) name, s.mmh3⟩ := by
    induction hashes generalizing s with
    | nil => rfl
    | cons hash rest ih => exact ih (s.insertMd5 hash name)
  have hnumbers (hashes : List String) (s : Favicons) :
      hashes.foldl (fun s hash => s.insertMmh3 hash name) s =
        ⟨s.md5, s.mmh3.insertAll (hashes.map normalNumber) name⟩ := by
    induction hashes generalizing s with
    | nil => rfl
    | cons hash rest ih => exact ih (s.insertMmh3 hash name)
  rw [fileIcons, CompiledRule.iconHashes, CompiledRule.iconHashes]
  cases r.rule.favicon with
  | none => rfl
  | some icon =>
      dsimp only
      rw [hdigests, hnumbers]
      rfl

/-- The icons of a finger are filed under all hashes of its rules. -/
theorem foldl_fileIcons (name : String) (s : Favicons) (rules : List CompiledRule) :
    rules.foldl (fileIcons name) s =
      ⟨s.md5.insertAll (rules.flatMap (CompiledRule.iconHashes RuleIcon.digests)) name,
        s.mmh3.insertAll (rules.flatMap (CompiledRule.iconHashes RuleIcon.numbers)) name⟩ := by
  induction rules generalizing s with
  | nil => rfl
  | cons r rest ih =>
      rw [List.foldl_cons, ih, fileIcons_eq, List.flatMap_cons, List.flatMap_cons,
        Dictionary.insertAll_append, Dictionary.insertAll_append]

/-- The last of some fingers that lists a hash. -/
def lastLister? (hashes : RuleIcon → List String) (fs : List CompiledFinger) (hash : String) :
    Option CompiledFinger :=
  (fs.filter fun f => hash ∈ f.iconHashes hashes).getLast?

theorem lastLister?_concat (hashes : RuleIcon → List String) (fs : List CompiledFinger)
    (f : CompiledFinger) (hash : String) :
    lastLister? hashes (fs ++ [f]) hash =
      if hash ∈ f.iconHashes hashes then some f else lastLister? hashes fs hash := by
  unfold lastLister?
  rw [List.filter_append]
  by_cases hf : hash ∈ f.iconHashes hashes
  · simp [hf]
  · simp [hf]

/-- A finger is the last of some that lists a hash. -/
def IsLastLister (hashes : RuleIcon → List String) (fs : List CompiledFinger) (hash : String)
    (f : CompiledFinger) : Prop :=
  ∃ before after, fs = before ++ f :: after ∧ hash ∈ f.iconHashes hashes ∧
    ∀ g ∈ after, hash ∉ g.iconHashes hashes

/-- One of the fingers that list a hash is the last. -/
theorem exists_lastLister? {hashes : RuleIcon → List String} {fs : List CompiledFinger}
    {f : CompiledFinger} (hf : f ∈ fs) {hash : String} (hhash : hash ∈ f.iconHashes hashes) :
    ∃ last, IsLastLister hashes fs hash last ∧ lastLister? hashes fs hash = some last := by
  induction fs using List.reverseRecOn with
  | nil => cases hf
  | append_singleton fs g ih =>
      rw [lastLister?_concat]
      by_cases hg : hash ∈ g.iconHashes hashes
      · exact ⟨g, ⟨fs, [], rfl, hg, by simp⟩, if_pos hg⟩
      · have hfs : f ∈ fs := by
          rcases List.mem_append.mp hf with hf | hf
          · exact hf
          · exact absurd (List.mem_singleton.mp hf ▸ hhash) hg
        obtain ⟨last, ⟨before, after, rfl, hlast, hafter⟩, heq⟩ := ih hfs
        refine ⟨last, ⟨before, after ++ [g], by simp, hlast, ?_⟩, (if_neg hg).trans heq⟩
        intro h hh
        rcases List.mem_append.mp hh with hh | hh
        · exact hafter h hh
        · exact List.mem_singleton.mp hh ▸ hg

/-! ## How indices fit -/

/-- The indices of a collection fit its fingers. -/
structure IsIndexed (s : Fingers) : Prop where
  /-- The active fingers are listed in order, and none of them twice. -/
  active_sorted : s.active.Pairwise (· < ·)
  /-- The active fingers are those for HTTP with a rule that sends something. -/
  mem_active_iff : ∀ i, i ∈ s.active ↔
    ∃ f, s.http[i]? = some f ∧ ∃ r ∈ f.rules, r.payload.isSome = true
  /-- The fingers for a port are listed in order. -/
  group_sorted : ∀ port, (s.group port).Pairwise (· ≤ ·)
  /-- The fingers for a port are those for services that list it, alone or in a range; those that
  list none are for any port. -/
  mem_group_iff : ∀ port i, i ∈ s.group port ↔
    ∃ f, s.socket[i]? = some f ∧
      (port ∈ expandPorts f.ports ∨ port = anyPort ∧ expandPorts f.ports = [])
  /-- Under a digest stands the name of the last finger for HTTP that lists it. -/
  md5_eq : ∀ hash, s.favicons.md5.get? hash =
    (lastLister? RuleIcon.digests s.http hash).map fun f => f.finger.name
  /-- Under a hash number stands the name of the last finger for HTTP that lists it. -/
  mmh3_eq : ∀ hash, s.favicons.mmh3.get? hash =
    (lastLister? RuleIcon.numbers s.http hash).map fun f => f.finger.name

theorem isIndexed_nothing (options : FingerOptions) : IsIndexed { options } where
  active_sorted := .nil
  mem_active_iff := by simp
  group_sorted _ := .nil
  mem_group_iff := by simp [group]
  md5_eq _ := rfl
  mmh3_eq _ := rfl

/-- A place that is listed for a port is that of a finger. -/
theorem IsIndexed.lt_of_mem_group {s : Fingers} (h : s.IsIndexed) {port : String} {i : Nat}
    (hi : i ∈ s.group port) : i < s.socket.length := by
  obtain ⟨f, hf, -⟩ := (h.mem_group_iff port i).mp hi
  exact (List.getElem?_eq_some_iff.mp hf).1

/-- The ports under which a finger is filed. -/
theorem mem_filingPorts_iff (f : CompiledFinger) (port : String) :
    port ∈ filingPorts f ↔
      port ∈ expandPorts f.ports ∨ port = anyPort ∧ expandPorts f.ports = [] := by
  unfold filingPorts
  cases hports : expandPorts f.ports with
  | nil => simp
  | cons first rest => simp

/-- A finger for services is listed under a port as often as it lists it. -/
theorem group_addSocket (s : Fingers) (f : CompiledFinger) (port : String) :
    (s.addSocket f).group port =
      s.group port ++ List.replicate ((filingPorts f).count port) s.socket.length := by
  have hnew (ports : List String) :
      group { s with filings := ports.map fun p => (p, s.socket.length) } port =
        List.replicate (ports.count port) s.socket.length := by
    induction ports with
    | nil => rfl
    | cons p rest ih =>
        unfold group at ih ⊢
        rw [List.map_cons, List.filterMap_cons, ih]
        by_cases hp : p = port
        · simp [hp, List.replicate_succ]
        · simp [hp]
  rw [← hnew, group, addSocket, List.filterMap_append]
  rfl

namespace IsIndexed

variable {s : Fingers}

/-- A finger for HTTP is entered after the others. -/
theorem addHttp (h : s.IsIndexed) (f : CompiledFinger) : (s.addHttp f).IsIndexed := by
  have hlt : ∀ i ∈ s.active, i < s.http.length := by
    intro i hi
    obtain ⟨g, hg, -⟩ := (h.mem_active_iff i).mp hi
    exact (List.getElem?_eq_some_iff.mp hg).1
  have hactive : f.isActive = true ↔ ∃ r ∈ f.rules, r.payload.isSome = true := List.any_eq_true
  have hfavicons : (s.addHttp f).favicons =
      ⟨s.favicons.md5.insertAll (f.iconHashes RuleIcon.digests) f.finger.name,
        s.favicons.mmh3.insertAll (f.iconHashes RuleIcon.numbers) f.finger.name⟩ :=
    foldl_fileIcons f.finger.name s.favicons f.rules
  refine ⟨?_, fun i => ?_, h.group_sorted, h.mem_group_iff, fun hash => ?_, fun hash => ?_⟩
  · show (if f.isActive then s.active ++ [s.http.length] else s.active).Pairwise (· < ·)
    split
    · refine List.pairwise_append.mpr ⟨h.active_sorted, List.pairwise_singleton _ _, ?_⟩
      intro i hi j hj
      rw [List.mem_singleton.mp hj]
      exact hlt i hi
    · exact h.active_sorted
  · show i ∈ (if f.isActive then s.active ++ [s.http.length] else s.active) ↔
      ∃ g, (s.http ++ [f])[i]? = some g ∧ ∃ r ∈ g.rules, r.payload.isSome = true
    rw [Lists.exists_getElem?_concat_iff, ← h.mem_active_iff, ← hactive]
    split
    · rename_i hf
      simp [hf]
    · rename_i hf
      simp [hf]
  · rw [hfavicons, Dictionary.get?_insertAll, h.md5_eq]
    show _ = (lastLister? RuleIcon.digests (s.http ++ [f]) hash).map _
    rw [lastLister?_concat]
    split <;> rfl
  · rw [hfavicons, Dictionary.get?_insertAll, h.mmh3_eq]
    show _ = (lastLister? RuleIcon.numbers (s.http ++ [f]) hash).map _
    rw [lastLister?_concat]
    split <;> rfl

/-- A finger for services is entered after the others. -/
theorem addSocket (h : s.IsIndexed) (f : CompiledFinger) : (s.addSocket f).IsIndexed := by
  refine ⟨h.active_sorted, h.mem_active_iff, fun port => ?_, fun port i => ?_, h.md5_eq, h.mmh3_eq⟩
  · rw [group_addSocket]
    refine List.pairwise_append.mpr ⟨h.group_sorted port, ?_, fun i hi j hj => ?_⟩
    · exact List.pairwise_replicate.mpr (.inr le_rfl)
    · rw [(List.mem_replicate.mp hj).2]
      exact (h.lt_of_mem_group hi).le
  · rw [group_addSocket, List.mem_append, List.mem_replicate, h.mem_group_iff]
    show _ ↔ ∃ g, (s.socket ++ [f])[i]? = some g ∧
      (port ∈ expandPorts g.ports ∨ port = anyPort ∧ expandPorts g.ports = [])
    rw [Lists.exists_getElem?_concat_iff, ← Nat.pos_iff_ne_zero,
      List.count_pos_iff, mem_filingPorts_iff]
    exact or_congr_right and_comm

/-- Filing a finger keeps the indices. -/
theorem file (h : s.IsIndexed) (f : CompiledFinger) : (s.file f).IsIndexed :=
  file_induction s f h (fun _ => h.addHttp f) fun _ => h.addSocket f

theorem foldl_file (h : s.IsIndexed) (fs : List CompiledFinger) :
    (fs.foldl Fingers.file s).IsIndexed :=
  List.foldlRecOn fs Fingers.file h fun _ ht f _ => ht.file f

end IsIndexed

/-- The indices of every collection fit its fingers. -/
theorem Built.isIndexed {s : Fingers} (h : s.Built) : s.IsIndexed := by
  induction h with
  | @new http socket options s h =>
      have hfiled := (isIndexed_nothing options).foldl_file (compiled (http ++ socket))
      rw [Fingers.new, append_eq] at h
      split at h
      · rename_i hs
        cases h
        rwa [(Prod.mk.inj hs).1] at hfiled
      · cases h
  | append _ fingers ih =>
      rw [append_eq]
      exact ih.foldl_file _
  | change _ options ih =>
      exact ⟨ih.active_sorted, ih.mem_active_iff, ih.group_sorted, ih.mem_group_iff, ih.md5_eq,
        ih.mmh3_eq⟩

/-- After any additions to a collection, whether or not they end with errors, everything that was
compiled before an error is filed after what was there, in its order; the size counts what is
filed, and the indices fit.  So every hash that a finger for HTTP lists stands for the last finger
for HTTP that lists it. -/
theorem isIndexed_addAll {s : Fingers} (h : s.Built) (additions : List Addition) :
    let filed := additions.flatMap Addition.compiled
    let t := s.addAll additions
    t.http = s.http ++ filed.filter CompiledFinger.isHttp ∧
    t.socket = s.socket ++ filed.filter CompiledFinger.isSocket ∧
    t.size = s.size + (filed.filter CompiledFinger.isFiled).length ∧
    t.IsIndexed ∧
    (∀ f ∈ t.http, ∀ hash ∈ f.iconHashes RuleIcon.digests, ∃ last,
      IsLastLister RuleIcon.digests t.http hash last ∧
        t.favicons.md5.get? hash = some last.finger.name) ∧
    (∀ f ∈ t.http, ∀ hash ∈ f.iconHashes RuleIcon.numbers, ∃ last,
      IsLastLister RuleIcon.numbers t.http hash last ∧
        t.favicons.mmh3.get? hash = some last.finger.name) := by
  intro filed t
  have ht : t = filed.foldl file s := addAll_eq s additions
  have hindexed : t.IsIndexed := ht ▸ h.isIndexed.foldl_file filed
  refine ⟨?_, ?_, ?_, hindexed, fun f hf hash hhash => ?_, fun f hf hash hhash => ?_⟩
  · rw [ht, http_foldl_file]
  · rw [ht, socket_foldl_file]
  · rw [ht, size_foldl_file]
  · obtain ⟨last, hlast, heq⟩ := exists_lastLister? hf hhash
    exact ⟨last, hlast, by rw [hindexed.md5_eq, heq, Option.map_some]⟩
  · obtain ⟨last, hlast, heq⟩ := exists_lastLister? hf hhash
    exact ⟨last, hlast, by rw [hindexed.mmh3_eq, heq, Option.map_some]⟩

/-- Fingers that list a port twice, or a hash that another one lists in another spelling, and one
that cannot be compiled.  The hash is never listed in normal form. -/
def overlapping : List Finger := [
  { name := "ssh", protocol := "tcp", ports := ["22-23,22"] },
  { name := "old", rules := [{ favicon := some { md5 := [" AB "] } }, { payload := "x" }] },
  { name := "new", rules := [{ favicon := some { md5 := ["aB "] } }] },
  { name := "bad", rules := [{ patterns := some { version := ["("] } }] }]

/-- What stands before the bad finger is filed and entered everywhere. -/
theorem isIndexed_addAll_of_overlapping :
    Built {} ∧ (add {} (.list overlapping)).2.isSome = true ∧
      let t := addAll {} [.list overlapping, .yaml (Utf8.encode "- 1")]
      t.IsIndexed ∧ t.size = 3 ∧ t.active = [0] ∧ t.group "22" = [0, 0] ∧ t.group "23" = [0] ∧
        t.favicons.md5.get? "ab" = some "new" ∧ t.favicons.md5.get? " AB " = none ∧
        t.favicons.md5.get? "aB " = none := by
  refine ⟨built_nothing {}, by decide +kernel, ?_⟩
  intro t
  obtain ⟨-, -, -, hindexed, -, -⟩ :=
    isIndexed_addAll (built_nothing {}) [.list overlapping, .yaml (Utf8.encode "- 1")]
  refine ⟨hindexed, ?_⟩
  decide +kernel

end Fingers

end Fingerprinting
