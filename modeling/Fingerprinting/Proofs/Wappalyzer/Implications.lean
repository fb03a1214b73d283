/-
# What detected applications imply

A corpus tells of some applications what else is there when they are, and perhaps in which version.
Starting from what was detected, the applications that others imply are noted one turn after the
other, until nobody waits for a turn.

* `Closes` is the loop without a bound on its turns, and `closes_withImplied` says that it ends;
* `Closes.grows`, `Closes.settled` and `Closes.origin` say what all turns keep: versions are filled
  in and never changed, nothing that is told gets lost, and nothing else is noted;
* `withImplied_closure` is the main result.
-/
import Mathlib.Data.List.Perm.Subperm
import Mathlib.Logic.Relation
import Fingerprinting.Proofs.Dictionary
import Fingerprinting.Wappalyzer.Basic

namespace Fingerprinting.Wappalyzer

/-! ## Implications -/

/-- A known application tells that another one is there too, and perhaps its version. -/
def Tells (s : Wappalyzer) (name : String) (i : Implied) : Prop :=
  ∃ a, s.apps.get? name = some a ∧ i ∈ a.implies

/-- A known application implies another one. -/
def Implies (s : Wappalyzer) (name other : String) : Prop := ∃ i, s.Tells name i ∧ i.name = other

/-- An application is detected, or implied at once or through others by a detected one. -/
def Reached (s : Wappalyzer) (d : Detected) (name : String) : Prop :=
  ∃ start ∈ d.keys, Relation.ReflTransGen s.Implies start name

/-- All that an application tells; one that is not known tells nothing. -/
def told (s : Wappalyzer) (name : String) : List Implied :=
  ((s.apps.get? name).map App.implies).getD []

variable {s : Wappalyzer}

theorem mem_told_iff (name : String) (i : Implied) : i ∈ s.told name ↔ s.Tells name i := by
  unfold told Tells
  cases s.apps.get? name with
  | none => simp
  | some a => simp

theorem Reached.of_mem {d : Detected} {name : String} (h : name ∈ d.keys) : s.Reached d name :=
  ⟨name, h, .refl⟩

theorem Reached.tells {d : Detected} {name : String} {i : Implied} (h : s.Reached d name)
    (hi : s.Tells name i) : s.Reached d i.name := by
  obtain ⟨start, hstart, hpath⟩ := h
  exact ⟨start, hstart, hpath.tail ⟨i, hi, rfl⟩⟩

/-! ## Notes -/

namespace Detected

/-- Note all that an application tells. -/
def noteAll (d : Detected) (told : List Implied) : Detected :=
  told.foldl (fun d i => Detected.note d i.name (i.version.getD "")) d

/-- Every application stays, and keeps its version when it has one. -/
def Grows (d e : Detected) : Prop :=
  ∀ name v, d.get? name = some v → ∃ w, e.get? name = some w ∧ (v ≠ "" → w = v)

/-- What is told has been noted: the application is there, and has a version if one is told. -/
def Knows (d : Detected) (i : Implied) : Prop :=
  ∃ w, d.get? i.name = some w ∧ (w = "" → i.version.getD "" = "")

theorem Grows.refl (d : Detected) : Grows d d := fun _ v h => ⟨v, h, fun _ => rfl⟩

theorem Grows.trans {d e f : Detected} (h : Grows d e) (h' : Grows e f) : Grows d f := by
  intro name v hv
  obtain ⟨w, hw, hkept⟩ := h name v hv
  obtain ⟨u, hu, hkept'⟩ := h' name w hw
  refine ⟨u, hu, fun hne => ?_⟩
  have hwv := hkept hne
  rw [← hwv]
  exact hkept' (hwv ▸ hne)

theorem Knows.mono {d e : Detected} {i : Implied} (h : Knows d i) (hgrows : Grows d e) :
    Knows e i := by
  obtain ⟨w, hw, hversion⟩ := h
  obtain ⟨u, hu, hkept⟩ := hgrows i.name w hw
  refine ⟨u, hu, fun hempty => hversion ?_⟩
  by_contra hne
  exact hne (hkept hne ▸ hempty)

/-- A note fills in what is missing under one name, and changes nothing else. -/
theorem get?_note (d : Detected) (name version other : String) :
    (d.note name version).get? other =
      if name = other then
        some (match d.get? name with
          | some v => if v = "" then version else v
          | none => version)
      else d.get? other :=
  Dictionary.get?_insert d name other _

theorem grows_note (d : Detected) (name version : String) : Grows d (d.note name version) := by
  intro other v hv
  rw [get?_note]
  split
  · rename_i heq
    subst heq
    refine ⟨_, rfl, fun hne => ?_⟩
    rw [hv]
    exact if_neg hne
  · exact ⟨v, hv, fun _ => rfl⟩

theorem knows_note (d : Detected) (i : Implied) : Knows (d.note i.name (i.version.getD "")) i := by
  refine ⟨_, by rw [get?_note, if_pos rfl], fun hempty => ?_⟩
  split at hempty
  · split at hempty
    · exact hempty
    · contradiction
  · exact hempty

/-- A note has the version that was there or the one that is noted. -/
theorem of_get?_note {d : Detected} {name version other w : String}
    (h : (d.note name version).get? other = some w) :
    d.get? other = some w ∨ name = other ∧ version = w := by
  rw [get?_note] at h
  split at h
  · rename_i heq
    subst heq
    rw [Option.some.injEq] at h
    split at h
    · rename_i v hv
      split at h
      · exact .inr ⟨rfl, h⟩
      · exact .inl (h ▸ hv)
    · exact .inr ⟨rfl, h⟩
  · exact .inl h

theorem grows_noteAll (d : Detected) (told : List Implied) : Grows d (d.noteAll told) := by
  induction told generalizing d with
  | nil => exact .refl d
  | cons i rest ih => exact (grows_note d _ _).trans (ih _)

theorem knows_noteAll (d : Detected) (told : List Implied) :
    ∀ i ∈ told, Knows (d.noteAll told) i := by
  induction told generalizing d with
  | nil => simp
  | cons j rest ih =>
      intro i hi
      rcases List.mem_cons.mp hi with rfl | hi
      · exact (knows_note d i).mono (grows_noteAll _ rest)
      · exact ih _ i hi

theorem of_get?_noteAll {d : Detected} {told : List Implied} {name w : String}
    (h : (d.noteAll told).get? name = some w) :
    d.get? name = some w ∨ ∃ i ∈ told, i.name = name ∧ i.version.getD "" = w := by
  induction told generalizing d with
  | nil => exact .inl h
  | cons j rest ih =>
      rcases ih h with hbefore | ⟨i, hi, hnoted⟩
      · exact (of_get?_note hbefore).imp_right fun hj => ⟨j, List.mem_cons_self, hj⟩
      · exact .inr ⟨i, List.mem_cons_of_mem _ hi, hnoted⟩

end Detected

/-! ## Turns -/

/-- The applications that one implies and whose turn neither has come nor will come. -/
def fresh (s : Wappalyzer) (name : String) (visited : List String) : List String :=
  ((s.told name).map Implied.name).eraseDups.filter fun n => !visited.contains n

/-- From a queue of applications that wait for their turn, the ones whose turn has come or will
come, and what has been noted, the turns lead to what is noted in the end. -/
inductive Closes (s : Wappalyzer) : List String → List String → Detected → Detected → Prop where
  | done (visited : List String) (d : Detected) : Closes s [] visited d d
  | turn {name : String} {queue visited : List String} {d e : Detected}
      (h : Closes s ((s.fresh name visited).reverse ++ queue) (visited ++ s.fresh name visited)
        (d.noteAll (s.told name)) e) : Closes s (name :: queue) visited d e

/-- The names that stand in the implications of a corpus. -/
def impliedNames (s : Wappalyzer) : List String :=
  (s.apps.values.flatMap fun a => a.implies).map Implied.name

/-- A bound on the turns that are left: every application that waits has one, and so may every one
that is implied and has not been visited. -/
def turnsLeft (s : Wappalyzer) (queue visited : List String) : Nat :=
  queue.length + (s.impliedNames.filter fun n => !visited.contains n).length

theorem mem_impliedNames {name : String} {i : Implied} (h : s.Tells name i) :
    i.name ∈ s.impliedNames := by
  obtain ⟨a, ha, hi⟩ := h
  exact List.mem_map_of_mem (List.mem_flatMap.mpr ⟨a, Dictionary.mem_values_of_get? ha, hi⟩)

theorem mem_fresh_iff (name other : String) (visited : List String) :
    other ∈ s.fresh name visited ↔ s.Implies name other ∧ other ∉ visited := by
  simp only [fresh, List.mem_filter, List.mem_eraseDups, List.mem_map, mem_told_iff, Implies,
    Bool.not_eq_true', List.contains_eq_mem, decide_eq_false_iff_not]

/-- A turn takes one of the turns that are left: what it puts into the queue has not been visited
before. -/
theorem turnsLeft_turn (name : String) (queue visited : List String) :
    s.turnsLeft ((s.fresh name visited).reverse ++ queue) (visited ++ s.fresh name visited) <
      s.turnsLeft (name :: queue) visited := by
  have hnodup : (s.fresh name visited).Nodup :=
    (Lists.nodup_eraseDups _).filter _
  have hfresh : s.fresh name visited ⊆
      (s.impliedNames.filter fun n => !visited.contains n).filter
        fun n => (s.fresh name visited).contains n := by
    intro n hn
    obtain ⟨⟨i, hi, rfl⟩, hvisited⟩ := (mem_fresh_iff name n visited).mp hn
    simp [mem_impliedNames hi, hvisited, hn]
  have hrest : (s.impliedNames.filter fun n => !(visited ++ s.fresh name visited).contains n) =
      (s.impliedNames.filter fun n => !visited.contains n).filter
        fun n => !(s.fresh name visited).contains n := by
    rw [List.filter_filter]
    congr 1
    funext n
    simp [Bool.and_comm]
  have hlength := (hnodup.subperm hfresh).length_le
  have hsplit := List.length_eq_length_filter_add (fun n => (s.fresh name visited).contains n)
    (l := s.impliedNames.filter fun n => !visited.contains n)
  unfold turnsLeft
  rw [hrest, List.length_append, List.length_reverse, List.length_cons]
  omega

theorem closes_close (turns : Nat) (queue visited : List String) (d : Detected)
    (h : s.turnsLeft queue visited ≤ turns) :
    s.Closes queue visited d (s.close turns queue visited d) := by
  induction turns generalizing queue visited d with
  | zero =>
      have hqueue : queue = [] := by
        rw [← List.length_eq_zero_iff]
        unfold turnsLeft at h
        omega
      subst hqueue
      exact .done visited d
  | succ turns ih =>
      cases queue with
      | nil => exact .done visited d
      | cons name queue =>
          have hturn := turnsLeft_turn (s := s) name queue visited
          exact .turn (ih _ _ _ (by omega))

/-- The turns end, and what is noted in the end is what the corpus makes of the detected
applications. -/
theorem closes_withImplied (s : Wappalyzer) (d : Detected) :
    s.Closes d.keys.reverse d.keys d (s.withImplied d) := by
  apply closes_close
  have hnames : s.impliedNames.length = (s.apps.values.flatMap fun a => a.implies).length :=
    List.length_map _
  have hkeys : d.keys.length = d.size := List.length_map _
  have hfilter := List.length_filter_le (fun n => !d.keys.contains n) s.impliedNames
  unfold turnsLeft reach
  rw [List.length_reverse]
  omega

/-! ## What turns keep -/

variable {queue visited : List String} {d e : Detected}

/-- Versions are filled in and never changed. -/
theorem Closes.grows (h : s.Closes queue visited d e) : d.Grows e := by
  induction h with
  | done => exact .refl _
  | turn _ ih => exact (Detected.grows_noteAll _ _).trans ih

/-- All that has been told by the ones whose turn has come is known, and they are all that do not
wait. -/
def Settled (s : Wappalyzer) (queue visited : List String) (d : Detected) : Prop :=
  ∀ name ∈ visited, name ∉ queue → ∀ i, s.Tells name i → i.name ∈ visited ∧ d.Knows i

/-- A turn settles one application. -/
theorem Settled.turn {name : String} (h : s.Settled (name :: queue) visited d) :
    s.Settled ((s.fresh name visited).reverse ++ queue) (visited ++ s.fresh name visited)
      (d.noteAll (s.told name)) := by
  intro other hother hqueue i hi
  rw [List.mem_append, List.mem_reverse, not_or] at hqueue
  have hvisited : other ∈ visited := (List.mem_append.mp hother).resolve_right hqueue.1
  by_cases hname : other = name
  · subst hname
    refine ⟨?_, Detected.knows_noteAll d _ i ((mem_told_iff other i).mpr hi)⟩
    by_cases hseen : i.name ∈ visited
    · exact List.mem_append_left _ hseen
    · exact List.mem_append_right _ ((mem_fresh_iff _ _ _).mpr ⟨⟨i, hi, rfl⟩, hseen⟩)
  · have hwaiting := List.not_mem_cons_of_ne_of_not_mem hname hqueue.2
    obtain ⟨hseen, hknows⟩ := h other hvisited hwaiting i hi
    exact ⟨List.mem_append_left _ hseen, hknows.mono (Detected.grows_noteAll d _)⟩

/-- In the end everything that an application tells is known, for all whose turn has come. -/
theorem Closes.settled (h : s.Closes queue visited d e) (hsettled : s.Settled queue visited d) :
    ∃ all, visited ⊆ all ∧ s.Settled [] all e := by
  induction h with
  | done visited d => exact ⟨visited, fun _ hname => hname, hsettled⟩
  | turn _ ih =>
      obtain ⟨all, hall, hend⟩ := ih hsettled.turn
      exact ⟨all, fun _ hname => hall (List.mem_append_left _ hname), hend⟩

/-- A version was detected, or is told by an application that has been reached. -/
def Origin (s : Wappalyzer) (detected : Detected) (name version : String) : Prop :=
  detected.get? name = some version ∨
    ∃ other i, s.Reached detected other ∧ s.Tells other i ∧ i.name = name ∧
      i.version.getD "" = version

/-- Nothing is noted but what was detected and what is told by applications that have been
reached. -/
theorem Closes.origin {detected : Detected} (h : s.Closes queue visited d e)
    (hqueue : ∀ name ∈ queue, s.Reached detected name)
    (hnoted : ∀ name version, d.get? name = some version → s.Origin detected name version) :
    ∀ name version, e.get? name = some version → s.Origin detected name version := by
  induction h with
  | done => exact hnoted
  | @turn name queue visited d e _ ih =>
      obtain ⟨hname, hqueue⟩ := List.forall_mem_cons.mp hqueue
      apply ih
      · intro other hother
        rcases List.mem_append.mp hother with hother | hother
        · obtain ⟨⟨i, hi, rfl⟩, -⟩ := (mem_fresh_iff _ _ _).mp (List.mem_reverse.mp hother)
          exact hname.tells hi
        · exact hqueue other hother
      · intro other version hversion
        rcases Detected.of_get?_noteAll hversion with hbefore | ⟨i, hi, hother, htold⟩
        · exact hnoted other version hbefore
        · exact .inr ⟨name, i, hname, (mem_told_iff name i).mp hi, hother, htold⟩

/-! ## The end -/

/-- An application is known in the end when it has been reached, and what is told by applications
that have been reached is known. -/
theorem knows_withImplied (s : Wappalyzer) (d : Detected) :
    (∀ name, s.Reached d name → name ∈ (s.withImplied d).keys) ∧
      ∀ name i, s.Reached d name → s.Tells name i → (s.withImplied d).Knows i := by
  have hcloses := s.closes_withImplied d
  have hstart : s.Settled d.keys.reverse d.keys d := fun name hname hqueue =>
    absurd (List.mem_reverse.mpr hname) hqueue
  obtain ⟨all, hall, hsettled⟩ := hcloses.settled hstart
  -- Who has been visited in the end has told everything, so the visited are closed under edges.
  have hreached : ∀ name, s.Reached d name → name ∈ all := by
    rintro name ⟨start, hmem, hpath⟩
    induction hpath with
    | refl => exact hall hmem
    | tail _ hedge ih =>
        obtain ⟨i, hi, rfl⟩ := hedge
        exact (hsettled _ ih List.not_mem_nil i hi).1
  have hknows : ∀ name i, s.Reached d name → s.Tells name i → (s.withImplied d).Knows i :=
    fun name i hname hi => (hsettled name (hreached name hname) List.not_mem_nil i hi).2
  refine ⟨?_, hknows⟩
  rintro name ⟨start, hmem, hpath⟩
  rw [Dictionary.mem_keys_iff]
  cases hpath with
  | refl =>
      obtain ⟨v, hv⟩ := Option.isSome_iff_exists.mp ((Dictionary.mem_keys_iff d name).mp hmem)
      obtain ⟨w, hw, -⟩ := hcloses.grows name v hv
      rw [hw]
      rfl
  | tail hpath hedge =>
      obtain ⟨i, hi, rfl⟩ := hedge
      obtain ⟨w, hw, -⟩ := hknows _ i ⟨start, hmem, hpath⟩ hi
      rw [hw]
      rfl

/-- Whatever is noted in the end was detected or is told by an application that has been reached. -/
theorem origin_withImplied (s : Wappalyzer) (d : Detected) {name version : String}
    (h : (s.withImplied d).get? name = some version) : s.Origin d name version :=
  (s.closes_withImplied d).origin
    (fun _ hname => .of_mem (List.mem_reverse.mp hname)) (fun _ _ hversion => .inl hversion) _ _ h

/-- Whatever the implications of a corpus are, the turns end.  Then exactly the applications are
there that can be reached from the detected ones; a detected version stays; and an application
without one has a version that some application there tells, or none if no application there tells
one. -/
theorem withImplied_closure (s : Wappalyzer) (d : Detected) :
    s.Closes d.keys.reverse d.keys d (s.withImplied d) ∧
    (∀ name, name ∈ (s.withImplied d).keys ↔ s.Reached d name) ∧
    (∀ name v, d.get? name = some v → v ≠ "" → (s.withImplied d).get? name = some v) ∧
    ∀ name, s.Reached d name → (d.get? name).getD "" = "" →
      (∃ other i v, s.Reached d other ∧ s.Tells other i ∧ i.name = name ∧ i.version = some v ∧
        v ≠ "" ∧ (s.withImplied d).get? name = some v) ∨
      ((s.withImplied d).get? name = some "" ∧
        ∀ other i, s.Reached d other → s.Tells other i → i.name = name →
          i.version.getD "" = "") := by
  obtain ⟨hreached, hknows⟩ := s.knows_withImplied d
  refine ⟨s.closes_withImplied d, fun name => ⟨fun hname => ?_, hreached name⟩, ?_, ?_⟩
  · obtain ⟨w, hw⟩ := Option.isSome_iff_exists.mp ((Dictionary.mem_keys_iff _ name).mp hname)
    rcases s.origin_withImplied d hw with hdetected | ⟨other, i, hother, hi, rfl, -⟩
    · exact .of_mem ((Dictionary.mem_keys_iff d name).mpr (by rw [hdetected]; rfl))
    · exact hother.tells hi
  · intro name v hv hne
    obtain ⟨w, hw, hkept⟩ := (s.closes_withImplied d).grows name v hv
    rw [hw, hkept hne]
  · intro name hname hmissing
    obtain ⟨w, hw⟩ :=
      Option.isSome_iff_exists.mp ((Dictionary.mem_keys_iff _ name).mp (hreached name hname))
    by_cases hempty : w = ""
    · refine .inr ⟨hempty ▸ hw, fun other i hother hi hiname => ?_⟩
      obtain ⟨u, hu, htold⟩ := hknows other i hother hi
      rw [hiname, hw, Option.some.injEq] at hu
      exact htold (hu ▸ hempty)
    · rcases s.origin_withImplied d hw with hdetected | ⟨other, i, hother, hi, hiname, hversion⟩
      · rw [hdetected] at hmissing
        exact absurd hmissing hempty
      · refine .inl ⟨other, i, w, hother, hi, hiname, ?_, hempty, hw⟩
        cases htold : i.version with
        | none =>
            rw [htold] at hversion
            exact absurd hversion.symm hempty
        | some v =>
            rw [htold] at hversion
            exact congrArg some hversion

/-- Applications that imply one another and themselves, and one that is not known. -/
example :
    let app (name : String) (implies : List String) : String × App :=
      (name, App.compile .empty name { implies })
    let s : Wappalyzer :=
      ⟨.ofList [app "a" ["a\\;version:1", "b\\;version:2"], app "b" ["a\\;version:3", "c"]]⟩
    (s.withImplied (.ofList [("b", "4")])).entries = [("a", "3"), ("b", "4"), ("c", "")] := by
  decide +kernel

end Fingerprinting.Wappalyzer
