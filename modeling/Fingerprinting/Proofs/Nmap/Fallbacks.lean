/-
# Fallbacks

A reply that no rule of a probe matches is tried against the rules of its fallback, of the fallback
of that one, and so on.  Fallbacks come from files and from tuning and may lead anywhere, also in a
circle, so no probe is asked twice.  That makes every search end, for each step leaves one place
less that has not been visited.

* `wellFounded_advance` says that every search ends, whatever the fallbacks are;
* `trail_path` says that `Tables.path` is the whole way along the fallbacks, and `Trail.unique`
  that there is one such way only;
* `search_of_trail` says what a search along it finds.

Main statement: `fingerprint_first`.
-/
import Fingerprinting.Proofs.Nmap.Lookups
import Fingerprinting.Proofs.Nmap.SoftRules

namespace Fingerprinting.Nmap.Catalog

open Tables

variable {c : Catalog} {data : Bytes} {visited path : List Nat} {place next : Nat}

/-! ## Places that have not been visited -/

/-- The places of a catalog that have not been visited. -/
def unvisited (c : Catalog) (visited : List Nat) : Finset Nat :=
  Finset.range c.size \ visited.toFinset

/-- A visit leaves one place less. -/
theorem card_unvisited_lt (hplace : c.IsPlace place) (hfresh : place ∉ visited) :
    (c.unvisited (place :: visited)).card < (c.unvisited visited).card := by
  have hmem : place ∈ c.unvisited visited := by
    simpa [unvisited, hfresh] using (show place < c.size from hplace)
  rw [unvisited, List.toFinset_cons, Finset.sdiff_insert]
  exact Finset.card_erase_lt_of_mem hmem

/-! ## Searches -/

/-- A search along the fallbacks: what the last probe says about a reply, the places that have been
visited and the one to go to. -/
structure Search where
  found : Fingerprint
  visited : List Nat
  next : Option Nat

/-- The search goes on to the next probe, unless the reply is recognised, or there is no next probe,
or it has been visited. -/
def Search.advance? (c : Catalog) (data : Bytes) (s : Search) : Option Search := do
  let next ← s.next
  let p ← c.probes[next]?
  if s.found.isMatched || s.visited.contains next then none
  else some ⟨p.respond data, next :: s.visited, c.next? next⟩

/-- The search at a probe. -/
def Search.at (c : Catalog) (data : Bytes) (visited : List Nat) (place : Nat) (p : Probe) :
    Search :=
  ⟨p.respond data, place :: visited, c.next? place⟩

theorem Search.advance?_eq_some_iff (s s' : Search) :
    s.advance? c data = some s' ↔
      ∃ next p, s.next = some next ∧ c.probes[next]? = some p ∧ s.found.isMatched = false ∧
        next ∉ s.visited ∧ s' = .at c data s.visited next p := by
  simp only [advance?, Option.bind_eq_bind, Option.bind_eq_some_iff, Option.ite_none_left_eq_some,
    Bool.or_eq_true, not_or, Bool.not_eq_true, List.contains_eq_mem, decide_eq_false_iff_not,
    Option.some.injEq]
  constructor
  · rintro ⟨next, hnext, p, hp, ⟨hfound, hfresh⟩, rfl⟩
    exact ⟨next, p, hnext, hp, hfound, hfresh, rfl⟩
  · rintro ⟨next, p, hnext, hp, hfound, hfresh, rfl⟩
    exact ⟨next, hnext, p, hp, ⟨hfound, hfresh⟩, rfl⟩

/-- Every search ends, whatever the fallbacks are. -/
theorem wellFounded_advance (c : Catalog) (data : Bytes) :
    WellFounded fun s' s : Search => s.advance? c data = some s' := by
  refine Subrelation.wf (fun {s' s} h => ?_)
    (InvImage.wf (fun s : Search => (c.unvisited s.visited).card) wellFounded_lt)
  obtain ⟨next, p, -, hp, -, hfresh, rfl⟩ := (s.advance?_eq_some_iff s').mp h
  exact card_unvisited_lt (List.getElem?_eq_some_iff.mp hp).1 hfresh

/-! ## Ways along the fallbacks -/

/-- The way along the fallbacks from a place on: every other place is the fallback of the one before
it, none comes twice, and the fallback of the last one, if there is any, is on the way already. -/
structure IsWay (c : Catalog) (place : Nat) (path : List Nat) : Prop where
  head : path.head? = some place
  follows : path.IsChain fun i j => c.next? i = some j
  nodup : path.Nodup
  ends : ∀ last ∈ path.getLast?, ∀ next, c.next? last = some next → next ∈ path

/-- The way from a place on that leads to none of those visited before. -/
inductive Trail (c : Catalog) : List Nat → Nat → List Nat → Prop where
  | last {visited : List Nat} {place : Nat} (hfresh : place ∉ visited)
      (hends : ∀ next, c.next? place = some next → next ∈ place :: visited) :
      Trail c visited place [place]
  | onward {visited path : List Nat} {place next : Nat} (hfresh : place ∉ visited)
      (hnext : c.next? place = some next) (h : Trail c (place :: visited) next path) :
      Trail c visited place (place :: path)

namespace Trail

theorem head (h : c.Trail visited place path) : path.head? = some place := by
  cases h with
  | last => rfl
  | onward => rfl

theorem fresh (h : c.Trail visited place path) : ∀ i ∈ path, i ∉ visited := by
  induction h with
  | last hfresh => simpa using hfresh
  | onward hfresh _ _ ih =>
      refine List.forall_mem_cons.mpr ⟨hfresh, fun i hi hvisited => ?_⟩
      exact ih i hi (List.mem_cons_of_mem _ hvisited)

theorem nodup (h : c.Trail visited place path) : path.Nodup := by
  induction h with
  | last => exact List.nodup_singleton _
  | onward _ _ h ih =>
      exact List.nodup_cons.mpr ⟨fun hmem => h.fresh _ hmem List.mem_cons_self, ih⟩

theorem follows (h : c.Trail visited place path) :
    path.IsChain fun i j => c.next? i = some j := by
  induction h with
  | last => exact List.isChain_singleton _
  | onward _ hnext h ih =>
      refine List.isChain_cons.mpr ⟨fun i hi => ?_, ih⟩
      rw [h.head] at hi
      cases hi
      exact hnext

theorem ends (h : c.Trail visited place path) :
    ∀ last ∈ path.getLast?, ∀ next, c.next? last = some next → next ∈ path ∨ next ∈ visited := by
  induction h with
  | last _ hends =>
      rintro _ ⟨⟩ next hnext
      simpa using hends next hnext
  | @onward visited path place _ _ _ h ih =>
      intro last hlast next hnext
      have hne : path ≠ [] := by
        rintro rfl
        cases h
      rw [List.getLast?_cons_of_ne_nil hne] at hlast
      rcases ih last hlast next hnext with hmem | hmem
      · exact .inl (List.mem_cons_of_mem _ hmem)
      · rcases List.mem_cons.mp hmem with rfl | hmem
        · exact .inl List.mem_cons_self
        · exact .inr hmem

/-- There is one way only. -/
theorem unique {other : List Nat} (h : c.Trail visited place path)
    (h' : c.Trail visited place other) : path = other := by
  induction h generalizing other with
  | last _ hends =>
      cases h' with
      | last => rfl
      | onward _ hnext h' =>
          exact absurd (hends _ hnext) (h'.fresh _ (List.mem_of_mem_head? h'.head))
  | onward _ hnext h ih =>
      cases h' with
      | last _ hends => exact absurd (hends _ hnext) (h.fresh _ (List.mem_of_mem_head? h.head))
      | onward _ hnext' h' =>
          rw [hnext] at hnext'
          cases hnext'
          rw [ih h']

theorem isWay (h : c.Trail [] place path) : c.IsWay place path where
  head := h.head
  follows := h.follows
  nodup := h.nodup
  ends := by simpa using h.ends

end Trail

/-- A way that leads to none of those visited before, by its steps. -/
theorem trail_of_steps (visited path : List Nat) (place : Nat) (hhead : path.head? = some place)
    (hfollows : path.IsChain fun i j => c.next? i = some j) (hnodup : path.Nodup)
    (hfresh : ∀ i ∈ path, i ∉ visited)
    (hends : ∀ last ∈ path.getLast?, ∀ next, c.next? last = some next →
      next ∈ path ∨ next ∈ visited) :
    c.Trail visited place path := by
  induction path generalizing visited place with
  | nil => cases hhead
  | cons i rest ih =>
      obtain rfl : i = place := Option.some.inj hhead
      obtain ⟨hi, hrest⟩ := List.nodup_cons.mp hnodup
      cases rest with
      | nil =>
          refine .last (hfresh i List.mem_cons_self) fun next hnext => ?_
          exact List.mem_cons.mpr ((hends i rfl next hnext).imp_left List.mem_singleton.mp)
      | cons next rest =>
          obtain ⟨hnext, hchain⟩ := List.isChain_cons_cons.mp hfollows
          refine .onward (hfresh i List.mem_cons_self) hnext
            (ih (i :: visited) next rfl hchain hrest ?_ ?_)
          · intro j hmem hvisited
            rcases List.mem_cons.mp hvisited with rfl | hvisited
            · exact hi hmem
            · exact hfresh j (List.mem_cons_of_mem _ hmem) hvisited
          · intro last hlast next' hnext'
            rw [List.getLast?_cons_of_ne_nil (List.cons_ne_nil next rest)] at hends
            rcases hends last hlast next' hnext' with hmem | hmem
            · rcases List.mem_cons.mp hmem with rfl | hmem
              · exact .inr List.mem_cons_self
              · exact .inl hmem
            · exact .inr (List.mem_cons_of_mem _ hmem)

theorem IsWay.trail (h : c.IsWay place path) : c.Trail [] place path :=
  trail_of_steps [] path place h.head h.follows h.nodup (by simp)
    fun last hlast next hnext => .inl (h.ends last hlast next hnext)

/-! ## The path of a catalog -/

/-- The path with enough fuel is the whole way. -/
theorem trail_pathFrom (fuel : Nat) (hplace : c.IsPlace place) (hfresh : place ∉ visited)
    (hfuel : (c.unvisited visited).card < fuel) :
    c.Trail visited place (c.pathFrom fuel visited place) := by
  -- A step takes one from the fuel and one from the places that have not been visited.
  induction fuel generalizing visited place with
  | zero => exact absurd hfuel (Nat.not_lt_zero _)
  | succ fuel ih =>
      have hless := card_unvisited_lt hplace hfresh
      rw [pathFrom, if_neg (by simpa using hfresh)]
      cases hnext : c.next? place with
      | none => exact .last hfresh (by simp [hnext])
      | some next =>
          by_cases hvisited : next ∈ place :: visited
          · -- The next place has been visited, and the path from there is empty.
            have hnil : c.pathFrom fuel (place :: visited) next = [] := by
              cases fuel with
              | zero => rfl
              | succ fuel => rw [pathFrom, if_pos (List.contains_iff_mem.mpr hvisited)]
            simp only [hnil]
            refine .last hfresh fun other hother => ?_
            rw [hnext] at hother
            cases hother
            exact hvisited
          · exact .onward hfresh hnext
              (ih (c.sound.isPlace_of_next? hnext) hvisited (by omega))

/-- The fuel of a catalog is enough for every way. -/
theorem trail_path (hplace : c.IsPlace place) : c.Trail [] place (c.path place) := by
  refine trail_pathFrom (c.size + 1) hplace List.not_mem_nil ?_
  simp [unvisited]

/-- There are at most as many places on a way as there are probes. -/
theorem length_path_le (hplace : c.IsPlace place) : (c.path place).length ≤ c.size := by
  have hsubset : c.path place ⊆ List.range c.size := fun i hi =>
    List.mem_range.mpr (c.sound.isPlace_of_mem_path hplace hi)
  have hlength := ((trail_path hplace).nodup.subperm hsubset).length_le
  rwa [List.length_range] at hlength

/-! ## Replies -/

/-- A rule of the probe at a place matches a reply. -/
def recognises (c : Catalog) (data : Bytes) (place : Nat) : Bool :=
  (c.probes[place]?).any fun p => p.rules.any fun m => m.isMatch data

section

variable {p : Probe}

theorem isMatched_respond (hc : c.IsCompiled) (hp : c.probes[place]? = some p) :
    (p.respond data).isMatched = c.recognises data place := by
  rw [(hc p (List.mem_of_getElem? hp)).isMatched_respond data, recognises, hp, Option.any_some]

theorem respond_of_not_recognises (hp : c.probes[place]? = some p)
    (h : c.recognises data place = false) : p.respond data = {} := by
  rw [recognises, hp, Option.any_some] at h
  exact Probe.respond_of_unmatched (List.find?_eq_none.mpr (List.any_eq_false.mp h))

/-- The first of some probes speaks if a rule of it matches, and the others speak if none does. -/
theorem recognise_cons (hc : c.IsCompiled) (hp : c.probes[place]? = some p) (rest : List Nat) :
    c.recognise data (place :: rest) =
      if c.recognises data place then p.respond data else c.recognise data rest := by
  simp only [recognise, hp, isMatched_respond hc hp]

end

/-- What the first of some probes of which a rule matches a reply says about it. -/
theorem recognise_of_find? (hc : c.IsCompiled) (h : path.find? (c.recognises data) = some place) :
    ∃ p, c.probes[place]? = some p ∧ c.recognise data path = p.respond data := by
  induction path with
  | nil => cases h
  | cons other rest ih =>
      cases hother : c.probes[other]? with
      | none =>
          have hnot : c.recognises data other = false := by rw [recognises, hother, Option.any_none]
          rw [List.find?_cons_of_neg (by simp [hnot])] at h
          obtain ⟨p, hp, hrest⟩ := ih h
          refine ⟨p, hp, ?_⟩
          simp only [recognise, hother, hrest]
      | some q =>
          rw [recognise_cons hc hother]
          cases hq : c.recognises data other with
          | true =>
              rw [List.find?_cons_of_pos hq] at h
              cases h
              exact ⟨q, hother, if_pos rfl⟩
          | false =>
              rw [List.find?_cons_of_neg (by simp [hq])] at h
              exact ih h

/-- Nothing is known of a reply that no rule of some probes matches. -/
theorem recognise_of_unmatched (hc : c.IsCompiled)
    (h : path.find? (c.recognises data) = none) : c.recognise data path = {} := by
  induction path with
  | nil => rfl
  | cons other rest ih =>
      obtain ⟨hother, hrest⟩ := List.forall_mem_cons.mp (List.find?_eq_none.mp h)
      have hih := ih (List.find?_eq_none.mpr hrest)
      cases hq : c.probes[other]? with
      | none => simp only [recognise, hq, hih]
      | some q => rw [recognise_cons hc hq, if_neg hother, hih]

/-! ## Ends of searches -/

/-- A search ends with what the first probe on the way that recognises the reply says about it. -/
theorem search_of_trail (hc : c.IsCompiled) (data : Bytes) (h : c.Trail visited place path)
    {p : Probe} (hp : c.probes[place]? = some p) :
    ∃ s : Search,
      Relation.ReflTransGen (fun s s' => s.advance? c data = some s')
        (.at c data visited place p) s ∧
      s.advance? c data = none ∧ s.found = c.recognise data path := by
  -- The search goes one step along the way, unless the probe at its start recognises the reply.
  induction h generalizing p with
  | @last visited place _ hends =>
      refine ⟨.at c data visited place p, .refl, ?_, ?_⟩
      · refine Option.eq_none_iff_forall_not_mem.mpr fun s' hs' => ?_
        obtain ⟨next, -, hnext, -, -, hfresh, -⟩ := (Search.advance?_eq_some_iff _ s').mp hs'
        exact hfresh (hends next hnext)
      · rw [recognise_cons hc hp]
        split_ifs with hplace
        · rfl
        · exact respond_of_not_recognises hp (Bool.eq_false_iff.mpr hplace)
  | @onward visited path place next _ hnext h ih =>
      rw [recognise_cons hc hp]
      cases hplace : c.recognises data place with
      | true =>
          refine ⟨.at c data visited place p, .refl, ?_, (if_pos rfl).symm⟩
          refine Option.eq_none_iff_forall_not_mem.mpr fun s' hs' => ?_
          obtain ⟨-, -, -, -, hunmatched, -, -⟩ := (Search.advance?_eq_some_iff _ s').mp hs'
          rw [Search.at, isMatched_respond hc hp, hplace] at hunmatched
          cases hunmatched
      | false =>
          obtain ⟨q, hq⟩ := (c.sound.isPlace_of_next? hnext).exists_probe
          obtain ⟨s, hreach, hstop, hfound⟩ := ih hq
          have hunmatched : (p.respond data).isMatched = false := by
            rw [isMatched_respond hc hp, hplace]
          have hfresh := h.fresh next (List.mem_of_mem_head? h.head)
          have hstep : (Search.at c data visited place p).advance? c data =
              some (.at c data (place :: visited) next q) :=
            (Search.advance?_eq_some_iff _ _).mpr ⟨next, q, hnext, hq, hunmatched, hfresh, rfl⟩
          exact ⟨s, .head hstep hreach, hstop, hfound⟩

/-- Whatever the fallbacks are, every search ends, and from every probe there is one way along them,
with at most as many places as there are probes.  The first probe on the way of which a rule matches
a reply says what it is, and where there is none, nothing is known.  The name reported is that of
the probe that was sent, and a web server that answers over TLS is named for that. -/
theorem fingerprint_first (c : Catalog) (hc : c.IsCompiled) (place : Nat) (p : Probe)
    (hp : c.probes[place]? = some p) (data : Bytes) (tls : Bool) :
    (WellFounded fun s' s : Search => s.advance? c data = some s') ∧
    ∃ (path : List Nat) (s : Search),
      (∀ other, c.IsWay place other ↔ other = path) ∧ path.length ≤ c.size ∧
      Relation.ReflTransGen (fun s s' => s.advance? c data = some s') (.at c data [] place p) s ∧
      s.advance? c data = none ∧
      (∀ i, path.find? (c.recognises data) = some i →
        ∃ q, c.probes[i]? = some q ∧ s.found = q.respond data) ∧
      (path.find? (c.recognises data) = none → s.found = {}) ∧
      c.fingerprint data tls place =
        { s.found with
          probe := p.name
          service := if tls = true ∧ s.found.service = "http" then "https"
            else s.found.service } := by
  have hplace : c.IsPlace place := (List.getElem?_eq_some_iff.mp hp).1
  have htrail := trail_path hplace
  obtain ⟨s, hreach, hstop, hfound⟩ := search_of_trail hc data htrail hp
  refine ⟨c.wellFounded_advance data, c.path place, s, fun other => ?_, length_path_le hplace,
    hreach, hstop, ?_, ?_, ?_⟩
  · constructor
    · intro h
      exact h.trail.unique htrail
    · rintro rfl
      exact htrail.isWay
  · rw [hfound]
    exact fun i => recognise_of_find? hc
  · rw [hfound]
    exact recognise_of_unmatched hc
  · rw [fingerprint, hfound, hp, Option.elim_some]
    dsimp only
    split_ifs <;> rfl

/-- Three probes, of which the last two are fallbacks of each other and the last has a rule. -/
def circleProbes : List Probe :=
  [{ Probe.new .tcp "One" [] with fallback := some "Two" },
    { Probe.new .tcp "Two" [] with fallback := some "Three" },
    { Probe.new .tcp "Three" [] with
      fallback := some "Two"
      rules := ((MatchRule.parse "http m|^a|" false).toOption.bind id).toList }]

/-- The catalog of the three. -/
def circle : Catalog := .ofProbes circleProbes

/-- The search goes into the circle, once around it and no further. -/
theorem fingerprint_first_of_circle :
    circle.IsCompiled ∧ circle.probes[0]?.isSome = true ∧ circle.IsWay 0 [0, 1, 2] ∧
    circle.next? 2 = some 1 ∧
    (circle.fingerprint (Utf8.encode "abc") true 0).probe = "TCP_One" ∧
    (circle.fingerprint (Utf8.encode "abc") true 0).service = "https" := by
  have hcompiled : circle.IsCompiled := by
    intro p hp
    have hprobes : circle.probes = circleProbes := rfl
    simp only [hprobes, circleProbes, List.mem_cons, List.not_mem_nil, or_false] at hp
    rcases hp with rfl | rfl | rfl
    · exact Probe.isCompiled_new .tcp "One" []
    · exact Probe.isCompiled_new .tcp "Two" []
    · intro m hm
      dsimp only at hm
      exact MatchRule.isCompiled_of_mem_toList hm
  have hlinks : [0, 1, 2].map circle.next? = [some 1, some 2, some 1] := by
    cbv
  simp only [List.map_cons, List.map_nil, List.cons.injEq, and_true] at hlinks
  obtain ⟨hzero, htwo, hthree⟩ := hlinks
  have hway : circle.IsWay 0 [0, 1, 2] := by
    refine ⟨rfl, by simp [hzero, htwo], by decide, ?_⟩
    rintro _ ⟨⟩ next hnext
    obtain rfl := Option.some.inj (hthree.symm.trans hnext)
    decide
  have hfind : [0, 1, 2].find? (circle.recognises (Utf8.encode "abc")) = some 2 := by
    cbv
  have hservice : (circle.probes[2]?).map (fun q => (q.respond (Utf8.encode "abc")).service) =
      some "http" := by
    cbv
  have hone : (circle.probes[0]?).map Probe.name = some "TCP_One" := by cbv
  obtain ⟨p, hp, hname⟩ := Option.map_eq_some_iff.mp hone
  obtain ⟨-, path, s, hunique, -, -, -, hfirst, -, hreport⟩ :=
    fingerprint_first circle hcompiled 0 p hp (Utf8.encode "abc") true
  obtain rfl := (hunique _).mp hway
  obtain ⟨q, hq, hfound⟩ := hfirst 2 hfind
  rw [hq, Option.map_some, ← hfound] at hservice
  rw [hreport]
  exact ⟨hcompiled, Option.isSome_iff_exists.mpr ⟨p, hp⟩, hway, hthree, hname,
    if_pos ⟨rfl, Option.some.inj hservice⟩⟩

end Fingerprinting.Nmap.Catalog
