/-
# Selections

The probes for a port come from five lists: those up to a level, by rarity, those registered to go
first to the port, those that are meant for it, by rarity, those registered to go last, and those
that open TLS.  The lists overlap, and a probe is sent at its first occurrence in all of them.

* `Ranked` says what it is to be listed by rarity; `ranked_upToRarity` says it of the walk along
  the rarities, and `ranked_covering` of the sorted probes, since sorting is stable
  (`filter_mergeSort`);
* `registers_build` says that tables have registered what registering probes one by one comes to,
  and `registerFirst_apply` and `registerLast_apply` what that is;
* `select_eq` says that keeping first occurrences twice is keeping them once, and
  `mem_select_build_iff` which probes are selected;
* `select_subset` says that a higher level selects no less.

Main statement: `Catalog.select_first_occurrences`.
-/
import Mathlib.Logic.Function.Basic
import Fingerprinting.Nmap.Catalog
import Fingerprinting.Proofs.Nmap.Names
import Fingerprinting.Proofs.Nmap.Places

namespace Fingerprinting.Nmap

/-- The probes that some groups of ports give for a port. -/
def Tuning.probesFor (groups : List (List Nat × List String)) (port : Nat) : List String :=
  groups.flatMap fun (ports, names) => if ports.contains port then names else []

namespace Tables

/-! ## Lists by rarity -/

/-- The probe at one place is less rare than that at another, or equally rare and before it. -/
def Sooner (t : Tables) (i j : Nat) : Prop :=
  ∃ p q, t.probes[i]? = some p ∧ t.probes[j]? = some q ∧
    (p.rarity < q.rarity ∨ p.rarity = q.rarity ∧ i < j)

/-- The places of the probes that satisfy a test, by rarity and among equals in the order of the
catalog. -/
structure Ranked (t : Tables) (test : Probe → Prop) (places : List Nat) : Prop where
  mem_iff : ∀ i, i ∈ places ↔ ∃ p, t.probes[i]? = some p ∧ test p
  order : places.Pairwise t.Sooner

variable {t : Tables}

theorem mem_placesWhere (test : Probe → Bool) (a : Probe × Nat) :
    a ∈ t.placesWhere test ↔ t.probes[a.2]? = some a.1 ∧ test a.1 = true := by
  rw [placesWhere, List.mem_filter, List.mk_mem_zipIdx_iff_getElem?]

/-- Probes that satisfy a test are listed in the order of the catalog. -/
theorem pairwise_placesWhere (t : Tables) (test : Probe → Bool) :
    (t.placesWhere test).Pairwise fun a b => a.2 < b.2 := by
  have hplaces : (t.probes.zipIdx.map Prod.snd).Pairwise (· < ·) := by
    rw [List.zipIdx_map_snd]
    exact List.pairwise_lt_range'
  exact (List.pairwise_map.mp hplaces).sublist List.filter_sublist

/-- Probes with their places are ranked when they are in the order of rarity and place. -/
theorem ranked_map_snd {test : Probe → Prop} {ps : List (Probe × Nat)}
    (hmem : ∀ a, a ∈ ps ↔ t.probes[a.2]? = some a.1 ∧ test a.1)
    (horder : ps.Pairwise fun a b =>
      a.1.rarity < b.1.rarity ∨ a.1.rarity = b.1.rarity ∧ a.2 < b.2) :
    t.Ranked test (ps.map Prod.snd) where
  mem_iff i := by
    rw [List.mem_map]
    constructor
    · rintro ⟨⟨p, i⟩, ha, rfl⟩
      exact ⟨p, (hmem _).mp ha⟩
    · rintro ⟨p, hp⟩
      exact ⟨(p, i), (hmem _).mpr hp, rfl⟩
  order := by
    refine List.pairwise_map.mpr (horder.imp_of_mem fun {a b} ha hb h => ?_)
    exact ⟨a.1, b.1, ((hmem a).mp ha).1, ((hmem b).mp hb).1, h⟩

/-- The walk along the rarities. -/
theorem ranked_upToRarity (t : Tables) (level : Nat) :
    t.Ranked (fun p => p.protocol = .tcp ∧ 1 ≤ p.rarity ∧ p.rarity ≤ level)
      (t.upToRarity level) := by
  have hwalk : t.upToRarity level = ((List.range level).flatMap fun r =>
      t.placesWhere fun p => p.protocol == .tcp && p.rarity == r + 1).map Prod.snd := by
    rw [upToRarity, List.map_flatMap]
  have hrarity : ∀ (r : Nat) (a : Probe × Nat),
      a ∈ (t.placesWhere fun p => p.protocol == .tcp && p.rarity == r + 1) →
        a.1.rarity = r + 1 := by
    intro r a ha
    have htest := ((mem_placesWhere _ a).mp ha).2
    exact beq_iff_eq.mp ((Bool.and_eq_true _ _).mp htest).2
  rw [hwalk]
  refine ranked_map_snd (fun a => ?_) (List.pairwise_flatMap.mpr ⟨fun r _ => ?_, ?_⟩)
  · simp only [List.mem_flatMap, List.mem_range, mem_placesWhere, Bool.and_eq_true, beq_iff_eq]
    constructor
    · rintro ⟨r, hr, hplace, hprotocol, hrarity⟩
      exact ⟨hplace, hprotocol, by omega, by omega⟩
    · rintro ⟨hplace, hprotocol, hlow, hhigh⟩
      exact ⟨a.1.rarity - 1, by omega, hplace, hprotocol, by omega⟩
  · -- Within one round the rarity is the same, and between two rounds it grows.
    refine (t.pairwise_placesWhere _).imp_of_mem fun {a b} ha hb h => .inr ⟨?_, h⟩
    rw [hrarity r a ha, hrarity r b hb]
  · refine List.pairwise_lt_range.imp fun {r r'} h a ha b hb => .inl ?_
    rw [hrarity r a ha, hrarity r' b hb]
    exact Nat.succ_lt_succ h

/-! ## Sorting -/

section

variable (ps : List (Probe × Nat))

/-- The order of rarity. -/
def noRarer (a b : Probe × Nat) : Bool := a.1.rarity ≤ b.1.rarity

theorem noRarer_trans (a b c : Probe × Nat) (h : noRarer a b = true) (h' : noRarer b c = true) :
    noRarer a c = true :=
  decide_eq_true (Nat.le_trans (of_decide_eq_true h) (of_decide_eq_true h'))

theorem noRarer_total (a b : Probe × Nat) : (noRarer a b || noRarer b a) = true := by
  rw [Bool.or_eq_true]
  exact (Nat.le_total a.1.rarity b.1.rarity).imp decide_eq_true decide_eq_true

/-- Sorting is stable: it leaves the probes of one rarity in their order. -/
theorem filter_mergeSort (r : Nat) :
    ((ps.mergeSort noRarer).filter fun a => a.1.rarity == r) =
      ps.filter fun a => a.1.rarity == r := by
  have hequal : (ps.filter fun a => a.1.rarity == r).Pairwise fun a b => noRarer a b = true := by
    refine List.pairwise_of_forall_mem_list fun a ha b hb => decide_eq_true (Nat.le_of_eq ?_)
    rw [beq_iff_eq.mp (List.mem_filter.mp ha).2, beq_iff_eq.mp (List.mem_filter.mp hb).2]
  -- They are sorted already, so they stay a sublist, and a sublist of that length is all of it.
  have hsublist := List.sublist_mergeSort noRarer_trans noRarer_total hequal List.filter_sublist
  have hfiltered := hsublist.filter fun a => a.1.rarity == r
  simp only [List.filter_filter, Bool.and_self] at hfiltered
  refine (hfiltered.eq_of_length ?_).symm
  exact ((List.mergeSort_perm ps noRarer).filter _).length_eq.symm

/-- Probes in the order of their places are sorted by rarity and, among equals, by place. -/
theorem pairwise_mergeSort (hplaces : ps.Pairwise fun a b => a.2 < b.2) :
    (ps.mergeSort noRarer).Pairwise fun a b =>
      a.1.rarity < b.1.rarity ∨ a.1.rarity = b.1.rarity ∧ a.2 < b.2 := by
  have hsorted := List.pairwise_mergeSort noRarer_trans noRarer_total ps
  rw [List.pairwise_iff_forall_sublist] at hsorted hplaces ⊢
  intro a b hab
  rcases Nat.lt_or_eq_of_le (of_decide_eq_true (hsorted hab)) with hless | hequal
  · exact .inl hless
  · -- Both are among the probes of one rarity, which have stayed in their order.
    have hfiltered := hab.filter fun x => x.1.rarity == b.1.rarity
    rw [filter_mergeSort] at hfiltered
    simp only [List.filter_cons, List.filter_nil, hequal, beq_self_eq_true, if_true] at hfiltered
    exact .inr ⟨hequal, hplaces (hfiltered.trans List.filter_sublist)⟩

end

/-- The probes that are meant for a port, sorted. -/
theorem ranked_covering (t : Tables) (port : Nat) :
    t.Ranked
      (fun p => p.protocol = .tcp ∧
        (p.ports.contains port = true ∨ p.sslPorts.contains port = true))
      (byRarity (t.placesWhere fun p => p.protocol == .tcp && p.covers port)) := by
  refine ranked_map_snd (fun a => ?_) (pairwise_mergeSort _ (t.pairwise_placesWhere _))
  rw [(List.mergeSort_perm _ _).mem_iff, mem_placesWhere, Bool.and_eq_true, beq_iff_eq,
    Probe.covers, Bool.or_eq_true]

/-! ## Registered probes -/

/-- For every port, the places of the probes that are registered for it. -/
abbrev Hints := Nat → List Nat

/-- Change what is registered for some ports, one after the other. -/
def changeAt (f : List Nat → List Nat) (ports : List Nat) (hints : Hints) : Hints :=
  ports.foldl (fun hints port => Function.update hints port (f (hints port))) hints

/-- Put the probe with a name, if there is one, in front of those that are registered. -/
def registerBefore (t : Tables) (name : String) (registered : List Nat) : List Nat :=
  match t.place? name with
  | some place => place :: registered
  | none => registered

/-- Put the probe with a name, if there is one, after those that are registered. -/
def registerAfter (t : Tables) (registered : List Nat) (name : String) : List Nat :=
  match t.place? name with
  | some place => registered ++ [place]
  | none => registered

/-- Register the probes of some groups to go first to their ports: the last name of the last group
comes first, and every other one goes in front of those before it. -/
def registerFirst (t : Tables) (groups : List (List Nat × List String)) : Hints :=
  groups.foldr
    (fun group hints =>
      changeAt (fun registered => group.2.foldr t.registerBefore registered) group.1 hints)
    fun _ => []

/-- Register the probes of some groups to go last to their ports. -/
def registerLast (t : Tables) (groups : List (List Nat × List String)) (hints : Hints) : Hints :=
  groups.foldl
    (fun hints group =>
      changeAt (fun registered => group.2.foldl t.registerAfter registered) group.1 hints)
    hints

/-- Ports without repetition are changed once each. -/
theorem changeAt_apply (f : List Nat → List Nat) {ports : List Nat} (hports : ports.Nodup)
    (hints : Hints) (port : Nat) :
    changeAt f ports hints port = if ports.contains port then f (hints port) else hints port := by
  induction ports generalizing hints with
  | nil => rfl
  | cons first rest ih =>
      obtain ⟨hfirst, hrest⟩ := List.nodup_cons.mp hports
      have hstep : changeAt f (first :: rest) hints =
          changeAt f rest (Function.update hints first (f (hints first))) := rfl
      rw [hstep, ih hrest]
      -- The first port is not among the others, so they leave it as it is.
      by_cases hport : port = first
      · subst hport
        simp [hfirst]
      · simp [hport]

theorem places_append (t : Tables) (names others : List String) :
    t.places (names ++ others) = t.places names ++ t.places others :=
  List.filterMap_append

theorem places_cons (t : Tables) (name : String) (rest : List String) :
    t.places (name :: rest) = (t.place? name).toList ++ t.places rest := by
  rw [places, List.filterMap_cons]
  cases t.place? name <;> rfl

/-- What a group gives for a port comes before what the groups after it give. -/
theorem places_probesFor_cons (t : Tables) (group : List Nat × List String)
    (rest : List (List Nat × List String)) (port : Nat) :
    t.places (Tuning.probesFor (group :: rest) port) =
      (if group.1.contains port then t.places group.2 else []) ++
        t.places (Tuning.probesFor rest port) := by
  obtain ⟨ports, names⟩ := group
  rw [Tuning.probesFor, List.flatMap_cons, places_append, Tuning.probesFor]
  dsimp only
  split_ifs <;> rfl

theorem foldr_registerBefore (t : Tables) (names : List String) (registered : List Nat) :
    names.foldr t.registerBefore registered = t.places names ++ registered := by
  induction names with
  | nil => rfl
  | cons name rest ih =>
      rw [List.foldr_cons, ih, places_cons, registerBefore]
      cases t.place? name <;> rfl

theorem foldl_registerAfter (t : Tables) (names : List String) (registered : List Nat) :
    names.foldl t.registerAfter registered = registered ++ t.places names := by
  induction names generalizing registered with
  | nil => exact (List.append_nil registered).symm
  | cons name rest ih =>
      rw [List.foldl_cons, ih, places_cons, registerAfter]
      cases t.place? name with
      | none => rfl
      | some place => exact List.append_assoc _ _ _

/-- What is registered to go first to a port. -/
theorem registerFirst_apply (t : Tables) {groups : List (List Nat × List String)}
    (hgroups : ∀ group ∈ groups, group.1.Nodup) (port : Nat) :
    t.registerFirst groups port = t.places (Tuning.probesFor groups port) := by
  induction groups with
  | nil => rfl
  | cons group rest ih =>
      obtain ⟨hgroup, hrest⟩ := List.forall_mem_cons.mp hgroups
      have hstep : t.registerFirst (group :: rest) =
          changeAt (fun registered => group.2.foldr t.registerBefore registered) group.1
            (t.registerFirst rest) := rfl
      rw [hstep, changeAt_apply _ hgroup, ih hrest, foldr_registerBefore, places_probesFor_cons]
      split_ifs <;> rfl

/-- What is registered to go last to a port. -/
theorem registerLast_apply (t : Tables) {groups : List (List Nat × List String)}
    (hgroups : ∀ group ∈ groups, group.1.Nodup) (hints : Hints) (port : Nat) :
    t.registerLast groups hints port = hints port ++ t.places (Tuning.probesFor groups port) := by
  induction groups generalizing hints with
  | nil => exact (List.append_nil _).symm
  | cons group rest ih =>
      obtain ⟨hgroup, hrest⟩ := List.forall_mem_cons.mp hgroups
      have hstep : t.registerLast (group :: rest) hints =
          t.registerLast rest
            (changeAt (fun registered => group.2.foldl t.registerAfter registered) group.1 hints) :=
        rfl
      rw [hstep, ih hrest, changeAt_apply _ hgroup, foldl_registerAfter, places_probesFor_cons]
      split_ifs
      · exact List.append_assoc _ _ _
      · rfl

/-! ## What is registered -/

/-- Names lead where they do in `t₀`, and some places are registered to go first and last to the
ports. -/
structure Registers (t₀ : Tables) (first last : Hints) (t : Tables) : Prop where
  names : t.names = t₀.names
  first : t.first.get = first
  last : t.last.get = last

namespace Registers

variable {t₀ t' : Tables} {first last : Hints}

theorem modify (h : Registers t₀ first last t) (name : String) (f : Probe → Probe) :
    Registers t₀ first last (t.modify name f) := by
  unfold Tables.modify
  split
  · exact ⟨h.names, h.first, h.last⟩
  · exact h

/-- A change of a probe leaves alone where it is registered. -/
theorem change (h : Registers t₀ first last t) (hchange : Change t t') :
    Registers t₀ first last t' := by
  cases hchange with
  | rule name _ => exact h.modify name _
  | mailPorts => exact h.modify Tuning.lineProbe _
  | fallback name _ => exact h.modify name _

theorem changes (h : Registers t₀ first last t) (hchanges : Steps Change t t') :
    Registers t₀ first last t' := by
  induction hchanges with
  | none => exact h
  | more _ hchange ih => exact ih.change hchange

theorem place?_eq (h : Registers t₀ first last t) (name : String) :
    t.place? name = t₀.place? name := by
  rw [place?, place?, h.names]

/-- A probe is registered before the others. -/
theorem putFirst (h : Registers t₀ first last t) (port : Nat) (name : String) :
    Registers t₀ (Function.update first port (t₀.registerBefore name (first port))) last
      (t.putFirst port name) := by
  unfold Tables.putFirst registerBefore
  rw [← h.place?_eq]
  cases t.place? name with
  | none => rwa [Function.update_eq_self]
  | some place =>
      refine ⟨h.names, funext fun other => ?_, h.last⟩
      rw [Registry.get_change, h.first, Function.update_apply]

/-- A probe is registered after the others. -/
theorem putLast (h : Registers t₀ first last t) (port : Nat) (name : String) :
    Registers t₀ first (Function.update last port (t₀.registerAfter (last port) name))
      (t.putLast port name) := by
  unfold Tables.putLast registerAfter
  rw [← h.place?_eq]
  cases t.place? name with
  | none => rwa [Function.update_eq_self]
  | some place =>
      refine ⟨h.names, h.first, funext fun other => ?_⟩
      rw [Registry.get_change, h.last, Function.update_apply]

theorem foldr_putFirst (h : Registers t₀ first last t) (port : Nat) (names : List String) :
    Registers t₀ (Function.update first port (names.foldr t₀.registerBefore (first port))) last
      (names.foldr (fun name t => t.putFirst port name) t) := by
  induction names with
  | nil => rwa [List.foldr_nil, Function.update_eq_self]
  | cons name rest ih =>
      have hmore := ih.putFirst port name
      rwa [Function.update_idem, Function.update_self] at hmore

theorem foldl_putLast (h : Registers t₀ first last t) (port : Nat) (names : List String) :
    Registers t₀ first (Function.update last port (names.foldl t₀.registerAfter (last port)))
      (names.foldl (fun t name => t.putLast port name) t) := by
  induction names generalizing t last with
  | nil => rwa [List.foldl_nil, Function.update_eq_self]
  | cons name rest ih =>
      have hmore := ih (h.putLast port name)
      rwa [Function.update_idem, Function.update_self] at hmore

/-- The probes of a group are registered to go first to its ports. -/
theorem group_first (h : Registers t₀ first last t) (ports : List Nat) (names : List String) :
    Registers t₀ (changeAt (fun registered => names.foldr t₀.registerBefore registered) ports first)
      last
      (ports.foldl (fun t port => names.foldr (fun name t => t.putFirst port name) t) t) := by
  induction ports generalizing t first with
  | nil => exact h
  | cons port rest ih => exact ih (h.foldr_putFirst port names)

/-- The probes of a group are registered to go last to its ports. -/
theorem group_last (h : Registers t₀ first last t) (ports : List Nat) (names : List String) :
    Registers t₀ first
      (changeAt (fun registered => names.foldl t₀.registerAfter registered) ports last)
      (ports.foldl (fun t port => names.foldl (fun t name => t.putLast port name) t) t) := by
  induction ports generalizing t last with
  | nil => exact h
  | cons port rest ih => exact ih (h.foldl_putLast port names)

theorem registerAllFirst (h : Registers t₀ (fun _ => []) last t) :
    Registers t₀ (t₀.registerFirst Tuning.first) last t.registerAllFirst := by
  unfold Tables.registerAllFirst
  induction Tuning.first with
  | nil => exact h
  | cons group rest ih => exact ih.group_first group.1 group.2

theorem registerAllLast (h : Registers t₀ first last t) :
    Registers t₀ first (t₀.registerLast Tuning.last last) t.registerAllLast := by
  unfold Tables.registerAllLast
  induction Tuning.last generalizing t last with
  | nil => exact h
  | cons group rest ih => exact ih (h.group_last group.1 group.2)

theorem enterTls (h : Registers t₀ first last t) : Registers t₀ first last t.enterTls :=
  ⟨h.names, h.first, h.last⟩

theorem resolveFallbacks (h : Registers t₀ first last t) :
    Registers t₀ first last t.resolveFallbacks :=
  ⟨h.names, h.first, h.last⟩

end Registers

/-- What is registered in the tables of a set of probes. -/
theorem registers_build (set : ProbeSet) (services : ServiceTable) :
    Registers (build set services) ((build set services).registerFirst Tuning.first)
      ((build set services).registerLast Tuning.last fun _ => []) (build set services) := by
  obtain ⟨hfirst, hlast, -⟩ := start_registers set services
  have hstart : Registers (build set services) (fun _ => []) (fun _ => []) (start set services) :=
    ⟨(tunes_build set services).names.symm, by rw [hfirst]; rfl, by rw [hlast]; rfl⟩
  have hchanged := (hstart.changes (Steps.addRules _)).change .mailPorts
  have hregistered := hchanged.registerAllFirst.registerAllLast
  exact (hregistered.changes (Steps.setFallbacks _)).enterTls.resolveFallbacks

theorem tlsPlaces_build (set : ProbeSet) (services : ServiceTable) :
    (build set services).tlsPlaces = (build set services).places Tuning.tlsProbes := by
  have hentered (t : Tables) : t.enterTls.resolveFallbacks.tlsPlaces =
      t.enterTls.resolveFallbacks.places Tuning.tlsProbes := rfl
  exact hentered _

/-! ## Selections -/

/-- Keeping first occurrences twice is keeping them once. -/
theorem select_eq (t : Tables) (port level : Nat) :
    t.select port level =
      (t.upToRarity level ++
        (t.first.get port ++ byRarity (t.placesWhere fun p => p.protocol == .tcp && p.covers port) ++
          t.last.get port) ++ t.tlsPlaces).eraseDups := by
  rw [select, forPort]
  exact Lists.eraseDups_append_congr (Lists.eraseDups_append_eraseDups _ _) _

/-- The selection from the tables of a set of probes. -/
theorem select_build_eq (set : ProbeSet) (services : ServiceTable) (port level : Nat) :
    let t := build set services
    t.select port level =
      (t.upToRarity level ++
        (t.places (Tuning.probesFor Tuning.first port) ++
          byRarity (t.placesWhere fun p => p.protocol == .tcp && p.covers port) ++
          t.places (Tuning.probesFor Tuning.last port)) ++
        t.places Tuning.tlsProbes).eraseDups := by
  intro t
  have hregisters := registers_build set services
  rw [select_eq, tlsPlaces_build, hregisters.first, hregisters.last,
    registerFirst_apply _ (by decide), registerLast_apply _ (by decide), List.nil_append]

/-- The places of probes with some names. -/
theorem IsSound.mem_places_iff (h : t.IsSound) (names : List String) (i : Nat) :
    i ∈ t.places names ↔ ∃ p, t.probes[i]? = some p ∧ p.name ∈ names := by
  simp only [places, List.mem_filterMap, h.place?_eq_some_iff]
  constructor
  · rintro ⟨name, hname, p, hp, rfl⟩
    exact ⟨p, hp, hname⟩
  · rintro ⟨p, hp, hname⟩
    exact ⟨p.name, hname, p, hp, rfl⟩

/-- Which probes are selected for a port at a level. -/
theorem mem_select_build_iff (set : ProbeSet) (services : ServiceTable) (port level i : Nat) :
    i ∈ (build set services).select port level ↔ ∃ p, (build set services).probes[i]? = some p ∧
      (p.protocol = .tcp ∧ 1 ≤ p.rarity ∧ p.rarity ≤ level ∨
        p.protocol = .tcp ∧ (p.ports.contains port = true ∨ p.sslPorts.contains port = true) ∨
        p.name ∈ Tuning.probesFor Tuning.first port ∨ p.name ∈ Tuning.probesFor Tuning.last port ∨
        p.name ∈ Tuning.tlsProbes) := by
  simp only [select_build_eq, List.mem_eraseDups, List.mem_append,
    (isSound_build set services).mem_places_iff, (ranked_upToRarity _ level).mem_iff,
    (ranked_covering _ port).mem_iff]
  cases (build set services).probes[i]? with
  | none => simp
  | some p =>
      simp only [Option.some.injEq, exists_eq_left']
      tauto

/-- A higher level selects no less. -/
theorem select_subset (t : Tables) (port : Nat) {level higher : Nat} (h : level ≤ higher) :
    t.select port level ⊆ t.select port higher := by
  have hwalk : t.upToRarity level ⊆ t.upToRarity higher := by
    intro i hi
    obtain ⟨p, hp, hprotocol, hlow, hhigh⟩ := ((t.ranked_upToRarity level).mem_iff i).mp hi
    have hhigher := Nat.le_trans hhigh h
    exact ((t.ranked_upToRarity higher).mem_iff i).mpr ⟨p, hp, hprotocol, hlow, hhigher⟩
  intro i hi
  rw [select, List.mem_eraseDups, List.mem_append, List.mem_append] at hi ⊢
  exact hi.imp_left (Or.imp_left fun hi => hwalk hi)

/-- A probe without a rarity counts as one of rarity one. -/
theorem rarity_rated (p : Probe) : (rated p).rarity = max 1 p.rarity := by
  unfold rated
  split_ifs with h
  · rw [h]
    rfl
  · exact (Nat.max_eq_right (Nat.pos_of_ne_zero h)).symm

theorem protocol_rated (p : Probe) : (rated p).protocol = p.protocol := by
  unfold rated
  split_ifs <;> rfl

end Tables

namespace Catalog

open Tables

/-- The probes that are selected for a port at a level: the lists that they come from are by rarity
or as registered, and every probe of them is there once, at its first occurrence.  A probe without a
rarity counts as one of rarity one, and a higher level never selects less. -/
theorem select_first_occurrences (set : ProbeSet) (services : ServiceTable) (port level : Nat) :
    let c := new set services
    (∀ p ∈ c.probes, ∃ q, set.probes.find? (fun q => q.name == p.name) = some q ∧
      p.protocol = q.protocol ∧ p.rarity = max 1 q.rarity) ∧
    (∃ walk covering : List Nat,
      c.Ranked (fun p => p.protocol = .tcp ∧ 1 ≤ p.rarity ∧ p.rarity ≤ level) walk ∧
      c.Ranked (fun p => p.protocol = .tcp ∧
        (p.ports.contains port = true ∨ p.sslPorts.contains port = true)) covering ∧
      Lists.InFirstOrder (c.select port level)
        (walk ++ c.registerFirst Tuning.first port ++ covering ++
          c.registerLast Tuning.last (fun _ => []) port ++ c.places Tuning.tlsProbes)) ∧
    (c.select port level).Nodup ∧
    (∀ i, i ∈ c.select port level ↔ ∃ p, c.probes[i]? = some p ∧
      (p.protocol = .tcp ∧ 1 ≤ p.rarity ∧ p.rarity ≤ level ∨
        p.protocol = .tcp ∧ (p.ports.contains port = true ∨ p.sslPorts.contains port = true) ∨
        p.name ∈ Tuning.probesFor Tuning.first port ∨ p.name ∈ Tuning.probesFor Tuning.last port ∨
        p.name ∈ Tuning.tlsProbes)) ∧
    ∀ more, c.select port level ⊆ c.select port (level + more) := by
  intro c
  obtain ⟨-, hkept⟩ := build_names set services
  refine ⟨fun p hp => ?_, ⟨_, _, c.ranked_upToRarity level, c.ranked_covering port, ?_⟩,
    c.nodup_select port level, mem_select_build_iff set services port level,
    fun more => c.select_subset port (Nat.le_add_right level more)⟩
  · obtain ⟨q, hq, htuned⟩ := hkept p hp
    exact ⟨q, hq, htuned.protocol.trans (protocol_rated q), htuned.rarity.trans (rarity_rated q)⟩
  · rw [registerFirst_apply c.toTables (by decide), registerLast_apply c.toTables (by decide),
      List.nil_append, show c.select port level = _ from select_build_eq set services port level]
    simp only [← List.append_assoc]
    exact Lists.inFirstOrder_eraseDups _

end Catalog

end Fingerprinting.Nmap
