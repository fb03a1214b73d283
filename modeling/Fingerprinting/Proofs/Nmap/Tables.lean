/-
# How tables are filled in

Tables hold places in many ways, and a scan uses them without looking whether there is a probe.  So
there must be one, whatever the names and the fallbacks of a set of probes are.  Nothing in the form
of the tables sees to that: it is kept up while they are filled in, from no probes at all to the
last fallback.

* `IsSound` says that names lead to the probes that have them and that every other place is that of
  a probe;
* `IsSound.insert` says that one more probe keeps it up, and `IsSound.step` that one more step of
  the tuning does, one case for each kind of step;
* `steps_build` says that these steps are all that is done to the first probes.

Main statement: `isSound_build`.
-/
import Fingerprinting.Nmap.Tables

namespace Fingerprinting.Nmap.Tables

/-! ## Sound tables -/

/-- A place with a probe. -/
def IsPlace (t : Tables) (place : Nat) : Prop := place < t.probes.length

/-- A name leads to the probe that has it, and every other place is that of a probe. -/
structure IsSound (t : Tables) : Prop where
  names : ∀ name place,
    t.place? name = some place ↔ (t.probes[place]?).map Probe.name = some name
  first : ∀ port, ∀ place ∈ t.first.get port, t.IsPlace place
  last : ∀ port, ∀ place ∈ t.last.get port, t.IsPlace place
  tls : ∀ place ∈ t.tlsPlaces, t.IsPlace place
  inside : ∀ place ∈ t.insidePlaces, t.IsPlace place
  nodup_inside : t.insidePlaces.Nodup
  fallbacks : ∀ place, some place ∈ t.fallbackPlaces → t.IsPlace place

variable {t t' : Tables}

namespace IsSound

theorem isPlace_of_place? (h : t.IsSound) {name : String} {place : Nat}
    (hplace : t.place? name = some place) : t.IsPlace place := by
  obtain ⟨p, hp, -⟩ := Option.map_eq_some_iff.mp ((h.names name place).mp hplace)
  exact (List.getElem?_eq_some_iff.mp hp).1

/-- Different names have different places. -/
theorem place?_injective (h : t.IsSound) {name other : String} {place : Nat}
    (hplace : t.place? name = some place) (hother : t.place? other = some place) :
    name = other := by
  have hname := (h.names name place).mp hplace
  rw [(h.names other place).mp hother] at hname
  exact (Option.some.inj hname).symm

theorem isPlace_of_mem_places (h : t.IsSound) {names : List String} {place : Nat}
    (hplace : place ∈ t.places names) : t.IsPlace place := by
  obtain ⟨name, -, hname⟩ := List.mem_filterMap.mp hplace
  exact h.isPlace_of_place? hname

/-- Names without repetition have places without repetition. -/
theorem nodup_places (h : t.IsSound) {names : List String} (hnames : names.Nodup) :
    (t.places names).Nodup := by
  refine List.Pairwise.filterMap t.place? ?_ hnames
  rintro name other hne place hplace _ hother rfl
  exact hne (h.place?_injective hplace hother)

/-- A fallback has a probe. -/
theorem isPlace_of_next? (h : t.IsSound) {place next : Nat} (hnext : t.next? place = some next) :
    t.IsPlace next :=
  h.fallbacks next (List.mem_of_getElem? (Option.join_eq_some_iff.mp hnext))

end IsSound

/-! ## Probes -/

/-- Tables without a probe. -/
theorem isSound_of_none (excluded : PortList) (services : ServiceTable) :
    IsSound { excluded, services } where
  names _ _ := ⟨nofun, nofun⟩
  first _ := List.forall_mem_nil _
  last _ := List.forall_mem_nil _
  tls := List.forall_mem_nil _
  inside := List.forall_mem_nil _
  nodup_inside := List.nodup_nil
  fallbacks _ := nofun

/-- The probe at a place after one more has been appended. -/
theorem name_append_eq_some_iff (probes : List Probe) (p : Probe) (place : Nat) (name : String) :
    ((probes ++ [p])[place]?).map Probe.name = some name ↔
      (probes[place]?).map Probe.name = some name ∨ place = probes.length ∧ p.name = name := by
  rcases Nat.lt_trichotomy place probes.length with hlt | rfl | hgt
  · rw [List.getElem?_append_left hlt]
    simp [Nat.ne_of_lt hlt]
  · simp
  · rw [List.getElem?_eq_none (by simp; omega), List.getElem?_eq_none (by omega)]
    simp [Nat.ne_of_gt hgt]

/-- One more probe comes last, unless there is one with its name. -/
theorem IsSound.insert (h : t.IsSound) (p : Probe) : (t.insert p).IsSound := by
  unfold Tables.insert
  split
  · exact h
  · rename_i hnew
    have hfresh : ∀ place : Nat, (t.probes[place]?).map Probe.name ≠ some p.name := by
      intro place hplace
      have hfound : t.names.get? p.name = some place := (h.names p.name place).mpr hplace
      rw [Dictionary.contains, hfound] at hnew
      exact hnew rfl
    have hmore : ∀ place, t.IsPlace place → place < (t.probes ++ [p]).length := by
      intro place hplace
      rw [List.length_append]
      exact Nat.lt_add_right _ hplace
    exact {
      names := by
        intro name place
        have hold := h.names name place
        simp only [place?, Dictionary.get?_insert, name_append_eq_some_iff] at hold ⊢
        split
        · rename_i hname
          subst hname
          simp [hfresh place, eq_comm]
        · rename_i hname
          simp [hold, hname]
      first := fun port place hplace => hmore place (h.first port place hplace)
      last := fun port place hplace => hmore place (h.last port place hplace)
      tls := fun place hplace => hmore place (h.tls place hplace)
      inside := fun place hplace => hmore place (h.inside place hplace)
      nodup_inside := h.nodup_inside
      fallbacks := by
        intro place hplace
        rcases List.mem_append.mp hplace with hplace | hplace
        · exact hmore place (h.fallbacks place hplace)
        · simp at hplace }

/-- The first probe of every name. -/
theorem isSound_start (set : ProbeSet) (services : ServiceTable) : (start set services).IsSound :=
  List.foldlRecOn (set.probes.map rated) Tables.insert (isSound_of_none _ _)
    fun _ h p _ => h.insert p

/-! ## Tuning -/

/-- The changes of a probe in the tuning: a rule that has been read is appended, the ports of mail
are, or the fallback is set to a probe that there is. -/
inductive Change (t : Tables) : Tables → Prop where
  | rule (name : String) {directive : String} {m : MatchRule}
      (h : MatchRule.parse directive false = .ok (some m)) :
      Change t (t.modify name fun p => { p with rules := p.rules ++ [m] })
  | mailPorts : Change t t.addMailPorts
  | fallback (name : String) {fallback : String} (h : (t.place? fallback).isSome = true) :
      Change t (t.modify name fun p => { p with fallback := some fallback })

/-- The steps of the tuning: a probe is changed, a probe is registered first or last for a port, and
the places of the probes for TLS and of all fallbacks are entered. -/
inductive Step (t : Tables) : Tables → Prop where
  | change {t' : Tables} (h : Change t t') : Step t t'
  | first (port : Nat) (name : String) : Step t (t.putFirst port name)
  | last (port : Nat) (name : String) : Step t (t.putLast port name)
  | tls : Step t t.enterTls
  | resolve : Step t t.resolveFallbacks

/-- Some steps of one kind, one after the other. -/
inductive Steps (R : Tables → Tables → Prop) (t : Tables) : Tables → Prop where
  | none : Steps R t t
  | more {t' t'' : Tables} (h : Steps R t t') (hstep : R t' t'') : Steps R t t''

/-- Probes that keep their names keep their places. -/
theorem IsSound.modify (h : t.IsSound) (name : String) {f : Probe → Probe}
    (hf : ∀ p, (f p).name = p.name) : (t.modify name f).IsSound := by
  unfold Tables.modify
  split
  · rename_i changed _
    have hnames : ∀ place : Nat, ((t.probes.modify changed f)[place]?).map Probe.name =
        (t.probes[place]?).map Probe.name := by
      intro place
      rw [List.getElem?_modify]
      cases t.probes[place]? with
      | none => rfl
      | some p =>
          by_cases hchanged : changed = place
          · simp [hchanged, hf]
          · simp [hchanged]
    have hmore : ∀ place, t.IsPlace place → place < (t.probes.modify changed f).length := by
      intro place hplace
      rwa [List.length_modify]
    exact {
      names := by
        intro name place
        show t.place? name = some place ↔ _
        rw [hnames, h.names]
      first := fun port place hplace => hmore place (h.first port place hplace)
      last := fun port place hplace => hmore place (h.last port place hplace)
      tls := fun place hplace => hmore place (h.tls place hplace)
      inside := fun place hplace => hmore place (h.inside place hplace)
      nodup_inside := h.nodup_inside
      fallbacks := fun place hplace => hmore place (h.fallbacks place hplace) }
  · exact h

theorem IsSound.putFirst (h : t.IsSound) (port : Nat) (name : String) :
    (t.putFirst port name).IsSound := by
  unfold Tables.putFirst
  split
  · rename_i new hnew
    refine { h with first := fun other place hplace => ?_ }
    rw [Registry.get_change] at hplace
    split at hplace
    · rcases List.mem_cons.mp hplace with rfl | hplace
      · exact h.isPlace_of_place? hnew
      · exact h.first port place hplace
    · exact h.first other place hplace
  · exact h

theorem IsSound.putLast (h : t.IsSound) (port : Nat) (name : String) :
    (t.putLast port name).IsSound := by
  unfold Tables.putLast
  split
  · rename_i new hnew
    refine { h with last := fun other place hplace => ?_ }
    rw [Registry.get_change] at hplace
    split at hplace
    · rcases List.mem_append.mp hplace with hplace | hplace
      · exact h.last port place hplace
      · rw [List.mem_singleton.mp hplace]
        exact h.isPlace_of_place? hnew
    · exact h.last other place hplace
  · exact h

theorem IsSound.enterTls (h : t.IsSound) : t.enterTls.IsSound :=
  { h with
    tls := fun _ => h.isPlace_of_mem_places
    inside := fun _ => h.isPlace_of_mem_places
    nodup_inside := h.nodup_places (by decide) }

/-- A fallback is found under its name, or under its name with one of the protocols. -/
theorem IsSound.isPlace_of_fallbackPlace? (h : t.IsSound) {name : String} {place : Nat}
    (hplace : t.fallbackPlace? name = some place) : t.IsPlace place := by
  rw [fallbackPlace?, Option.or_eq_some_iff, Option.or_eq_some_iff] at hplace
  rcases hplace with hplace | ⟨-, hplace | ⟨-, hplace⟩⟩
  · exact h.isPlace_of_place? hplace
  · exact h.isPlace_of_place? hplace
  · exact h.isPlace_of_place? hplace

theorem IsSound.resolveFallbacks (h : t.IsSound) : t.resolveFallbacks.IsSound := by
  refine { h with fallbacks := fun place hplace => ?_ }
  obtain ⟨p, -, hp⟩ := List.mem_map.mp hplace
  obtain ⟨name, -, hname⟩ := Option.bind_eq_some_iff.mp hp
  exact h.isPlace_of_fallbackPlace? hname

theorem IsSound.change (h : t.IsSound) (hchange : Change t t') : t'.IsSound := by
  cases hchange with
  | rule name _ => exact h.modify name fun _ => rfl
  | mailPorts => exact h.modify Tuning.lineProbe fun _ => rfl
  | fallback name _ => exact h.modify name fun _ => rfl

/-- Every step of the tuning keeps tables sound. -/
theorem IsSound.step (h : t.IsSound) (hstep : Step t t') : t'.IsSound := by
  cases hstep with
  | change hchange => exact h.change hchange
  | first port name => exact h.putFirst port name
  | last port name => exact h.putLast port name
  | tls => exact h.enterTls
  | resolve => exact h.resolveFallbacks

theorem IsSound.steps (h : t.IsSound) (hsteps : Steps Step t t') : t'.IsSound := by
  induction hsteps with
  | none => exact h
  | more _ hstep ih => exact ih.step hstep

/-! ## The phases -/

namespace Steps

section

variable {R : Tables → Tables → Prop}

theorem trans {t'' : Tables} (h : Steps R t t') (h' : Steps R t' t'') : Steps R t t'' := by
  induction h' with
  | none => exact h
  | more _ hstep ih => exact ih.more hstep

theorem foldl {α : Type} (f : Tables → α → Tables) (hf : ∀ t a, Steps R t (f t a))
    (items : List α) (t : Tables) : Steps R t (items.foldl f t) :=
  List.foldlRecOn items f .none fun t' h a _ => h.trans (hf t' a)

theorem foldr {α : Type} (f : α → Tables → Tables) (hf : ∀ a t, Steps R t (f a t))
    (items : List α) (t : Tables) : Steps R t (items.foldr f t) :=
  List.foldrRecOn items f .none fun t' h a _ => h.trans (hf a t')

end

theorem of_changes (h : Steps Change t t') : Steps Step t t' := by
  induction h with
  | none => exact .none
  | more _ hchange ih => exact ih.more (.change hchange)

theorem addRule {name directive : String} {added : Bool}
    (hadd : t.addRule name directive = .ok (t', added)) : Steps Change t t' := by
  unfold Tables.addRule at hadd
  split at hadd
  · cases hadd
    exact .none
  · cases hparse : MatchRule.parse directive false with
    | error e =>
        rw [hparse] at hadd
        cases hadd
    | ok parsed =>
        rw [hparse] at hadd
        cases parsed with
        | none =>
            cases hadd
            exact .none
        | some m =>
            cases hadd
            exact .more .none (.rule name hparse)

theorem addRules (t : Tables) : Steps Change t t.addRules := by
  refine foldl _ (fun t group => foldl _ (fun t directive => ?_) _ t) _ t
  split
  · exact addRule ‹_›
  · exact .none

theorem setFallbacks (t : Tables) : Steps Change t t.setFallbacks := by
  refine foldl _ (fun t (name, fallback) => ?_) _ t
  dsimp only
  split
  · rename_i hplace
    exact .more .none (.fallback name (Option.isSome_iff_exists.mpr ⟨_, hplace⟩))
  · exact .none

theorem registerAllFirst (t : Tables) : Steps Step t t.registerAllFirst := by
  unfold Tables.registerAllFirst
  refine foldr _ (fun (ports, names) t => foldl _ (fun t port => ?_) ports t) _ t
  exact foldr _ (fun name _ => .more .none (.first port name)) names t

theorem registerAllLast (t : Tables) : Steps Step t t.registerAllLast := by
  unfold Tables.registerAllLast
  refine foldl _ (fun t (ports, names) => foldl _ (fun t port => ?_) ports t) _ t
  exact foldl _ (fun _ name => .more .none (.last port name)) names t

end Steps

/-- All that is done after the first probe of every name has been taken are steps of the tuning. -/
theorem steps_build (set : ProbeSet) (services : ServiceTable) :
    Steps Step (start set services) (build set services) := by
  have hchanged := (Steps.addRules (start set services)).more .mailPorts
  have hregistered := (hchanged.of_changes.trans (.registerAllFirst _)).trans (.registerAllLast _)
  exact ((hregistered.trans (Steps.setFallbacks _).of_changes).more .tls).more .resolve

/-- The tables of a set of probes are sound, whatever its names and fallbacks are. -/
theorem isSound_build (set : ProbeSet) (services : ServiceTable) : (build set services).IsSound :=
  (isSound_start set services).steps (steps_build set services)

/-- Not all tables are: a place is not that of a probe by being written down. -/
example : ¬ IsSound { tlsPlaces := [0] } := fun h =>
  Nat.not_lt_zero 0 (h.tls 0 List.mem_cons_self)

end Fingerprinting.Nmap.Tables
