/-
# The names of probes

Of several probes of one name tables have the first, and then the tuning adds rules, ports and
fallbacks.  No step of the tuning changes a name or where it leads, so a place that is found at any
step is that of the same probe ever after.

* `probes_start` says which probes are taken, with `names_firstOfName` and
  `find?_of_mem_firstOfName`;
* `Tunes` says what a step of the tuning leaves as it is, and `Tunes.of_steps` that all of them do;
* `IsSound.nodup_names` says that names are distinct.

Main statement: `build_names`.
-/
import Mathlib.Data.List.Forall2
import Mathlib.Data.List.Induction
import Mathlib.Data.List.Nodup
import Fingerprinting.Proofs.Lists
import Fingerprinting.Proofs.Nmap.Tables

namespace Fingerprinting.Nmap

/-! ## Tuning a probe -/

/-- What the tuning leaves of a probe `q` in a probe `p`: it appends rules and ports inside TLS and
may name another fallback. -/
structure Probe.Tuned (q p : Probe) : Prop where
  name : p.name = q.name
  protocol : p.protocol = q.protocol
  payload : p.payload = q.payload
  rarity : p.rarity = q.rarity
  ports : p.ports = q.ports
  sslPorts : q.sslPorts.ranges <+: p.sslPorts.ranges
  rules : q.rules <+: p.rules

namespace Probe.Tuned

@[refl]
theorem refl (q : Probe) : Tuned q q :=
  ⟨rfl, rfl, rfl, rfl, rfl, List.prefix_rfl, List.prefix_rfl⟩

theorem trans {q p r : Probe} (h : Tuned q p) (h' : Tuned p r) : Tuned q r where
  name := h'.name.trans h.name
  protocol := h'.protocol.trans h.protocol
  payload := h'.payload.trans h.payload
  rarity := h'.rarity.trans h.rarity
  ports := h'.ports.trans h.ports
  sslPorts := h.sslPorts.trans h'.sslPorts
  rules := h.rules.trans h'.rules

end Probe.Tuned

theorem PortList.ranges_prefix_push (l : PortList) (port : Nat) :
    l.ranges <+: (l.push port).ranges := by
  unfold PortList.push
  split
  · exact List.prefix_rfl
  · exact List.prefix_append _ _

theorem PortList.ranges_prefix_foldl_push (l : PortList) (ports : List Nat) :
    l.ranges <+: (ports.foldl PortList.push l).ranges := by
  induction ports generalizing l with
  | nil => exact List.prefix_rfl
  | cons port rest ih => exact (l.ranges_prefix_push port).trans (ih _)

namespace Tables

variable {t t' : Tables}

/-! ## Names and places -/

/-- Where a name leads, there is the probe that has it. -/
theorem IsSound.place?_eq_some_iff (h : t.IsSound) (name : String) (place : Nat) :
    t.place? name = some place ↔ ∃ p, t.probes[place]? = some p ∧ p.name = name := by
  rw [h.names, Option.map_eq_some_iff]

/-- No two probes have one name. -/
theorem IsSound.nodup_names (h : t.IsSound) : (t.probes.map Probe.name).Nodup := by
  refine List.nodup_iff_getElem?_ne_getElem?.mpr fun i j hij hj hsame => ?_
  rw [List.length_map] at hj
  rw [List.getElem?_map, List.getElem?_map, List.getElem?_eq_getElem hj] at hsame
  -- The name leads to both places.
  have hi := (h.names _ i).mpr hsame
  rw [(h.names t.probes[j].name j).mpr (by rw [List.getElem?_eq_getElem hj]; rfl)] at hi
  exact absurd (Option.some.inj hi) (Nat.ne_of_gt hij)

theorem IsSound.contains_iff (h : t.IsSound) (name : String) :
    t.names.contains name = true ↔ ∃ p ∈ t.probes, p.name = name := by
  rw [Dictionary.contains, Option.isSome_iff_exists]
  constructor
  · rintro ⟨place, hplace⟩
    obtain ⟨p, hp, hname⟩ := (h.place?_eq_some_iff name place).mp hplace
    exact ⟨p, List.mem_of_getElem? hp, hname⟩
  · rintro ⟨p, hp, hname⟩
    obtain ⟨place, hplace⟩ := List.getElem?_of_mem hp
    exact ⟨place, (h.place?_eq_some_iff name place).mpr ⟨p, hplace, hname⟩⟩

/-! ## The first probe of a name -/

/-- The first probe of every name. -/
def firstOfName (probes : List Probe) : List Probe :=
  probes.foldl (fun ps p => if ps.any fun q => q.name == p.name then ps else ps ++ [p]) []

theorem firstOfName_concat (probes : List Probe) (p : Probe) :
    firstOfName (probes ++ [p]) =
      if (firstOfName probes).any fun q => q.name == p.name then firstOfName probes
      else firstOfName probes ++ [p] := by
  rw [firstOfName, List.foldl_concat]
  rfl

/-- Every name is kept at its first occurrence. -/
theorem names_firstOfName (probes : List Probe) :
    (firstOfName probes).map Probe.name = (probes.map Probe.name).eraseDups := by
  induction probes using List.reverseRecOn with
  | nil => rfl
  | append_singleton probes p ih =>
      have hany : ((firstOfName probes).any fun q => q.name == p.name) = true ↔
          p.name ∈ probes.map Probe.name := by
        rw [← List.mem_eraseDups, ← ih]
        simp
      rw [firstOfName_concat, List.map_append, List.map_singleton]
      by_cases hp : p.name ∈ probes.map Probe.name
      · rw [if_pos (hany.mpr hp), Lists.eraseDups_append_of_mem _ _ hp]
        exact ih
      · rw [if_neg (mt hany.mp hp), Lists.eraseDups_append_of_not_mem _ _ hp, List.map_append, ih,
          List.map_singleton]

/-- What is kept of a name is the first probe that has it. -/
theorem find?_of_mem_firstOfName (probes : List Probe) (p : Probe) (h : p ∈ firstOfName probes) :
    probes.find? (fun q => q.name == p.name) = some p := by
  induction probes using List.reverseRecOn with
  | nil => cases h
  | append_singleton probes q ih =>
      rw [firstOfName_concat] at h
      rw [List.find?_append]
      split_ifs at h with hany
      · rw [ih h]
        rfl
      · rcases List.mem_append.mp h with hp | hp
        · rw [ih hp]
          rfl
        · -- The probe is new, so none before it has its name.
          rw [List.mem_singleton.mp hp]
          have hnone : probes.find? (fun r => r.name == q.name) = none := by
            rw [List.find?_eq_none]
            intro r hr hname
            have hmem : r.name ∈ (firstOfName probes).map Probe.name := by
              rw [names_firstOfName, List.mem_eraseDups]
              exact List.mem_map_of_mem hr
            rw [beq_iff_eq.mp hname] at hmem
            exact hany (by simpa using hmem)
          rw [hnone]
          simp

/-- The probes that are inserted into tables without a probe are the first of their names. -/
theorem probes_foldl_insert (probes : List Probe) (h : t.IsSound) (hnone : t.probes = []) :
    (probes.foldl insert t).IsSound ∧ (probes.foldl insert t).probes = firstOfName probes := by
  induction probes using List.reverseRecOn with
  | nil => exact ⟨h, hnone⟩
  | append_singleton probes p ih =>
      obtain ⟨hsound, hprobes⟩ := ih
      rw [List.foldl_concat]
      refine ⟨hsound.insert p, ?_⟩
      have hknown : (probes.foldl insert t).names.contains p.name = true ↔
          ((firstOfName probes).any fun q => q.name == p.name) = true := by
        rw [hsound.contains_iff, hprobes]
        simp
      rw [firstOfName_concat, insert]
      by_cases hp : ((firstOfName probes).any fun q => q.name == p.name) = true
      · rw [if_pos hp, if_pos (hknown.mpr hp), hprobes]
      · rw [if_neg hp, if_neg (mt hknown.mp hp), hprobes]

theorem probes_start (set : ProbeSet) (services : ServiceTable) :
    (start set services).probes = firstOfName (set.probes.map rated) :=
  (probes_foldl_insert _ (isSound_of_none _ _) rfl).2

/-- The tuning finds nothing registered, and what is not to be probed is as the set of probes has
it. -/
theorem start_registers (set : ProbeSet) (services : ServiceTable) :
    (start set services).first = {} ∧ (start set services).last = {} ∧
      (start set services).excluded = set.excluded := by
  refine List.foldlRecOn
    (motive := fun t : Tables => t.first = {} ∧ t.last = {} ∧ t.excluded = set.excluded)
    (set.probes.map rated) insert ⟨rfl, rfl, rfl⟩ fun t h p _ => ?_
  rw [insert]
  split
  · exact h
  · exact h

/-! ## Steps of the tuning -/

/-- The tuning leaves probes where they are, the table of their names, and what is not to be
probed. -/
structure Tunes (t t' : Tables) : Prop where
  probes : List.Forall₂ Probe.Tuned t.probes t'.probes
  names : t'.names = t.names
  excluded : t'.excluded = t.excluded

theorem forall₂_tuned_trans {qs ps rs : List Probe} (h : List.Forall₂ Probe.Tuned qs ps)
    (h' : List.Forall₂ Probe.Tuned ps rs) : List.Forall₂ Probe.Tuned qs rs := by
  induction h generalizing rs with
  | nil => exact h'
  | cons hq _ ih =>
      cases h' with
      | cons hp hrest => exact .cons (hq.trans hp) (ih hrest)

theorem exists_tuned_of_mem {qs ps : List Probe} (h : List.Forall₂ Probe.Tuned qs ps) {p : Probe}
    (hp : p ∈ ps) : ∃ q ∈ qs, Probe.Tuned q p := by
  induction h with
  | nil => cases hp
  | @cons q r _ _ hq _ ih =>
      rcases List.mem_cons.mp hp with rfl | hp
      · exact ⟨q, List.mem_cons_self, hq⟩
      · obtain ⟨q', hq', htuned⟩ := ih hp
        exact ⟨q', List.mem_cons_of_mem _ hq', htuned⟩

/-- A change of one probe. -/
theorem forall₂_tuned_modify {f : Probe → Probe} (hf : ∀ p, Probe.Tuned p (f p))
    (ps : List Probe) (place : Nat) : List.Forall₂ Probe.Tuned ps (ps.modify place f) := by
  induction ps generalizing place with
  | nil =>
      rw [List.modify_nil]
      exact .nil
  | cons p rest ih =>
      cases place with
      | zero => exact .cons (hf p) (List.forall₂_same.mpr fun q _ => .refl q)
      | succ place => exact .cons (.refl p) (ih place)

namespace Tunes

@[refl]
theorem refl (t : Tables) : Tunes t t :=
  ⟨List.forall₂_same.mpr fun p _ => .refl p, rfl, rfl⟩

theorem trans {t'' : Tables} (h : Tunes t t') (h' : Tunes t' t'') : Tunes t t'' :=
  ⟨forall₂_tuned_trans h.probes h'.probes, h'.names.trans h.names, h'.excluded.trans h.excluded⟩

theorem modify (t : Tables) (name : String) {f : Probe → Probe} (hf : ∀ p, Probe.Tuned p (f p)) :
    Tunes t (t.modify name f) := by
  unfold Tables.modify
  split
  · exact ⟨forall₂_tuned_modify hf _ _, rfl, rfl⟩
  · exact .refl t

/-- Steps that do not touch the probes. -/
theorem of_probes_eq (hprobes : t'.probes = t.probes) (hnames : t'.names = t.names)
    (hexcluded : t'.excluded = t.excluded) : Tunes t t' :=
  ⟨hprobes ▸ List.forall₂_same.mpr fun p _ => .refl p, hnames, hexcluded⟩

theorem of_change (h : Change t t') : Tunes t t' := by
  cases h with
  | rule name _ =>
      exact .modify t name fun p =>
        ⟨rfl, rfl, rfl, rfl, rfl, List.prefix_rfl, List.prefix_append _ _⟩
  | mailPorts =>
      exact .modify t _ fun p =>
        ⟨rfl, rfl, rfl, rfl, rfl, p.sslPorts.ranges_prefix_foldl_push _, List.prefix_rfl⟩
  | fallback name _ =>
      exact .modify t name fun p =>
        ⟨rfl, rfl, rfl, rfl, rfl, List.prefix_rfl, List.prefix_rfl⟩

theorem of_step (h : Step t t') : Tunes t t' := by
  cases h with
  | change hchange => exact .of_change hchange
  | first port name =>
      unfold putFirst
      split
      · exact .of_probes_eq rfl rfl rfl
      · exact .refl t
  | last port name =>
      unfold putLast
      split
      · exact .of_probes_eq rfl rfl rfl
      · exact .refl t
  | tls => exact .of_probes_eq rfl rfl rfl
  | resolve => exact .of_probes_eq rfl rfl rfl

theorem of_steps (h : Steps Step t t') : Tunes t t' := by
  induction h with
  | none => exact .refl t
  | more _ hstep ih => exact ih.trans (of_step hstep)

theorem names_eq (h : Tunes t t') : t'.probes.map Probe.name = t.probes.map Probe.name := by
  rw [← List.forall₂_eq_eq_eq, List.forall₂_map_left_iff, List.forall₂_map_right_iff]
  exact h.probes.flip.imp fun p q hq => hq.name

/-- What is found while tables are tuned is still there afterwards. -/
theorem place?_eq (h : Tunes t t') (name : String) : t'.place? name = t.place? name := by
  rw [place?, place?, h.names]

end Tunes

theorem tunes_build (set : ProbeSet) (services : ServiceTable) :
    Tunes (start set services) (build set services) :=
  .of_steps (steps_build set services)

/-- The names of tables are those that their set of probes has, each once and in the order of their
first occurrences, and every probe is the first of its name up to tuning. -/
theorem build_names (set : ProbeSet) (services : ServiceTable) :
    (build set services).probes.map Probe.name = (set.probes.map Probe.name).eraseDups ∧
    ∀ p ∈ (build set services).probes,
      ∃ q, set.probes.find? (fun q => q.name == p.name) = some q ∧ Probe.Tuned (rated q) p := by
  have hrated : ∀ q, (rated q).name = q.name := by
    intro q
    unfold rated
    split_ifs <;> rfl
  have htunes := tunes_build set services
  constructor
  · rw [htunes.names_eq, probes_start, names_firstOfName, List.map_map]
    congr 1
    exact List.map_congr_left fun q _ => hrated q
  · intro p hp
    obtain ⟨r, hr, htuned⟩ := exists_tuned_of_mem htunes.probes hp
    rw [probes_start] at hr
    have hfind := find?_of_mem_firstOfName _ r hr
    rw [List.find?_map, Option.map_eq_some_iff] at hfind
    obtain ⟨q, hq, rfl⟩ := hfind
    refine ⟨q, ?_, htuned⟩
    rw [htuned.name, ← hq]
    congr 1
    funext q'
    simp [hrated]

end Tables

end Fingerprinting.Nmap
