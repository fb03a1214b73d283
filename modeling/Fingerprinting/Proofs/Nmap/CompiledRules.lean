/-
# Compiled rules

Every rule of a catalog has been compiled: the rules of a file of directives and those of a corpus
of records are, and so are the ones that tuning appends.  A rule that has been compiled is for some
service, whose name is not empty, so a reply that it matches is recognised.

* `service_ne_empty` says that compiled rules have services;
* `isCompiled_parse` and `isCompiled_load` say that what is read has compiled rules only;
* `isCompiled_new` says that the catalog made of it has no others.
-/
import Fingerprinting.Nmap.Catalog
import Fingerprinting.Proofs.Nmap.Names
import Fingerprinting.Proofs.Nmap.ReportedNames

namespace Fingerprinting.Nmap

/-! ## Rules -/

namespace MatchRule

/-- A rule was compiled, for whatever service. -/
def IsCompiled (m : MatchRule) : Prop := ∃ service, m.IsFor service

theorem isCompiled_of_compile {service pattern flags : String} {soft : Bool} {info : VersionInfo}
    {m : MatchRule} (h : compile service pattern flags soft info = .ok (some m)) : m.IsCompiled :=
  ⟨service, pattern, flags, soft, info, h⟩

theorem isCompiled_of_parse {args : String} {soft : Bool} {m : MatchRule}
    (h : parse args soft = .ok (some m)) : m.IsCompiled := by
  unfold parse at h
  split at h
  · exact isCompiled_of_compile h
  · cases h

/-- A rule that can be read and is supported was compiled. -/
theorem isCompiled_of_mem_toList {args : String} {soft : Bool} {m : MatchRule}
    (h : m ∈ ((parse args soft).toOption.bind id).toList) : m.IsCompiled := by
  rw [Option.mem_toList, Option.bind_eq_some_iff] at h
  obtain ⟨parsed, hparsed, hm⟩ := h
  cases hparse : parse args soft with
  | error e =>
      rw [hparse] at hparsed
      cases hparsed
  | ok rule =>
      rw [hparse] at hparsed
      obtain rfl : rule = parsed := Option.some.inj hparsed
      rw [show rule = some m from hm] at hparse
      exact isCompiled_of_parse hparse

/-- No name is spelled away. -/
theorem serviceChars_ne_nil {cs : List Char} (h : cs ≠ []) : serviceChars cs ≠ [] := by
  fun_cases serviceChars cs with
  | case1 _ name hname =>
      have hnames : ∀ e ∈ reportedNames, e.2.toList ≠ [] := by decide
      exact hnames _ (mem_of_lookup hname)
  | case2 c rest => exact List.append_ne_nil_of_right_ne_nil _ (by decide)
  | case3 c rest => exact List.cons_ne_nil _ _
  | case4 c rest => exact List.cons_ne_nil _ _
  | case5 => exact h

/-- A rule is for a service. -/
theorem IsCompiled.service_ne_empty {m : MatchRule} (h : m.IsCompiled) : m.service ≠ "" := by
  obtain ⟨service, hfor⟩ := h
  have hservice : service ≠ "" := by
    obtain ⟨pattern, flags, soft, info, hcompile⟩ := hfor
    rintro rfl
    cases hcompile
  rw [hfor.service_eq, serviceName, Ne, String.ofList_eq_empty_iff]
  refine serviceChars_ne_nil ?_
  rw [hyphenate, Ne, List.map_eq_nil_iff, String.toList_eq_nil_iff]
  exact hservice

end MatchRule

/-! ## Probes -/

/-- The rules of a probe were compiled. -/
def Probe.IsCompiled (p : Probe) : Prop := ∀ m ∈ p.rules, m.IsCompiled

/-- The rules of a set of probes were compiled. -/
def ProbeSet.IsCompiled (set : ProbeSet) : Prop := ∀ p ∈ set.probes, p.IsCompiled

/-- The rules of the probes of tables were compiled. -/
def Tables.IsCompiled (t : Tables) : Prop := ∀ p ∈ t.probes, p.IsCompiled

namespace Probe

theorem isCompiled_new (protocol : Protocol) (name : String) (payload : Bytes) :
    (new protocol name payload).IsCompiled := by
  intro m hm
  cases hm

/-- A probe with one more rule. -/
theorem IsCompiled.append {p : Probe} (h : p.IsCompiled) {rules : List MatchRule}
    (hrules : ∀ m ∈ rules, m.IsCompiled) : IsCompiled { p with rules := p.rules ++ rules } := by
  intro m hm
  rcases List.mem_append.mp hm with hm | hm
  · exact h m hm
  · exact hrules m hm

/-- A rule that is read is appended if it is supported. -/
theorem isCompiled_toList {args : String} {soft : Bool} {m : Option MatchRule}
    (h : MatchRule.parse args soft = .ok m) : ∀ m' ∈ m.toList, m'.IsCompiled := by
  intro m' hm'
  rw [Option.mem_toList.mp hm'] at h
  exact MatchRule.isCompiled_of_parse h

/-- One more directive about a probe. -/
theorem IsCompiled.after {p p' : Probe} (h : p.IsCompiled) {command args : String}
    (hafter : p.after command args = .ok p') : p'.IsCompiled := by
  unfold Probe.after at hafter
  split at hafter
  case h_9 =>
    cases hafter
    exact h
  all_goals obtain ⟨a, ha, hp⟩ := (Results.bind_eq_ok_iff _ _ _).mp hafter
  all_goals cases hp
  case h_1 => exact h.append (isCompiled_toList ha)
  case h_2 => exact h.append (isCompiled_toList ha)
  all_goals exact h

end Probe

/-! ## Sets of probes -/

namespace ProbeSet

/-- One more directive of a file. -/
theorem isCompiled_next {r r' : Reading} {line : String} (h : r.next line = .ok r')
    (hr : r.finish.IsCompiled) : r'.finish.IsCompiled := by
  unfold Reading.next at h
  dsimp only at h
  split at h
  · obtain ⟨l, -, hl⟩ := (Results.bind_eq_ok_iff _ _ _).mp h
    cases hl
    exact hr
  · split at h
    · obtain ⟨p, hp, hnext⟩ := (Results.bind_eq_ok_iff _ _ _).mp h
      cases hnext
      have hnew : p.IsCompiled := by
        unfold probeOf at hp
        split at hp
        · obtain ⟨protocol, -, hp⟩ := (Results.bind_eq_ok_iff _ _ _).mp hp
          obtain ⟨payload, -, hp⟩ := (Results.bind_eq_ok_iff _ _ _).mp hp
          cases hp
          exact Probe.isCompiled_new _ _ _
        · cases hp
      exact List.forall_mem_append.mpr ⟨hr, List.forall_mem_singleton.mpr hnew⟩
    · split at h
      · cases h
      · rename_i p hcurrent
        obtain ⟨p', hp', hnext⟩ := (Results.bind_eq_ok_iff _ _ _).mp h
        cases hnext
        rw [IsCompiled, Reading.finish, hcurrent] at hr
        obtain ⟨hbefore, hp⟩ := List.forall_mem_append.mp hr
        have hafter := (hp p (List.mem_singleton_self p)).after hp'
        exact List.forall_mem_append.mpr ⟨hbefore, List.forall_mem_singleton.mpr hafter⟩

theorem isCompiled_lines {r r' : Reading} {number : Nat} {lines : List String}
    (h : r.lines number lines = .ok r') (hr : r.finish.IsCompiled) : r'.finish.IsCompiled := by
  induction lines generalizing r number with
  | nil =>
      cases h
      exact hr
  | cons line rest ih =>
      rw [Reading.lines] at h
      split at h
      · exact ih h hr
      · split at h
        · rename_i hnext
          exact ih h (isCompiled_next hnext hr)
        · cases h

/-- The rules of a file of directives are compiled. -/
theorem isCompiled_parse {s : String} {set : ProbeSet} (h : parse s = .ok set) :
    set.IsCompiled := by
  obtain ⟨r, hr, hset⟩ := (Results.bind_eq_ok_iff _ _ _).mp h
  cases hset
  refine isCompiled_lines hr ?_
  intro p hp
  cases hp

/-- The rules of a corpus of records are compiled. -/
theorem isCompiled_load {data : Bytes} {set : ProbeSet} (h : load data = .ok set) :
    set.IsCompiled := by
  obtain ⟨plain, -, h⟩ := (Results.bind_eq_ok_iff _ _ _).mp h
  obtain ⟨⟨records, services⟩, -, h⟩ := (Results.bind_eq_ok_iff _ _ _).mp h
  dsimp only at h
  split at h
  · rename_i probes hprobes
    cases h
    intro p hp
    obtain ⟨record, -, hrecord⟩ := Results.exists_of_mem_mapM _ hprobes p hp
    obtain ⟨rules, hrules, hp⟩ := (Results.bind_eq_ok_iff _ _ _).mp hrecord
    cases hp
    intro m hm
    obtain ⟨rule, hrule, hm⟩ := List.mem_filterMap.mp hm
    rw [show rule = some m from hm] at hrule
    obtain ⟨r, -, hr⟩ := Results.exists_of_mem_mapM _ hrules _ hrule
    exact MatchRule.isCompiled_of_compile hr
  · cases h

end ProbeSet

/-! ## Catalogs -/

namespace Tables

variable {t t' : Tables}

/-- A change of one probe. -/
theorem IsCompiled.modify (h : t.IsCompiled) (name : String) {f : Probe → Probe}
    (hf : ∀ p, p.IsCompiled → (f p).IsCompiled) : (t.modify name f).IsCompiled := by
  unfold Tables.modify
  split
  · intro p hp
    obtain ⟨i, hi⟩ := List.getElem?_of_mem hp
    rw [List.getElem?_modify] at hi
    obtain ⟨q, hq, rfl⟩ := Option.map_eq_some_iff.mp hi
    have hcompiled := h q (List.mem_of_getElem? hq)
    split_ifs
    · exact hf q hcompiled
    · exact hcompiled
  · exact h

/-- Rules that the tuning appends have been read, and so they are compiled. -/
theorem IsCompiled.change (h : t.IsCompiled) (hchange : Change t t') : t'.IsCompiled := by
  cases hchange with
  | rule name hrule =>
      have hnew := MatchRule.isCompiled_of_parse hrule
      exact h.modify name fun p hp => hp.append (List.forall_mem_singleton.mpr hnew)
  | mailPorts => exact h.modify Tuning.lineProbe fun _ hp => hp
  | fallback name _ => exact h.modify name fun _ hp => hp

theorem IsCompiled.step (h : t.IsCompiled) (hstep : Step t t') : t'.IsCompiled := by
  cases hstep with
  | change hchange => exact h.change hchange
  | first port name =>
      unfold putFirst
      split
      · exact h
      · exact h
  | last port name =>
      unfold putLast
      split
      · exact h
      · exact h
  | tls => exact h
  | resolve => exact h

theorem IsCompiled.steps (h : t.IsCompiled) (hsteps : Steps Step t t') : t'.IsCompiled := by
  induction hsteps with
  | none => exact h
  | more _ hstep ih => exact ih.step hstep

end Tables

/-- The rules of a catalog are compiled when those of its set of probes are. -/
theorem Catalog.isCompiled_new {set : ProbeSet} (h : set.IsCompiled) (services : ServiceTable) :
    (new set services).IsCompiled := by
  have hstart : (Tables.start set services).IsCompiled := by
    intro p hp
    rw [Tables.probes_start] at hp
    have hfirst := Tables.find?_of_mem_firstOfName _ p hp
    obtain ⟨q, hq, rfl⟩ := List.mem_map.mp (List.mem_of_find?_eq_some hfirst)
    unfold Tables.rated
    split
    · exact h q hq
    · exact h q hq
  exact hstart.steps (Tables.steps_build set services)

end Fingerprinting.Nmap
