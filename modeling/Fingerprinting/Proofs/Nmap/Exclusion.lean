/-
# Ports that are not to be probed

A file of directives lists ports that are not to be probed, in `Exclude` directives, of which the
last one counts.  A catalog of the file keeps what it lists, and the scan of a TCP port looks there
before it sends anything.  The scan of a UDP port does not.

* `decides_next` says what one directive does to the list, and `decides_lines` what all of them do;
* `excluded_of_parse` says what a catalog of a file excludes;
* `excluded_scan` says when the scan of a listed port sends nothing.
-/
import Fingerprinting.Proofs.Nmap.Names
import Fingerprinting.Proofs.Nmap.PortList
import Fingerprinting.Proofs.Nmap.UdpScan

namespace Fingerprinting.Nmap

open Tables

/-! ## Directives -/

namespace ProbeSet

/-- The list of ports of a line that is an `Exclude` directive. -/
def exclude? (line : String) : Option String :=
  if line = "Exclude" then some "" else Text.after "Exclude " line

/-- The lists of ports of the `Exclude` directives of a file, in order. -/
def excludeLists (s : String) : List String :=
  (Text.lines s).filterMap fun line => exclude? (Text.trimEnd line)

/-- The directive and what it says: the word before the first space, and what follows the space. -/
theorem exclude?_eq (line : String) :
    exclude? line =
      let (command, args) := (Text.cut ' ' line).getD (line, "")
      if command = "Exclude" then some args else none := by
  unfold exclude?
  split
  · rename_i hline
    rw [hline]
    decide +kernel
  · rename_i hline
    cases hafter : Text.after "Exclude " line with
    | some args =>
        have hcut := Text.cut_append ' ' "Exclude" args (by decide +kernel)
        have hline : line = "Exclude" ++ String.singleton ' ' ++ args := Text.of_after _ _ _ hafter
        rw [hline, hcut]
        rfl
    | none =>
        cases hcut : Text.cut ' ' line with
        | none => simp [hline]
        | some parts =>
            obtain ⟨command, args⟩ := parts
            have hcommand : command ≠ "Exclude" := by
              rintro rfl
              rw [Text.of_cut _ _ _ _ hcut] at hafter
              have hfound := Text.after_append "Exclude " args
              exact Option.some_ne_none _ (hfound.symm.trans hafter)
            simp [hcommand]

/-- An idle line is no directive. -/
theorem exclude?_of_isIdle (line : String) (h : isIdle line = true) : exclude? line = none := by
  have hword : line ≠ "Exclude" := by
    rintro rfl
    exact absurd h (by decide +kernel)
  rw [exclude?, if_neg hword]
  cases hafter : Text.after "Exclude " line with
  | none => rfl
  | some args =>
      rw [Text.of_after _ _ _ hafter, isIdle, String.utf8ByteSize_append, String.toList_append] at h
      have hsize : ("Exclude ").utf8ByteSize = 8 := by decide +kernel
      have hletter : ("Exclude ".toList ++ args.toList).head? = some 'E' := rfl
      rw [hsize, hletter, Bool.or_eq_true, decide_eq_true_eq] at h
      rcases h with h | h
      · omega
      · cases h

/-- What has been read as not to be probed after some `Exclude` directives: what the last of them
lists. -/
def Decides (before : PortList) (lists : List String) (after : PortList) : Prop :=
  match lists.getLast? with
  | some args => PortList.parse args = .ok after
  | none => after = before

theorem Decides.trans {first second third : PortList} {lists more : List String}
    (h : Decides first lists second) (h' : Decides second more third) :
    Decides first (lists ++ more) third := by
  unfold Decides at *
  rw [List.getLast?_append]
  cases hmore : more.getLast? with
  | some args =>
      rw [hmore] at h'
      exact h'
  | none =>
      rw [hmore] at h'
      rw [h']
      exact h

/-- One more directive. -/
theorem decides_next {r r' : Reading} {line : String} (h : r.next line = .ok r') :
    Decides r.set.excluded (exclude? line).toList r'.set.excluded := by
  rw [exclude?_eq]
  unfold Reading.next at h
  generalize (Text.cut ' ' line).getD (line, "") = parts at h ⊢
  obtain ⟨command, args⟩ := parts
  dsimp only at h ⊢
  by_cases hexclude : command = "Exclude"
  · rw [if_pos hexclude] at h ⊢
    obtain ⟨l, hl, hr⟩ := (Results.bind_eq_ok_iff _ _ _).mp h
    cases hr
    exact hl
  · rw [if_neg hexclude] at h ⊢
    show r'.set.excluded = r.set.excluded
    split at h
    · obtain ⟨p, -, hr⟩ := (Results.bind_eq_ok_iff _ _ _).mp h
      cases hr
      rfl
    · split at h
      · cases h
      · obtain ⟨p, -, hr⟩ := (Results.bind_eq_ok_iff _ _ _).mp h
        cases hr
        rfl

/-- The lines of a file, one after the other. -/
theorem decides_lines {r r' : Reading} {number : Nat} {lines : List String}
    (h : r.lines number lines = .ok r') :
    Decides r.set.excluded (lines.filterMap fun line => exclude? (Text.trimEnd line))
      r'.set.excluded := by
  induction lines generalizing r number with
  | nil =>
      cases h
      rfl
  | cons line rest ih =>
      have hcons : (line :: rest).filterMap (fun line => exclude? (Text.trimEnd line)) =
          (exclude? (Text.trimEnd line)).toList ++
            rest.filterMap fun line => exclude? (Text.trimEnd line) := by
        rw [List.filterMap_cons]
        cases exclude? (Text.trimEnd line) <;> rfl
      rw [Reading.lines] at h
      rw [hcons]
      split at h
      · rename_i hidle
        rw [exclude?_of_isIdle _ hidle]
        exact ih h
      · split at h
        · rename_i r'' hnext
          exact (decides_next hnext).trans (ih h)
        · cases h

/-- The ports that are not to be probed are those that the last `Exclude` directive of the file
lists. -/
theorem decides_parse {s : String} {set : ProbeSet} (h : parse s = .ok set) :
    Decides {} (excludeLists s) set.excluded := by
  obtain ⟨r, hr, hset⟩ := (Results.bind_eq_ok_iff _ _ _).mp h
  cases hset
  exact decides_lines hr

end ProbeSet

namespace Catalog

/-! ## Building -/

/-- What tuning does leaves alone what is not to be probed. -/
theorem excluded_new (set : ProbeSet) (services : ServiceTable) :
    (new set services).excluded = set.excluded :=
  (tunes_build set services).excluded.trans (start_registers set services).2.2

/-- A catalog of a file excludes what its last `Exclude` directive lists. -/
theorem excluded_of_parse {s args : String} {services : ServiceTable} {c : Catalog}
    (h : Catalog.parse s services = .ok c)
    (hargs : (ProbeSet.excludeLists s).getLast? = some args) :
    PortList.parse args = .ok c.excluded := by
  unfold Catalog.parse at h
  split at h
  · rename_i set hset
    have hdecides := ProbeSet.decides_parse hset
    rw [ProbeSet.Decides, hargs] at hdecides
    rw [← Except.ok.inj h, excluded_new]
    exact hdecides
  · cases h

/-! ## Scans -/

/-- A walk sends something whenever there is a probe to send. -/
theorem sent_walk_ne_nil (c : Catalog) (host : String) (port : Nat) (seen : ScanOutcome)
    (place : Nat) (rest : List Nat) (hplace : c.IsPlace place) (σ : Type)
    (peer : Dialog.Peer ProbeRequest ProbeReply σ) (s : σ) :
    ((c.walk host port [] seen (place :: rest)).run peer s).sent ≠ [] := by
  have hp : c.probes[place]? = some c.probes[place] := List.getElem?_eq_getElem hplace
  rw [walk, if_neg (by simp), Tables.send, sendOver, hp]
  exact List.cons_ne_nil _ _

/-- The scan of a TCP port that a file excludes sends nothing.  That of a UDP port sends nothing
only when no probe is selected for it.  Where nothing is sent, nothing is matched. -/
theorem excluded_scan {s args : String} {services : ServiceTable} {c : Catalog}
    (hparse : Catalog.parse s services = .ok c)
    (hargs : (ProbeSet.excludeLists s).getLast? = some args) {text : String} {port : Nat}
    {udp : Bool} (hport : port? text = some (port, udp)) (hlists : PortList.Lists args port)
    (host : String) (level : Nat) {σ : Type} (peer : Dialog.Peer ProbeRequest ProbeReply σ)
    (state : σ) :
    (((c.scan host text level).run peer state).sent = [] ↔
      udp = false ∨ c.selectUdp port level = []) ∧
    (((c.scan host text level).run peer state).sent = [] →
      ((c.scan host text level).run peer state).result = .notMatched) := by
  have hexcluded : c.excluded.contains port = true :=
    (PortList.contains_of_parse (excluded_of_parse hparse hargs) port).mpr hlists
  cases udp with
  | false =>
      have hscan : c.scan host text level = .done .notMatched := by
        unfold scan
        rw [hport]
        exact if_pos hexcluded
      rw [hscan]
      exact ⟨⟨fun _ => .inl rfl, fun _ => rfl⟩, fun _ => rfl⟩
  | true =>
      rw [scan_of_udp c host level hport]
      cases hselect : c.selectUdp port level with
      | nil => exact ⟨⟨fun _ => .inr rfl, fun _ => rfl⟩, fun _ => rfl⟩
      | cons place rest =>
          have hplace : c.IsPlace place :=
            c.isPlace_of_isUdp _ (c.isUdp_of_mem_selectUdp port level _ (by simp [hselect]))
          have hsent := c.sent_walk_ne_nil host port .notMatched place rest hplace σ peer state
          exact ⟨⟨fun h => absurd h hsent, by simp⟩, fun h => absurd h hsent⟩

/-- A file that excludes the only port of its only probe, and more. -/
def excludingOnly : String := "Exclude T:20-22,U:53\nProbe UDP Hello q|hi|\nports 53\n"

/-- The port of the file as a TCP port, to which nothing is sent, and as a UDP port, to which every
scan sends something. -/
theorem excluded_scan_of_only : ∃ c,
    Catalog.parse excludingOnly {} = .ok c ∧
      ∀ (σ : Type) (peer : Dialog.Peer ProbeRequest ProbeReply σ) (state : σ),
        ((c.scan "localhost" "53" 1).run peer state).sent = [] ∧
          ((c.scan "localhost" "U:53" 1).run peer state).sent ≠ [] := by
  obtain ⟨c, hparse, hselect⟩ :=
    Results.exists_of_map_toOption (Catalog.parse excludingOnly {}) (fun c => c.selectUdp 53 1) [0]
      (by decide +kernel)
  have hargs : (ProbeSet.excludeLists excludingOnly).getLast? = some "T:20-22,U:53" := by
    decide +kernel
  have htcp : port? "53" = some (53, false) := rfl
  have hudp : port? "U:53" = some (53, true) := rfl
  have hlists : PortList.Lists "T:20-22,U:53" 53 :=
    ⟨"U:53", by decide +kernel, .alone "U:" "53" (by decide) (by decide +kernel)⟩
  refine ⟨c, hparse, fun σ peer state => ⟨?_, fun hsent => ?_⟩⟩
  · exact (excluded_scan hparse hargs htcp hlists "localhost" 1 peer state).1.mpr (.inl rfl)
  · rcases (excluded_scan hparse hargs hudp hlists "localhost" 1 peer state).1.mp hsent with h | h
    · cases h
    · rw [hselect] at h
      cases h

end Catalog

end Fingerprinting.Nmap
