/-
# Places in selections

Probes are known by their places, and a scan sends the probes at the places that are selected.  In
sound tables every place that is selected is that of a probe, and none is selected twice.

* `IsSound.isPlace_of_mem_select` says so of the selection for a TCP port, which `nodup_select` says
  is without repetition;
* `mem_selectUdp_iff` says which places are selected for a UDP port, and `nodup_selectUdp` that none
  is selected twice.
-/
import Mathlib.Data.List.Nodup
import Fingerprinting.Nmap.Catalog
import Fingerprinting.Proofs.Lists

namespace Fingerprinting.Nmap

namespace Tables

/-! ## Places of tests -/

theorem isPlace_of_mem_placesWhere (t : Tables) (test : Probe → Bool) (p : Probe × Nat)
    (h : p ∈ t.placesWhere test) : t.IsPlace p.2 := by
  have hmem := (List.mem_filter.mp h).1
  exact (List.mem_zipIdx' hmem).1

/-- Sorting by rarity keeps the places. -/
theorem mem_byRarity (ps : List (Probe × Nat)) (place : Nat) :
    place ∈ byRarity ps ↔ place ∈ ps.map Prod.snd :=
  ((List.mergeSort_perm ps _).map Prod.snd).mem_iff

/-! ## Selections -/

theorem isPlace_of_mem_upToRarity (t : Tables) (level place : Nat)
    (h : place ∈ t.upToRarity level) : t.IsPlace place := by
  obtain ⟨r, -, hr⟩ := List.mem_flatMap.mp h
  obtain ⟨p, hp, rfl⟩ := List.mem_map.mp hr
  exact t.isPlace_of_mem_placesWhere _ p hp

theorem IsSound.isPlace_of_mem_forPort {t : Tables} (h : t.IsSound) {port place : Nat}
    (hplace : place ∈ t.forPort port) : t.IsPlace place := by
  rw [forPort, List.mem_eraseDups, List.mem_append, List.mem_append] at hplace
  rcases hplace with (hplace | hplace) | hplace
  · exact h.first port place hplace
  · obtain ⟨p, hp, rfl⟩ := List.mem_map.mp ((mem_byRarity _ place).mp hplace)
    exact t.isPlace_of_mem_placesWhere _ p hp
  · exact h.last port place hplace

/-- Every place that is selected for a port is that of a probe. -/
theorem IsSound.isPlace_of_mem_select {t : Tables} (h : t.IsSound) {port level place : Nat}
    (hplace : place ∈ t.select port level) : t.IsPlace place := by
  rw [select, List.mem_eraseDups, List.mem_append, List.mem_append] at hplace
  rcases hplace with (hplace | hplace) | hplace
  · exact t.isPlace_of_mem_upToRarity level place hplace
  · exact h.isPlace_of_mem_forPort hplace
  · exact h.tls place hplace

/-- No probe is selected twice. -/
theorem nodup_select (t : Tables) (port level : Nat) : (t.select port level).Nodup :=
  Lists.nodup_eraseDups _

/-- The places that are selected for a UDP port. -/
theorem mem_selectUdp_iff (t : Tables) (port level place : Nat) :
    place ∈ t.selectUdp port level ↔ ∃ p, t.probes[place]? = some p ∧ p.protocol = .udp ∧
      p.rarity ≤ level ∧ (p.ports.isEmpty = true ∨ p.ports.contains port = true) := by
  simp [selectUdp, placesWhere, List.mk_mem_zipIdx_iff_getElem?, and_assoc]

/-- No probe is selected twice. -/
theorem nodup_selectUdp (t : Tables) (port level : Nat) : (t.selectUdp port level).Nodup := by
  have hplaces : (t.probes.zipIdx.map Prod.snd).Nodup := by
    rw [List.zipIdx_map_snd]
    exact List.nodup_range'
  exact (List.filter_sublist.map Prod.snd).nodup hplaces

end Tables

/-! ## Without tuning -/

/-- The catalog of some probes as they are. -/
def Catalog.ofProbes (probes : List Probe) : Catalog where
  toTables := (probes.foldl Tables.insert {}).enterTls.resolveFallbacks
  sound :=
    have hprobes : (probes.foldl Tables.insert {}).IsSound :=
      List.foldlRecOn probes Tables.insert (Tables.isSound_of_none {} {}) fun _ h p _ => h.insert p
    hprobes.enterTls.resolveFallbacks

end Fingerprinting.Nmap
