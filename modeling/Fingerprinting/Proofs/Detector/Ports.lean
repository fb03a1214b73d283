/-
# The port that is probed

A port is given to a detector as a text.  The scanner reads it to know what to send, and whoever
sends a request reads the port of the request once more.  Both come to the same number, whatever the
text is: the fingers hand it on as it is, and the scanner writes the number that it has read.

* `Scanner.written_of_plays_deliver` says how the scanner writes the ports of its requests;
* `Detector.aimedAt_of_plays_probeAll` says where the requests of a detector go.

Main statement: `port_readings`.
-/
import Fingerprinting.Detector
import Fingerprinting.Proofs.Nmap.UdpScan
import Fingerprinting.Proofs.Ports

namespace Fingerprinting

open Dialog

/-- All requests go to a host, and to a port that is read as the number of a given one. -/
def AimedAt (host port : String) (log : List (ServiceRequest × ServiceReply)) : Prop :=
  ∀ e ∈ log, e.1.host = host ∧ (PortSpec.parse e.1.port).port = (PortSpec.parse port).port

theorem AimedAt.append {host port : String} {log more : List (ServiceRequest × ServiceReply)}
    (h : AimedAt host port log) (h' : AimedAt host port more) : AimedAt host port (log ++ more) :=
  fun e he => (List.mem_append.mp he).elim (h e) (h' e)

theorem aimedAt_of_plays_done {α : Type} {a b : α} {host port : String}
    {log : List (ServiceRequest × ServiceReply)} (h : (done a : ServiceDialog α).Plays log b) :
    AimedAt host port log := by
  obtain ⟨rfl, -⟩ := (plays_done_iff a b log).mp h
  exact List.forall_mem_nil _

/-! ## The scanner -/

namespace Nmap

/-- A scan sends its probes to the port that it reads. -/
theorem Catalog.target_of_plays_scan (c : Catalog) {host text : String} {level n : Nat} {udp : Bool}
    {log : List (ProbeRequest × ProbeReply)} {outcome : ScanOutcome}
    (hport : port? text = some (n, udp)) (h : (c.scan host text level).Plays log outcome) :
    ∀ e ∈ log, e.1.host = host ∧ e.1.port = n := by
  cases udp with
  | true =>
      -- Even what is sent inside TLS after a UDP probe goes to the same port.
      rw [c.scan_of_udp host level hport] at h
      obtain ⟨main, after, hlog, -⟩ := walk_udpCourse level log outcome h
      exact c.target_of_shows host n hlog
  | false =>
      unfold Tables.scan at h
      rw [hport] at h
      dsimp only at h
      split at h
      · obtain ⟨rfl, -⟩ := (plays_done_iff _ _ log).mp h
        exact List.forall_mem_nil _
      · obtain ⟨main, inside, web, hlog, -, -⟩ :=
          c.walkAll_course host n _ (fun _ => c.sound.isPlace_of_mem_select) (c.nodup_select n level)
            log outcome h
        exact c.target_of_shows host n hlog

namespace Scanner

/-- The port of a request is written as it is shown, with the mark when it goes over UDP. -/
theorem written_of_plays_deliver (r : ProbeRequest) {log : List (ServiceRequest × ServiceReply)}
    {reply : ProbeReply} (h : (deliver r).Plays log reply) :
    ∀ e ∈ log, e.1.host = r.host ∧
      e.1.port = (⟨r.port, e.1.network = .udp⟩ : PortSpec).line := by
  have hplain {request : ServiceRequest} {log : List (ServiceRequest × ServiceReply)}
      (hhost : request.host = r.host)
      (hwritten : request.port = (⟨r.port, request.network = .udp⟩ : PortSpec).line)
      (h : Plays (do
        let reply ← .send request
        pure (reply.map fun b => (b, false))) log reply) :
      ∀ e ∈ log, e.1.host = r.host ∧
        e.1.port = (⟨r.port, e.1.network = .udp⟩ : PortSpec).line := by
    obtain ⟨answer, rfl, -⟩ := (plays_send_bind_pure_iff request _ log reply).mp h
    exact List.forall_mem_singleton.mpr ⟨hhost, hwritten⟩
  unfold deliver at h
  split at h
  · exact hplain rfl rfl h
  · dsimp only at h
    split at h
    · obtain ⟨answer, rest, rfl, hrest⟩ := (plays_ask_iff _ _ log reply).mp h
      refine List.forall_mem_cons.mpr ⟨⟨rfl, rfl⟩, ?_⟩
      cases answer with
      | ok b =>
          obtain ⟨rfl, -⟩ := (plays_pure_iff _ _ rest).mp hrest
          exact List.forall_mem_nil _
      | error e => exact hplain rfl rfl hrest
    · exact hplain rfl rfl h

/-- What the scanner sends goes to the port that it was given. -/
theorem aimedAt_of_plays_matchService (s : Scanner) {host port : String} {level : Int}
    {log : List (ServiceRequest × ServiceReply)} {result : Option ServiceResult}
    (h : (s.matchService host port level).Plays log result) : AimedAt host port log := by
  unfold matchService at h
  split at h
  · exact aimedAt_of_plays_done h
  · split at h
    · exact aimedAt_of_plays_done h
    · rename_i n udp hport
      obtain ⟨first, last, outcome, rfl, hfirst, hlast⟩ := (plays_bind_iff _ _ _ _).mp h
      obtain ⟨rfl, -⟩ := (plays_pure_iff _ _ last).mp hlast
      obtain ⟨parts, hscan, rfl, hparts⟩ := plays_of_refine _ _ first outcome hfirst
      rw [List.append_nil]
      intro e he
      obtain ⟨part, hpart, hmem⟩ := List.mem_flatMap.mp he
      obtain ⟨hhost, hnumber⟩ :=
        s.catalog.target_of_plays_scan hport hscan part.1 (List.mem_map_of_mem hpart)
      obtain ⟨htarget, hwritten⟩ := written_of_plays_deliver _ (hparts part hpart) e hmem
      refine ⟨htarget.trans hhost, ?_⟩
      have hwrites := ((PortSpec.port?_eq_some_iff port n udp).mp hport).1
      -- What the scanner writes is read back, because the number that it read has sixteen bits.
      have hline := (PortSpec.writes_line ⟨n, e.1.network = .udp⟩ hwrites.le_max16).parse_eq
      rw [hwritten, hnumber, hline, hwrites.parse_eq]

end Scanner

end Nmap

/-! ## The fingers -/

/-- What the fingers send goes to the port that they were given. -/
theorem Fingers.aimedAt_of_plays_matchService (s : Fingers) {host port : String} {level : Int}
    {log : List (ServiceRequest × ServiceReply)} {result : Option ServiceResult}
    (h : (s.matchService host port level).Plays log result) : AimedAt host port log := by
  obtain ⟨first, last, hit, rfl, hfirst, hlast⟩ := (plays_bind_iff _ _ _ _).mp h
  obtain ⟨rfl, -⟩ := (plays_pure_iff _ _ last).mp hlast
  obtain ⟨inner, -, hsent⟩ := plays_of_via _ _ _ first hit hfirst
  rw [List.append_nil]
  intro e he
  have hmem : e.1 ∈ first.map Prod.fst := List.mem_map_of_mem he
  rw [hsent] at hmem
  obtain ⟨payload, -, hrequest⟩ := List.mem_map.mp hmem
  rw [← hrequest]
  exact ⟨rfl, rfl⟩

/-! ## All engines -/

theorem Engine.aimedAt_of_plays_matchService (e : Engine) {host port : String} {level : Int}
    {log : List (ServiceRequest × ServiceReply)} {result : Option ServiceResult}
    (h : (e.matchService host port level).Plays log result) : AimedAt host port log := by
  cases e with
  | fingers s => exact s.aimedAt_of_plays_matchService h
  | nmap s =>
      have h : (s.matchService host port level).Plays log result := h
      exact s.aimedAt_of_plays_matchService h
  | _ => exact aimedAt_of_plays_done h

namespace Detector

/-- Engines that are probed one after the other send to the port that they were given. -/
theorem aimedAt_of_plays_probeAll {host port : String} {level : Int} {es : List Engine}
    {log : List (ServiceRequest × ServiceReply)} {results : List ServiceResult}
    (h : (probeAll host port level es).Plays log results) : AimedAt host port log := by
  induction es generalizing log results with
  | nil => exact aimedAt_of_plays_done h
  | cons e rest ih =>
      obtain ⟨first, more, result, rfl, hfirst, hmore⟩ := (plays_bind_iff _ _ _ _).mp h
      obtain ⟨others, last, found, rfl, hothers, hlast⟩ := (plays_bind_iff _ _ _ _).mp hmore
      obtain ⟨rfl, -⟩ := (plays_pure_iff _ _ last).mp hlast
      rw [List.append_nil]
      exact (e.aimedAt_of_plays_matchService hfirst).append (ih hothers)

/-- The scanner reads a text as a port exactly when a port other than zero is written there, and then
the port of a request reads as that port and no other.  Where it reads none, either no port is
written, and the port of a request counts as port 80, or port zero is.  Both take what is written
for the port, whatever blanks, mark and sign it has.  So all that a detector sends when it is given
a text goes to the port which that text reads as. -/
theorem port_readings (s : String) :
    (∀ n udp, Nmap.port? s = some (n, udp) → PortSpec.parse s = ⟨n, udp⟩) ∧
    (Nmap.port? s = none ↔ PortSpec.number? s = none ∨ (PortSpec.parse s).port = 0) ∧
    PortSpec.parse s = ⟨(PortSpec.number? s).getD 80, PortSpec.isMarked s⟩ ∧
    (∀ p : PortSpec, p.Writes s.toList ↔
      PortSpec.number? s = some p.port ∧ PortSpec.isMarked s = p.udp) ∧
    (PortSpec.number? s = none ↔ ∀ p : PortSpec, ¬ p.Writes s.toList) ∧
    (∀ n udp, Nmap.port? s = some (n, udp) ↔ PortSpec.Writes ⟨n, udp⟩ s.toList ∧ n ≠ 0) ∧
    ∀ (d : Detector) host level log results, (d.matchService host s level).Plays log results →
      AimedAt host s log := by
  refine ⟨fun n udp hport => ?_, PortSpec.port?_eq_none_iff s, PortSpec.parse_eq s,
    fun p => p.writes_iff s, PortSpec.number?_eq_none_iff s, PortSpec.port?_eq_some_iff s, ?_⟩
  · exact ((PortSpec.port?_eq_some_iff s n udp).mp hport).1.parse_eq
  · intro d host level log results hplays
    exact aimedAt_of_plays_probeAll hplays

/-- A port with a mark in lower case, blanks of two kinds, a sign and a zero, a number that has more
than sixteen bits, and port zero. -/
theorem port_readings_of_mark :
    Nmap.port? "\u3000u: +0443\n" = some (443, true) ∧
    PortSpec.parse "\u3000u: +0443\n" = ⟨443, true⟩ ∧
    Nmap.port? "U:65536" = none ∧ PortSpec.parse "U:65536" = ⟨80, true⟩ ∧
    Nmap.port? "+0" = none ∧ PortSpec.parse "+0" = ⟨0, false⟩ := by
  have hport : Nmap.port? "\u3000u: +0443\n" = some (443, true) := by decide +kernel
  have hzero : PortSpec.parse "+0" = ⟨0, false⟩ := by decide +kernel
  have hlarge : PortSpec.number? "U:65536" = none := by decide +kernel
  obtain ⟨hread, -⟩ := port_readings "\u3000u: +0443\n"
  obtain ⟨-, hlargeNone, hlargeRead, -⟩ := port_readings "U:65536"
  obtain ⟨-, hzeroNone, -⟩ := port_readings "+0"
  refine ⟨hport, hread _ _ hport, hlargeNone.mpr (.inl hlarge), ?_, hzeroNone.mpr (.inr ?_), hzero⟩
  · rw [hlargeRead, hlarge]
    rfl
  · rw [hzero]

end Detector

end Fingerprinting
