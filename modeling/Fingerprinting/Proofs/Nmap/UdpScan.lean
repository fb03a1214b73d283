/-
# Scans of UDP ports

Only UDP probes are selected for a UDP port.  But what a scan does once it has found TLS is the same
for both transports, and the probes inside TLS and the request for a web page are known by their
names only.  So a scan of a UDP port stays with UDP until a reply is taken for TLS.

* `MayLeaveUdp` says that some peer brings a dialog to ask something that does not go over UDP, and
  `mayLeaveUdp_walk` says when a walk can be brought to it;
* `udp_scan_course` says what a scan sends, and for which catalogs all of it goes over UDP.
-/
import Mathlib
import Fingerprinting.Proofs.Nmap.TcpScan

namespace Fingerprinting.Nmap.Catalog

open Tables

variable (c : Catalog) (host : String) (port : Nat)

/-! ## Transports -/

/-- The probe at a place goes over UDP. -/
def IsUdp (c : Catalog) (place : Nat) : Prop := (c.probes[place]?).map Probe.protocol = some .udp

instance (c : Catalog) (place : Nat) : Decidable (c.IsUdp place) :=
  inferInstanceAs (Decidable (_ = _))

/-- The places that a scan may come to once it has found TLS. -/
def afterTls (c : Catalog) : List Nat := c.insidePlaces ++ (c.place? Tuning.webProbe).toList

theorem isUdp_iff (place : Nat) (p : Probe) (hp : c.probes[place]? = some p) :
    c.IsUdp place ↔ p.protocol = .udp := by
  simp [IsUdp, hp]

theorem isPlace_of_isUdp (place : Nat) (h : c.IsUdp place) : c.IsPlace place := by
  obtain ⟨p, hp, -⟩ := Option.map_eq_some_iff.mp h
  exact (List.getElem?_eq_some_iff.mp hp).1

theorem isUdp_of_mem_selectUdp (level place : Nat) (h : place ∈ c.selectUdp port level) :
    c.IsUdp place := by
  obtain ⟨p, hp, hprotocol, -⟩ := (c.mem_selectUdp_iff port level place).mp h
  exact (c.isUdp_iff place p hp).mpr hprotocol

/-- A transcript stays with UDP when every probe that was sent does. -/
theorem forall_udp_of_shows (xs : List Sending) (log : List (ProbeRequest × ProbeReply))
    (h : c.Shows host port xs log) :
    (∀ e ∈ log, e.1.protocol = .udp) ↔ ∀ x ∈ xs, c.IsUdp x.place := by
  have hprotocols := congrArg (List.map (Option.map fun e => e.1.protocol)) h
  simp only [Sending.exchange?, List.map_map, Function.comp_def, Option.map_map, Option.map_some]
    at hprotocols
  have hlog : (∀ e ∈ log, e.1.protocol = .udp) ↔
      ∀ o ∈ log.map fun e => some e.1.protocol, o = some .udp := by
    rw [List.forall_mem_map]
    simp
  rw [hlog, ← hprotocols, List.forall_mem_map]
  rfl

/-! ## What a peer can bring about -/

/-- Some peer brings a dialog to ask something that does not go over UDP. -/
def MayLeaveUdp {α : Type} (d : ProbeDialog α) : Prop :=
  ∃ log a, d.Plays log a ∧ ∃ e ∈ log, e.1.protocol ≠ .udp

variable {c host port}

/-- A dialog that goes on has left UDP all the same. -/
theorem MayLeaveUdp.bind {α β : Type} {d : ProbeDialog α} (h : MayLeaveUdp d)
    (next : α → ProbeDialog β) : MayLeaveUdp (d >>= next) := by
  obtain ⟨log, a, hplays, e, he, hprotocol⟩ := h
  have hmore := Dialog.plays_run (Dialog.scripted silence) [] (next a)
  exact ⟨_, _, (Dialog.plays_bind_iff _ _ _ _).mpr ⟨log, _, a, rfl, hplays, hmore⟩, e,
    List.mem_append_left _ he, hprotocol⟩

/-- A dialog may leave UDP after some way of ending its first part. -/
theorem MayLeaveUdp.of_bind {α β : Type} {d : ProbeDialog α} {next : α → ProbeDialog β}
    {log : List (ProbeRequest × ProbeReply)} {a : α} (hplays : d.Plays log a)
    (h : MayLeaveUdp (next a)) : MayLeaveUdp (d >>= next) := by
  obtain ⟨more, b, hmore, e, he, hprotocol⟩ := h
  exact ⟨_, _, (Dialog.plays_bind_iff _ _ _ _).mpr ⟨log, more, a, rfl, hplays, hmore⟩, e,
    List.mem_append_right _ he, hprotocol⟩

/-- A probe that is sent may be answered by any reply. -/
theorem plays_sendOver (host : String) (port : Nat) (tls : Bool) {place : Nat} {p : Probe}
    (hp : c.probes[place]? = some p) (reply : ProbeReply) :
    ∃ log, (c.sendOver host port tls place).Plays log (c.judge place p.protocol reply) := by
  rw [sendOver, hp]
  exact ⟨_, .ask (.done (c.judge place p.protocol reply))⟩

theorem mayLeaveUdp_sendOver (tls : Bool) {place : Nat} (hplace : c.IsPlace place)
    (hudp : ¬ c.IsUdp place) : MayLeaveUdp (c.sendOver host port tls place) := by
  have hp : c.probes[place]? = some c.probes[place] := List.getElem?_eq_getElem hplace
  rw [c.isUdp_iff place _ hp] at hudp
  rw [sendOver, hp]
  exact ⟨_, _, .ask (.done (c.judge place _ silence)), _, List.mem_cons_self, hudp⟩

/-- When the peer says nothing, the search inside TLS finds nothing. -/
theorem plays_findInside_silence (host : String) (port : Nat) (used places : List Nat)
    (hplaces : ∀ place ∈ places, c.IsPlace place) :
    ∃ log, (c.findInside host port used places).Plays log none := by
  induction places generalizing used with
  | nil => exact ⟨[], .done none⟩
  | cons place rest ih =>
      have hrest : ∀ place ∈ rest, c.IsPlace place := fun i hi =>
        hplaces i (List.mem_cons_of_mem _ hi)
      rw [findInside]
      split
      · exact ih used hrest
      · have hp := List.getElem?_eq_getElem (hplaces place List.mem_cons_self)
        obtain ⟨first, hfirst⟩ := plays_sendOver host port
          (c.usesTls port place) hp silence
        obtain ⟨more, hmore⟩ := ih (place :: used) hrest
        rw [judge_silence] at hfirst
        exact ⟨first ++ more, (Dialog.plays_bind_iff _ _ _ _).mpr ⟨_, _, _, rfl, hfirst, hmore⟩⟩

/-- The search inside TLS may come to every probe that has not been used. -/
theorem mayLeaveUdp_findInside (used places : List Nat)
    (hplaces : ∀ place ∈ places, c.IsPlace place) {place : Nat} (hmem : place ∈ places)
    (hfresh : place ∉ used) (hudp : ¬ c.IsUdp place) :
    MayLeaveUdp (c.findInside host port used places) := by
  induction places generalizing used with
  | nil => cases hmem
  | cons first rest ih =>
      have hrest : ∀ place ∈ rest, c.IsPlace place := fun i hi =>
        hplaces i (List.mem_cons_of_mem _ hi)
      have hfirst := hplaces first List.mem_cons_self
      rw [findInside]
      split
      · rename_i hused
        refine ih used hrest ?_ hfresh
        rcases List.mem_cons.mp hmem with rfl | hmem
        · exact absurd (by simpa using hused) hfresh
        · exact hmem
      · by_cases hhere : place = first
        · rw [hhere] at hudp
          exact (mayLeaveUdp_sendOver _ hfirst hudp).bind _
        · obtain ⟨log, hlog⟩ := plays_sendOver host port
            (c.usesTls port first) (List.getElem?_eq_getElem hfirst) silence
          rw [judge_silence] at hlog
          refine .of_bind hlog (ih (first :: used) hrest ?_ ?_)
          · exact (List.mem_cons.mp hmem).resolve_left hhere
          · simp [hhere, hfresh]

/-- A look inside TLS may come to every probe that has not been used, and to the request for a web
page. -/
theorem mayLeaveUdp_lookInside (used : List Nat) (hused : ∀ place ∈ used, c.IsUdp place)
    {place : Nat} (hmem : place ∈ c.afterTls) (hudp : ¬ c.IsUdp place) :
    MayLeaveUdp (c.lookInside host port used) := by
  rw [lookInside]
  rcases List.mem_append.mp hmem with hinside | hweb
  · have hfresh : place ∉ used := fun hmem => hudp (hused place hmem)
    exact (mayLeaveUdp_findInside used _ c.sound.inside hinside hfresh hudp).bind _
  · -- The page is asked for when nothing has been found before.
    obtain ⟨log, hlog⟩ := plays_findInside_silence host port used c.insidePlaces c.sound.inside
    have hplace : c.place? Tuning.webProbe = some place := Option.mem_toList.mp hweb
    have hpage : MayLeaveUdp (c.askWeb host port) := by
      rw [askWeb, hplace]
      exact (mayLeaveUdp_sendOver true (c.sound.isPlace_of_place? hplace) hudp).bind _
    exact .of_bind hlog (hpage.bind _)

/-- A walk along UDP probes leaves UDP when the peer says nothing until it comes to a probe whose
reply can be taken for TLS. -/
theorem mayLeaveUdp_walk (used : List Nat) (seen : ScanOutcome) (places : List Nat)
    (hused : ∀ place ∈ used, c.IsUdp place) (hplaces : ∀ place ∈ places, c.IsUdp place)
    {place : Nat} (hmem : place ∈ places) (hfresh : place ∉ used) {raw : Bytes} {tls : Bool}
    (htls : (c.fingerprint raw tls place).service = tlsService)
    {other : Nat} (hother : other ∈ c.afterTls) (hudp : ¬ c.IsUdp other) :
    MayLeaveUdp (c.walk host port used seen places) := by
  induction places generalizing used seen with
  | nil => cases hmem
  | cons first rest ih =>
      have hfirst := hplaces first List.mem_cons_self
      have hrest : ∀ place ∈ rest, c.IsUdp place := fun i hi =>
        hplaces i (List.mem_cons_of_mem _ hi)
      have hnow : ∀ place ∈ first :: used, c.IsUdp place := List.forall_mem_cons.mpr ⟨hfirst, hused⟩
      obtain ⟨p, hp, -⟩ := Option.map_eq_some_iff.mp hfirst
      rw [walk]
      split
      · rename_i hskip
        refine ih used seen hused hrest ?_ hfresh
        rcases List.mem_cons.mp hmem with rfl | hmem
        · exact absurd (by simpa using hskip) hfresh
        · exact hmem
      · by_cases hhere : place = first
        · rw [hhere] at htls
          have hmatched := c.judge_of_service first p.protocol htls (by decide)
          obtain ⟨log, hlog⟩ := plays_sendOver host port
            (c.usesTls port first) hp (.ok (raw, tls))
          rw [hmatched] at hlog
          refine .of_bind hlog ?_
          dsimp only
          rw [if_pos htls]
          exact (mayLeaveUdp_lookInside _ hnow hother hudp).bind _
        · obtain ⟨log, hlog⟩ := plays_sendOver host port
            (c.usesTls port first) hp silence
          rw [judge_silence] at hlog
          refine .of_bind hlog (ih (first :: used) _ hnow hrest ?_ ?_)
          · exact (List.mem_cons.mp hmem).resolve_left hhere
          · simp [hhere, hfresh]

/-! ## A scan -/

theorem scan_of_udp (c : Catalog) (host : String) {text : String} (level : Nat)
    (hport : port? text = some (port, true)) :
    c.scan host text level = c.walk host port [] .notMatched (c.selectUdp port level) := by
  unfold scan
  rw [hport]

/-- More is sent after a walk only when the last of its replies has been taken for TLS. -/
theorem WalkCourse.innerOfTls {used places : List Nat} {conclude : List Sending → ScanOutcome}
    {main inside web : List Sending} {outcome : ScanOutcome}
    (hplaces : ∀ place ∈ places, c.IsPlace place)
    (h : c.WalkCourse port used places conclude main inside web outcome)
    (hne : inside ++ web ≠ []) :
    c.InsideCourse port (used ++ main.map Sending.place) inside web ∧
    ∃ x r, main.getLast? = some x ∧ x.Matches c r ∧ r.fingerprint.service = tlsService := by
  cases h with
  | through main _ _ => exact absurd rfl hne
  | closed before x _ _ _ => exact absurd rfl hne
  | matched before x inside web r best hbefore _ hx hinside htls _ =>
      have hplace : c.IsPlace x.place := hplaces _ (hbefore.subset (by simp))
      refine ⟨hinside, x, r, by simp, (x.outcome_eq_matched_iff c hplace r).mp hx, ?_⟩
      by_contra hservice
      exact hne (htls hservice).1

theorem InsideCourse.mem_afterTls {sent : List Nat} {inside web : List Sending}
    (h : c.InsideCourse port sent inside web) (x : Sending) (hx : x ∈ inside ++ web) :
    x.place ∈ c.afterTls := by
  rcases List.mem_append.mp hx with hx | hx
  · have hmem := h.order.subset (List.mem_map_of_mem hx)
    exact List.mem_append_left _ (List.mem_filter.mp hmem).1
  · rcases h.web with rfl | ⟨y, rfl, hweb, -⟩
    · cases hx
    · rw [List.mem_singleton.mp hx]
      exact List.mem_append_right _ (Option.mem_toList.mpr hweb)

/-- What a scan of a UDP port sends: `main` along the selection, and `after` once TLS has been
found. -/
structure UdpCourse (c : Catalog) (port level : Nat) (main after : List Sending) : Prop where
  order : main.map Sending.place <+: c.selectUdp port level
  udp : ∀ x ∈ main, c.IsUdp x.place
  inner : ∀ x ∈ after, x.place ∈ c.afterTls
  innerOfTls : after ≠ [] →
    ∃ x r, main.getLast? = some x ∧ x.Matches c r ∧ r.fingerprint.service = tlsService

theorem walk_udpCourse (level : Nat) (log : List (ProbeRequest × ProbeReply))
    (outcome : ScanOutcome)
    (h : (c.walk host port [] .notMatched (c.selectUdp port level)).Plays log outcome) :
    ∃ main after, c.Shows host port (main ++ after) log ∧ c.UdpCourse port level main after := by
  have hudp := c.isUdp_of_mem_selectUdp port level
  have hplaces : ∀ place ∈ c.selectUdp port level, c.IsPlace place := fun place hplace =>
    c.isPlace_of_isUdp place (hudp place hplace)
  obtain ⟨main, inside, web, hlog, -, hwalk⟩ :=
    c.walk_course host port [] .notMatched _ hplaces (c.nodup_selectUdp port level) (by simp) log
      outcome h
  rw [List.append_assoc] at hlog
  exact ⟨main, inside ++ web, hlog, {
    order := hwalk.order
    udp := fun x hx => hudp _ (hwalk.order.subset (List.mem_map_of_mem hx))
    inner := fun x hx =>
      (hwalk.innerOfTls hplaces (List.ne_nil_of_mem hx)).1.mem_afterTls x hx
    innerOfTls := fun hne => (hwalk.innerOfTls hplaces hne).2 }⟩

/-- A scan of a UDP port sends UDP probes of the selection, in order, until a reply is taken for
TLS; what comes after that goes over the transports of the probes inside TLS and of the request for
a web page.  So all of it goes over UDP, whatever the peer answers, exactly when no reply to a
selected probe can be taken for TLS, or all of those others are UDP probes. -/
theorem udp_scan_course (c : Catalog) (host text : String) (port level : Nat)
    (hport : port? text = some (port, true)) :
    (∀ (σ : Type) (peer : Dialog.Peer ProbeRequest ProbeReply σ) (s : σ),
      ∃ main after, c.Shows host port (main ++ after) ((c.scan host text level).exchanges peer s) ∧
        c.UdpCourse port level main after) ∧
    ((∀ (σ : Type) (peer : Dialog.Peer ProbeRequest ProbeReply σ) (s : σ),
        ∀ q ∈ ((c.scan host text level).run peer s).sent, q.protocol = .udp) ↔
      (∀ place ∈ c.selectUdp port level, ∀ raw tls,
        (c.fingerprint raw tls place).service ≠ tlsService) ∨
      ∀ place ∈ c.afterTls, c.IsUdp place) := by
  have hscan := scan_of_udp c host level hport
  have hcourse : ∀ (σ : Type) (peer : Dialog.Peer ProbeRequest ProbeReply σ) (s : σ),
      ∃ main after, c.Shows host port (main ++ after) ((c.scan host text level).exchanges peer s) ∧
        c.UdpCourse port level main after := by
    intro σ peer s
    have hplays := Dialog.plays_run peer s (c.scan host text level)
    rw [hscan] at hplays ⊢
    exact walk_udpCourse level _ _ hplays
  refine ⟨hcourse, ?_, ?_⟩
  · intro hstays
    by_contra hleaves
    push Not at hleaves
    obtain ⟨⟨place, hplace, raw, tls, htls⟩, other, hother, hudp⟩ := hleaves
    -- The replies that bring the walk to leave UDP are those of a peer.
    obtain ⟨log, a, hplays, e, he, hprotocol⟩ : MayLeaveUdp (c.walk host port [] .notMatched
        (c.selectUdp port level)) :=
      mayLeaveUdp_walk [] _ _ (by simp) (c.isUdp_of_mem_selectUdp port level) hplace (by simp) htls
        hother hudp
    have hsent := hstays _ (Dialog.scripted silence) (log.map Prod.snd) e.1
    rw [← Dialog.map_fst_exchanges, hscan, Dialog.exchanges_scripted silence hplays] at hsent
    exact hprotocol (hsent (List.mem_map_of_mem he))
  · intro hstays σ peer s q hq
    rw [← Dialog.map_fst_exchanges] at hq
    obtain ⟨e, he, rfl⟩ := List.mem_map.mp hq
    obtain ⟨main, after, hlog, h⟩ := hcourse σ peer s
    refine (c.forall_udp_of_shows host port _ _ hlog).mpr (fun x hx => ?_) e he
    rcases List.mem_append.mp hx with hx | hx
    · exact h.udp x hx
    · rcases hstays with hnever | hall
      · obtain ⟨y, r, hy, ⟨raw, tls, -, rfl, -⟩, hservice⟩ := h.innerOfTls (List.ne_nil_of_mem hx)
        have hmem := h.order.subset (List.mem_map_of_mem (List.mem_of_getLast? hy))
        exact absurd hservice (hnever _ hmem raw tls)
      · exact hall _ (h.inner x hx)

/-- A UDP probe whose reply is taken for TLS. -/
def helloProbe : Probe := { name := "UDP_Hello", protocol := .udp, rarity := 1, rules := tlsRules }

/-- That probe and the request for a web page, which goes over TCP. -/
def tlsOverUdp : Catalog := .ofProbes [helloProbe, pageProbe]

/-- Some peer brings the scan of a UDP port to send over TCP. -/
theorem udp_scan_course_of_tls_reply :
    port? "U:53" = some (53, true) ∧
      ∃ (σ : Type) (peer : Dialog.Peer ProbeRequest ProbeReply σ) (s : σ),
        ∃ q ∈ ((tlsOverUdp.scan "localhost" "U:53" 1).run peer s).sent, q.protocol = .tcp := by
  have hport : port? "U:53" = some (53, true) := rfl
  have hrule : (helloProbe.respond (Utf8.encode "x")).service = tlsService := by cbv
  have htls : (tlsOverUdp.fingerprint (Utf8.encode "x") false 0).service = tlsService :=
    service_of_respond tlsOverUdp.toTables (p := helloProbe) rfl _ false hrule (by decide)
  obtain ⟨-, hstays⟩ := udp_scan_course tlsOverUdp "localhost" "U:53" 53 1 hport
  have hleaves := mt hstays.mp
  push Not at hleaves
  obtain ⟨σ, peer, s, q, hq, hprotocol⟩ := hleaves
    ⟨⟨0, by decide +kernel, Utf8.encode "x", false, htls⟩, 1, by decide +kernel, by decide +kernel⟩
  refine ⟨hport, σ, peer, s, q, hq, ?_⟩
  cases hq : q.protocol with
  | tcp => rfl
  | udp => exact absurd hq hprotocol

end Fingerprinting.Nmap.Catalog
