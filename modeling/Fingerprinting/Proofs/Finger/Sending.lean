/-
# What fingers send

A finger sends the payloads of its own rules, in their order, and of those only the ones that the
level and the options allow.  A collection lets its fingers send one after the other.

* `CompiledFinger.plays_tryRules` and `CompiledFinger.plays_probeRules` say what one finger sends;
* `Fingers.plays_probeAll` and `Fingers.plays_firstHit` say what fingers send one after the other;
* `Fingers.sends_allowed` says what a collection sends, in every way that it can be asked to match.
-/
import Fingerprinting.Proofs.Finger.Building
import Fingerprinting.Proofs.Transcript

namespace Fingerprinting

open Dialog

/-! ## One finger -/

namespace CompiledFinger

variable (f : CompiledFinger) (level : Int) (options : FingerOptions)

/-- A payload that a finger may send at a level: that of a rule whose level is not above it, and
only when the finger is not conspicuous or the options do not care. -/
def MaySend (payload : Bytes) : Prop :=
  ¬ (options.opsec = true ∧ f.finger.opsec = true) ∧
    ∃ written ∈ f.finger.rules, ∃ r, written.compile f.finger.name false = .ok r ∧
      r.payload = some payload ∧ r.level ≤ level

/-- The payloads that some rules may send, in order. -/
def payloads (rules : List CompiledRule) : List Bytes :=
  rules.filterMap fun r => f.payload? r level options

theorem payload?_eq_some_iff (r : CompiledRule) (payload : Bytes) :
    f.payload? r level options = some payload ↔
      r.level ≤ level ∧ ¬ (options.opsec = true ∧ f.finger.opsec = true) ∧
        r.payload = some payload := by
  have hsilenced : (!f.isSilenced options) = true ↔
      ¬ (options.opsec = true ∧ f.finger.opsec = true) := by
    rw [isSilenced, Bool.not_eq_true', ← Bool.not_eq_true, Bool.and_eq_true]
  unfold payload?
  split
  · rename_i h
    obtain ⟨hlevel, hopen⟩ := h
    exact ⟨fun hpayload => ⟨hlevel, hsilenced.mp hopen, hpayload⟩, fun hpayload => hpayload.2.2⟩
  · rename_i h
    constructor
    · intro hpayload
      cases hpayload
    · rintro ⟨hlevel, hopen, -⟩
      exact absurd ⟨hlevel, hsilenced.mpr hopen⟩ h

theorem maySend_of_mem_payloads (hf : f.IsCompiled) (payload : Bytes)
    (h : payload ∈ f.payloads level options f.rules) : f.MaySend level options payload := by
  obtain ⟨r, hr, hpayload⟩ := List.mem_filterMap.mp h
  obtain ⟨hlevel, hopen, hsent⟩ := (f.payload?_eq_some_iff level options r payload).mp hpayload
  obtain ⟨written, hwritten, hcompile⟩ := hf.written r hr
  exact ⟨hopen, written, hwritten, r, hcompile, hsent, hlevel⟩

/-- What follows the reply to a rule, if there is one: a match ends the dialog, and otherwise the
other rules are tried. -/
def afterReply (canSend : Bool) (c : Content) (r : CompiledRule) (rest : List CompiledRule)
    (reply : Option Bytes) : PayloadDialog (Option Hit) :=
  let c := (reply.map f.content).getD c
  match r.match? c f.isHttp with
  | some m =>
      let h := f.hit r m options
      pure (some (if reply.isSome then h.markActive else h))
  | none => f.tryRules level canSend options c rest

theorem tryRules_cons (canSend : Bool) (c : Content) (r : CompiledRule)
    (rest : List CompiledRule) :
    f.tryRules level canSend options c (r :: rest) =
      match if canSend then f.payload? r level options else none with
      | some payload => Dialog.send payload >>= f.afterReply level options canSend c r rest
      | none => f.afterReply level options canSend c r rest none := by
  rw [tryRules]
  cases if canSend then f.payload? r level options else none with
  | some payload => rfl
  | none => rfl

/-- Trying rules sends payloads that they may send, in their order, and skips the others. -/
theorem plays_tryRules (canSend : Bool) (c : Content) (rules : List CompiledRule)
    (log : List (Bytes × Option Bytes)) (hit : Option Hit)
    (h : (f.tryRules level canSend options c rules).Plays log hit) :
    (log.map Prod.fst).Sublist (f.payloads level options rules) := by
  induction rules generalizing c log with
  | nil =>
      obtain ⟨rfl, -⟩ := (plays_done_iff _ hit log).mp h
      exact .slnil
  | cons r rest ih =>
      have hrest (reply : Option Bytes) (more : List (Bytes × Option Bytes))
          (hmore : (f.afterReply level options canSend c r rest reply).Plays more hit) :
          (more.map Prod.fst).Sublist (f.payloads level options rest) := by
        unfold afterReply at hmore
        dsimp only at hmore
        split at hmore
        · obtain ⟨rfl, -⟩ := (plays_pure_iff _ hit more).mp hmore
          exact List.nil_sublist _
        · exact ih _ more hmore
      rw [tryRules_cons] at h
      rw [payloads, List.filterMap_cons]
      split at h
      · rename_i payload hpayload
        have hsome : f.payload? r level options = some payload := by
          split at hpayload
          · exact hpayload
          · cases hpayload
        obtain ⟨first, more, reply, rfl, hfirst, hmore⟩ := (plays_bind_iff _ _ _ _).mp h
        rw [(plays_send_iff payload first reply).mp hfirst, hsome]
        exact (hrest reply more hmore).cons_cons payload
      · have hsent := hrest none log h
        split
        · exact hsent
        · exact hsent.cons _

/-- Rules without tests match no raw response, so all of them send what they may. -/
theorem plays_tryRules_of_tests_nil (hraw : f.isHttp = false) (c : Content)
    (rules : List CompiledRule) (htests : ∀ r ∈ rules, r.tests = [])
    (log : List (Bytes × Option Bytes)) (hit : Option Hit)
    (h : (f.tryRules level true options c rules).Plays log hit) :
    log.map Prod.fst = f.payloads level options rules ∧ hit = none := by
  induction rules generalizing c log with
  | nil =>
      obtain ⟨rfl, rfl⟩ := (plays_done_iff _ hit log).mp h
      exact ⟨rfl, rfl⟩
  | cons r rest ih =>
      have hnone (c : Content) : r.match? c false = none := by
        rw [CompiledRule.match?, CompiledRule.primary?, htests r List.mem_cons_self]
        rfl
      have hrest (reply : Option Bytes) (more : List (Bytes × Option Bytes))
          (hmore : (f.afterReply level options true c r rest reply).Plays more hit) :
          more.map Prod.fst = f.payloads level options rest ∧ hit = none := by
        simp only [afterReply, hraw, hnone] at hmore
        exact ih _ (fun r' hr' => htests r' (List.mem_cons_of_mem _ hr')) more hmore
      rw [tryRules_cons, if_pos rfl] at h
      rw [payloads, List.filterMap_cons]
      split at h
      · rename_i payload hpayload
        obtain ⟨first, more, reply, rfl, hfirst, hmore⟩ := (plays_bind_iff _ _ _ _).mp h
        obtain ⟨hsent, hmiss⟩ := hrest reply more hmore
        rw [(plays_send_iff payload first reply).mp hfirst, hpayload]
        exact ⟨congrArg (payload :: ·) hsent, hmiss⟩
      · rename_i hpayload
        rw [hpayload]
        exact hrest none log h

/-- Probing sends payloads that the rules may send, in their order, and stops at the first rule that
may not. -/
theorem plays_probeRules (rules : List CompiledRule) (log : List (Bytes × Option Bytes))
    (hit : Option Hit) (h : (f.probeRules level options rules).Plays log hit) :
    (log.map Prod.fst).Sublist (f.payloads level options rules) := by
  induction rules generalizing log with
  | nil =>
      obtain ⟨rfl, -⟩ := (plays_done_iff _ hit log).mp h
      exact .slnil
  | cons r rest ih =>
      rw [probeRules] at h
      split at h
      · obtain ⟨rfl, -⟩ := (plays_pure_iff _ hit log).mp h
        exact List.nil_sublist _
      · rename_i payload hpayload
        obtain ⟨first, more, reply, rfl, hfirst, hmore⟩ := (plays_bind_iff _ _ _ _).mp h
        rw [plays_send_iff] at hfirst
        have hrest : (more.map Prod.fst).Sublist (f.payloads level options rest) := by
          split at hmore
          · obtain ⟨rfl, -⟩ := (plays_pure_iff _ hit more).mp hmore
            exact List.nil_sublist _
          · split at hmore
            · obtain ⟨rfl, -⟩ := (plays_pure_iff _ hit more).mp hmore
              exact List.nil_sublist _
            · exact ih more hmore
        rw [hfirst, payloads, List.filterMap_cons, hpayload]
        exact hrest.cons_cons payload

end CompiledFinger

namespace Fingers

/-! ## Fingers one after the other -/

variable (level : Int) (options : FingerOptions)

/-- What some fingers send when the first of them, and perhaps not the others, send one after the
other: the share of each is made of payloads that its rules may send. -/
def Shared (fingers : List CompiledFinger) (sent : List Bytes) : Prop :=
  ∃ shares : List (CompiledFinger × List Bytes),
    shares.map Prod.fst <+: fingers ∧ sent = shares.flatMap Prod.snd ∧
      ∀ share ∈ shares, share.2.Sublist (share.1.payloads level options share.1.rules)

variable {level options}

theorem Shared.nil (fingers : List CompiledFinger) : Shared level options fingers [] :=
  ⟨[], List.nil_prefix, rfl, by simp⟩

/-- The share of one more finger comes first. -/
theorem Shared.cons {f : CompiledFinger} {fingers : List CompiledFinger} {first more : List Bytes}
    (hfirst : first.Sublist (f.payloads level options f.rules))
    (hmore : Shared level options fingers more) :
    Shared level options (f :: fingers) (first ++ more) := by
  obtain ⟨shares, hinit, rfl, hshares⟩ := hmore
  refine ⟨(f, first) :: shares, ?_, rfl, ?_⟩
  · rw [List.map_cons]
    exact List.cons_prefix_cons.mpr ⟨rfl, hinit⟩
  · intro share hshare
    rcases List.mem_cons.mp hshare with rfl | hshare
    · exact hfirst
    · exact hshares share hshare

/-- Probing fingers lets each of them send. -/
theorem plays_probeAll (fingers : List CompiledFinger) (log : List (Bytes × Option Bytes))
    (hits : List Hit) (h : (probeAll level options fingers).Plays log hits) :
    Shared level options fingers (log.map Prod.fst) := by
  induction fingers generalizing log hits with
  | nil =>
      obtain ⟨rfl, -⟩ := (plays_done_iff _ hits log).mp h
      exact .nil []
  | cons f rest ih =>
      rw [probeAll] at h
      obtain ⟨first, more, hit, rfl, hfirst, hmore⟩ := (plays_bind_iff _ _ _ _).mp h
      obtain ⟨others, last, found, rfl, hothers, hlast⟩ := (plays_bind_iff _ _ _ _).mp hmore
      obtain ⟨rfl, -⟩ := (plays_pure_iff _ hits last).mp hlast
      rw [List.append_nil, List.map_append]
      exact .cons (f.plays_probeRules level options f.rules first hit hfirst)
        (ih others found hothers)

/-- The first hit ends the sending. -/
theorem plays_firstHit (c : Content) (canSend : Bool) (fingers : List CompiledFinger)
    (log : List (Bytes × Option Bytes)) (hit : Option Hit)
    (h : (firstHit c level canSend options fingers).Plays log hit) :
    Shared level options fingers (log.map Prod.fst) := by
  induction fingers generalizing log with
  | nil =>
      obtain ⟨rfl, -⟩ := (plays_done_iff _ hit log).mp h
      exact .nil []
  | cons f rest ih =>
      rw [firstHit] at h
      obtain ⟨first, more, found, rfl, hfirst, hmore⟩ := (plays_bind_iff _ _ _ _).mp h
      have hshare := f.plays_tryRules level options canSend c f.rules first found hfirst
      rw [List.map_append]
      refine .cons hshare ?_
      split at hmore
      · obtain ⟨rfl, -⟩ := (plays_pure_iff _ hit more).mp hmore
        exact .nil rest
      · exact ih more hmore

/-- Fingers whose rules have no tests all send what they may. -/
theorem plays_firstHit_of_tests_nil (c : Content) (fingers : List CompiledFinger)
    (htests : ∀ f ∈ fingers, f.isHttp = false ∧ ∀ r ∈ f.rules, r.tests = [])
    (log : List (Bytes × Option Bytes)) (hit : Option Hit)
    (h : (firstHit c level true options fingers).Plays log hit) :
    log.map Prod.fst = fingers.flatMap fun f => f.payloads level options f.rules := by
  induction fingers generalizing log with
  | nil =>
      obtain ⟨rfl, -⟩ := (plays_done_iff _ hit log).mp h
      rfl
  | cons f rest ih =>
      obtain ⟨hraw, hnone⟩ := htests f List.mem_cons_self
      rw [firstHit] at h
      obtain ⟨first, more, found, rfl, hfirst, hmore⟩ := (plays_bind_iff _ _ _ _).mp h
      obtain ⟨hsent, rfl⟩ :=
        f.plays_tryRules_of_tests_nil level options hraw c f.rules hnone first found hfirst
      have hothers := ih (fun g hg => htests g (List.mem_cons_of_mem _ hg)) more hmore
      rw [List.map_append, hsent, hothers, List.flatMap_cons]

/-! ## Collections -/

/-- The active fingers for HTTP, in the order in which they are probed. -/
def activeFingers (s : Fingers) : List CompiledFinger := s.active.filterMap fun i => s.http[i]?

/-- The fingers for services, in the order in which they are tried for a port. -/
def portFingers (s : Fingers) (port : String) : List CompiledFinger :=
  (s.candidates port).filterMap fun i => s.socket[i]?

/-- What some fingers of a collection send one after the other: every payload on behalf of a finger
that may send it, and none on behalf of a conspicuous one while the options forbid that. -/
def Allowed (s : Fingers) (level : Int) (fingers : List CompiledFinger) (sent : List Bytes) :
    Prop :=
  ∃ shares : List (CompiledFinger × List Bytes),
    shares.map Prod.fst <+: fingers ∧ sent = shares.flatMap Prod.snd ∧
      ∀ share ∈ shares,
        (∀ payload ∈ share.2, share.1.MaySend level s.options payload) ∧
        (s.options.opsec = true → share.1.finger.opsec = true → share.2 = [])

theorem Shared.allowed {s : Fingers} {level : Int} {fingers : List CompiledFinger}
    {sent : List Bytes} (h : Shared level s.options fingers sent)
    (hcompiled : ∀ f ∈ fingers, f.IsCompiled) : s.Allowed level fingers sent := by
  obtain ⟨shares, hinit, hsent, hshares⟩ := h
  refine ⟨shares, hinit, hsent, fun share hshare => ?_⟩
  have hmem : share.1 ∈ fingers := hinit.subset (List.mem_map_of_mem hshare)
  have hmay : ∀ payload ∈ share.2, share.1.MaySend level s.options payload := by
    intro payload hpayload
    exact share.1.maySend_of_mem_payloads level s.options (hcompiled _ hmem) payload
      ((hshares share hshare).subset hpayload)
  refine ⟨hmay, fun hopsec hconspicuous => List.eq_nil_iff_forall_not_mem.mpr ?_⟩
  intro payload hpayload
  exact (hmay payload hpayload).1 ⟨hopsec, hconspicuous⟩

theorem Built.isCompiled_activeFingers {s : Fingers} (h : s.Built) (f : CompiledFinger)
    (hf : f ∈ s.activeFingers) : f.IsCompiled := by
  obtain ⟨i, -, hi⟩ := List.mem_filterMap.mp hf
  exact h.isCompiled f (List.mem_append_left _ (List.mem_of_getElem? hi))

theorem Built.isCompiled_portFingers {s : Fingers} (h : s.Built) (port : String)
    (f : CompiledFinger) (hf : f ∈ s.portFingers port) : f.IsCompiled := by
  obtain ⟨i, -, hi⟩ := List.mem_filterMap.mp hf
  exact h.isCompiled f (List.mem_append_right _ (List.mem_of_getElem? hi))

/-- Probing the active fingers sends what they may send. -/
theorem plays_matchActive {s : Fingers} (hs : s.Built) (level : Int)
    (log : List (Bytes × Option Bytes)) (found : Frames × Vulns)
    (h : (s.matchActive level).Plays log found) :
    s.Allowed level s.activeFingers (log.map Prod.fst) := by
  obtain ⟨first, last, hits, rfl, hfirst, hlast⟩ := (plays_bind_iff _ _ _ _).mp h
  obtain ⟨rfl, -⟩ := (plays_pure_iff _ found last).mp hlast
  rw [List.append_nil]
  exact (plays_probeAll _ first hits hfirst).allowed hs.isCompiled_activeFingers

theorem plays_matchSocket {s : Fingers} (hs : s.Built) (c : Content) (port : String) (level : Int)
    (canSend : Bool) (log : List (Bytes × Option Bytes)) (hit : Option Hit)
    (h : (s.matchSocket c port level canSend).Plays log hit) :
    s.Allowed level (s.portFingers port) (log.map Prod.fst) :=
  (plays_firstHit c canSend _ log hit h).allowed (hs.isCompiled_portFingers port)

/-- Whatever its peer replies, a collection sends only payloads of rules whose levels are not above
the level asked for, and nothing on behalf of conspicuous fingers while the options forbid that.  To
a port of a host it sends them with the name of the host in the place of its mark. -/
theorem sends_allowed {s : Fingers} (hs : s.Built) (level : Int) :
    (∀ (σ : Type) (peer : Peer Bytes (Option Bytes) σ) (start : σ),
      s.Allowed level s.activeFingers ((s.matchActive level).run peer start).sent) ∧
    (∀ (σ : Type) (peer : Peer Bytes (Option Bytes) σ) (start : σ) (c : Content) (port : String)
        (canSend : Bool),
      s.Allowed level (s.portFingers port)
        ((s.matchSocket c port level canSend).run peer start).sent) ∧
    (∀ (σ : Type) (peer : Peer ServiceRequest ServiceReply σ) (start : σ) (host port : String),
      ∃ sent, s.Allowed level (s.portFingers (Text.decimal (PortSpec.parse port).port)) sent ∧
        ((s.matchService host port level).run peer start).sent =
          sent.map fun payload => ⟨host, port, .tcp, Payload.render payload host⟩) := by
  refine ⟨fun σ peer start => ?_, fun σ peer start c port canSend => ?_,
    fun σ peer start host port => ?_⟩
  · rw [← map_fst_exchanges]
    exact plays_matchActive hs level _ _ (plays_run peer start _)
  · rw [← map_fst_exchanges]
    exact plays_matchSocket hs c port level canSend _ _ (plays_run peer start _)
  · rw [← map_fst_exchanges]
    obtain ⟨first, last, hit, hlog, hfirst, hlast⟩ :=
      (plays_bind_iff _ _ _ _).mp (plays_run peer start (s.matchService host port level))
    obtain ⟨rfl, -⟩ := (plays_pure_iff _ _ last).mp hlast
    obtain ⟨inner, hinner, hsent⟩ := plays_of_via _ _ _ first hit hfirst
    refine ⟨inner.map Prod.fst, plays_matchSocket hs {} _ level true inner hit hinner, ?_⟩
    rw [hlog, List.append_nil, hsent]

/-- Of two fingers for a port one is conspicuous; the other has a rule above the level. -/
theorem sends_allowed_of_conspicuous :
    let conspicuous : Finger :=
      { name := "a", protocol := "tcp", ports := ["22"], opsec := true
        rules := [{ payload := "x" }] }
    let other : Finger :=
      { name := "b", protocol := "tcp", ports := ["22"]
        rules := [{ payload := "y" }, { payload := "z", level := 2 }] }
    ∃ s, new [] [conspicuous, other] { opsec := true } = .ok s ∧ s.Built ∧
      ∀ (σ : Type) (peer : Peer Bytes (Option Bytes) σ) (start : σ),
        s.Allowed 1 (s.portFingers "22") ((s.matchSocket {} "22" 1 true).run peer start).sent ∧
        ((s.matchSocket {} "22" 1 true).run peer start).sent = [Utf8.encode "y"] := by
  intro conspicuous other
  have hclosed : ((new [] [conspicuous, other] { opsec := true }).toOption.map fun s =>
      ((s.portFingers "22").flatMap fun f => f.payloads 1 s.options f.rules,
        (s.portFingers "22").all fun f => !f.isHttp && f.rules.all fun r => r.tests.isEmpty)) =
      some ([Utf8.encode "y"], true) := by
    decide +kernel
  obtain ⟨s, hs, hfingers⟩ := Results.exists_of_map_toOption _ _ _ hclosed
  obtain ⟨hpayloads, htests⟩ := Prod.mk.inj hfingers
  refine ⟨s, hs, .new hs, fun σ peer start => ?_⟩
  obtain ⟨-, hsocket, -⟩ := sends_allowed (.new hs) 1
  refine ⟨hsocket σ peer start {} "22" true, ?_⟩
  rw [← map_fst_exchanges, ← hpayloads]
  refine plays_firstHit_of_tests_nil {} _ (fun f hf => ?_) _ _ (plays_run peer start _)
  simpa using List.all_eq_true.mp htests f hf

end Fingers

end Fingerprinting
