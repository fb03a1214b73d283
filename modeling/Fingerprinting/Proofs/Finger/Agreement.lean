/-
# The three ways of matching a finger

A finger is matched against a response alone, against a response while its rules send, or against
replies only.  A hit on replies alone is the hit of a dialog that begins with any response, and the
same is sent for it.  A dialog in which no reply arrives matches as the response alone does.

* `CompiledFinger.run_tryRules` follows both dialogs rule by rule while probing leads to a hit;
* `CompiledFinger.hit_of_unanswered` says what is matched when no reply arrives, and
  `CompiledFinger.eq_nil_of_closed` when nothing is sent at all;
* `CompiledFinger.matching_agrees` is the main result.
-/
import Fingerprinting.Proofs.Finger.Sending

namespace Fingerprinting.CompiledFinger

open Dialog

variable (f : CompiledFinger) (level : Int) (options : FingerOptions)

/-! ## Hits on replies -/

/-- After a reply the rule is matched against it, and so are the others. -/
theorem afterReply_some (canSend : Bool) (c : Content) (r : CompiledRule)
    (rest : List CompiledRule) (reply : Bytes) :
    f.afterReply level options canSend c r rest (some reply) =
      match r.match? (f.content reply) f.isHttp with
      | some m => pure (some (f.hit r m options).markActive)
      | none => f.tryRules level canSend options (f.content reply) rest := rfl

/-- Without a reply the rule is matched against what the one before it was. -/
theorem afterReply_none (canSend : Bool) (c : Content) (r : CompiledRule)
    (rest : List CompiledRule) :
    f.afterReply level options canSend c r rest none =
      match r.match? c f.isHttp with
      | some m => pure (some (f.hit r m options))
      | none => f.tryRules level canSend options c rest := rfl

/-- What follows the reply to a rule that is probed. -/
def afterProbe (r : CompiledRule) (rest : List CompiledRule) :
    Option Bytes → PayloadDialog (Option Hit)
  | none => pure none
  | some reply =>
      match r.match? (f.content reply) f.isHttp with
      | some m => pure (some (f.hit r m options).markActive)
      | none => f.probeRules level options rest

theorem probeRules_cons (r : CompiledRule) (rest : List CompiledRule) :
    f.probeRules level options (r :: rest) =
      match f.payload? r level options with
      | none => pure none
      | some payload => Dialog.send payload >>= f.afterProbe level options r rest := by
  rw [probeRules]
  cases f.payload? r level options with
  | none => rfl
  | some payload => rfl

/-- While probing leads to a hit, every rule up to the hit has its payload sent and answered, so
trying the rules sends and matches the same, whatever the response was. -/
theorem run_tryRules {σ : Type} (peer : Peer Bytes (Option Bytes) σ) (rules : List CompiledRule)
    (s : σ) (hit : Hit) (h : ((f.probeRules level options rules).run peer s).result = some hit)
    (c : Content) :
    (f.tryRules level true options c rules).run peer s =
      (f.probeRules level options rules).run peer s := by
  induction rules generalizing s c with
  | nil => cases h
  | cons r rest ih =>
      rw [probeRules_cons] at h ⊢
      rw [tryRules_cons, if_pos rfl]
      cases hpayload : f.payload? r level options with
      | none =>
          rw [hpayload] at h
          cases h
      | some payload =>
          rw [hpayload] at h
          dsimp only at h ⊢
          rw [run_send_bind, run_send_bind]
          rw [run_send_bind] at h
          dsimp only at h
          generalize peer.answer s payload = answer at h ⊢
          obtain ⟨reply, next⟩ := answer
          cases reply with
          | none => cases h
          | some reply =>
              rw [afterReply_some]
              rw [afterProbe] at h ⊢
              -- A rule that matches ends both dialogs, and otherwise both go on.
              cases hmatch : r.match? (f.content reply) f.isHttp with
              | some m => rfl
              | none =>
                  rw [hmatch] at h
                  dsimp only
                  rw [ih next h (f.content reply)]

/-! ## Captured responses -/

/-- The first of some rules that a response matches. -/
def firstMatch? (c : Content) (rules : List CompiledRule) : Option Hit :=
  rules.findSome? fun r => (r.match? c f.isHttp).map fun m => f.hit r m options

/-- Without any reply the rules are matched against the response. -/
theorem hit_of_unanswered (canSend : Bool) (c : Content) (rules : List CompiledRule)
    (log : List (Bytes × Option Bytes)) (hit : Option Hit)
    (h : (f.tryRules level canSend options c rules).Plays log hit)
    (hlog : ∀ e ∈ log, e.2 = none) : hit = f.firstMatch? options c rules := by
  induction rules generalizing log with
  | nil => exact ((plays_done_iff _ hit log).mp h).2
  | cons r rest ih =>
      have hafter (more : List (Bytes × Option Bytes))
          (hmore : (f.afterReply level options canSend c r rest none).Plays more hit)
          (hnone : ∀ e ∈ more, e.2 = none) : hit = f.firstMatch? options c (r :: rest) := by
        rw [afterReply_none] at hmore
        rw [firstMatch?, List.findSome?_cons]
        cases hmatch : r.match? c f.isHttp with
        | some m =>
            rw [hmatch] at hmore
            exact ((plays_pure_iff _ hit more).mp hmore).2
        | none =>
            rw [hmatch] at hmore
            exact ih more hmore hnone
      rw [tryRules_cons] at h
      split at h
      · rename_i payload _
        obtain ⟨first, more, reply, rfl, hfirst, hmore⟩ := (plays_bind_iff _ _ _ _).mp h
        rw [(plays_send_iff payload first reply).mp hfirst] at hlog
        obtain rfl : reply = none := hlog (payload, reply) List.mem_cons_self
        exact hafter more hmore fun e he => hlog e (List.mem_append_right _ he)
      · exact hafter log h hlog

/-- Rules that cannot send or may not send exchange nothing. -/
theorem eq_nil_of_closed (canSend : Bool) (c : Content) (rules : List CompiledRule)
    (hclosed : canSend = false ∨ f.payloads level options rules = [])
    (log : List (Bytes × Option Bytes)) (hit : Option Hit)
    (h : (f.tryRules level canSend options c rules).Plays log hit) : log = [] := by
  rcases hclosed with rfl | hnone
  · induction rules generalizing log with
    | nil => exact ((plays_done_iff _ hit log).mp h).1
    | cons r rest ih =>
        rw [tryRules_cons, if_neg Bool.false_ne_true] at h
        dsimp only at h
        rw [afterReply_none] at h
        split at h
        · exact ((plays_pure_iff _ hit log).mp h).1
        · exact ih log h
  · have hsent := f.plays_tryRules level options canSend c rules log hit h
    rw [hnone, List.sublist_nil, List.map_eq_nil_iff] at hsent
    exact hsent

/-- No payload may be sent when the level is below that of every rule with one, nor when the finger
is conspicuous and the options care. -/
theorem payloads_eq_nil (rules : List CompiledRule)
    (h : (∀ r ∈ rules, r.payload.isSome = true → level < r.level) ∨
      (options.opsec = true ∧ f.finger.opsec = true)) : f.payloads level options rules = [] := by
  rw [payloads, List.filterMap_eq_nil_iff]
  intro r hr
  rw [Option.eq_none_iff_forall_not_mem]
  intro payload hpayload
  obtain ⟨hlevel, hopen, hsome⟩ := (f.payload?_eq_some_iff level options r payload).mp hpayload
  rcases h with hbelow | hsilenced
  · exact absurd (hbelow r hr (by rw [hsome]; rfl)) (Int.not_lt.mpr hlevel)
  · exact hopen hsilenced

/-! ## All three ways -/

/-- Whenever probing a finger leads to a hit, matching it against any response in a dialog with the
same peer leads to the same hit, and sends the same in the same order.  Whenever nothing gets
through (the finger cannot send, no request is answered, the level is below that of every rule with
a payload, or the finger is conspicuous and the options care), the dialog has the result that the
response alone has. -/
theorem matching_agrees {σ : Type} (peer : Peer Bytes (Option Bytes) σ) (start : σ) :
    (∀ hit, ((f.active level options).run peer start).result = some hit →
      ∀ c, (f.matchWith c level true options).run peer start =
        (f.active level options).run peer start) ∧
    (∀ c canSend,
      (canSend = false ∨
        (∀ e ∈ (f.matchWith c level canSend options).exchanges peer start, e.2 = none) ∨
        (∀ r ∈ f.rules, r.payload.isSome = true → level < r.level) ∨
        (options.opsec = true ∧ f.finger.opsec = true)) →
      ((f.matchWith c level canSend options).run peer start).result = f.passive? c options) := by
  refine ⟨fun hit h c => f.run_tryRules level options peer f.rules start hit h c, ?_⟩
  intro c canSend hclosed
  have hplays := plays_run peer start (f.matchWith c level canSend options)
  apply f.hit_of_unanswered level options canSend c f.rules _ _ hplays
  have hnothing (h : canSend = false ∨ f.payloads level options f.rules = []) :
      ∀ e ∈ (f.matchWith c level canSend options).exchanges peer start, e.2 = none := by
    rw [f.eq_nil_of_closed level options canSend c f.rules h _ _ hplays]
    simp
  rcases hclosed with hmute | hunanswered | hbelow | hsilenced
  · exact hnothing (.inl hmute)
  · exact hunanswered
  · exact hnothing (.inr (f.payloads_eq_nil level options f.rules (.inl hbelow)))
  · exact hnothing (.inr (f.payloads_eq_nil level options f.rules (.inr hsilenced)))

/-- A finger whose second rule matches the reply to its payload.  Below the level of that rule the
response decides. -/
theorem matching_agrees_of_second_reply :
    let finger : Finger :=
      { name := "ssh", protocol := "tcp"
        rules :=
          [{ payload := "x", patterns := some { body := ["FTP"] } },
            { payload := "y", level := 2, patterns := some { body := ["SSH-"] } }] }
    let peer : Peer Bytes (Option Bytes) Unit :=
      ⟨fun _ payload =>
        (some (if payload = Utf8.encode "y" then Utf8.encode "SSH-2.0" else []), ())⟩
    let captured : Content := .ofRaw (Utf8.encode "220 FTP")
    ∃ f, finger.compile false = .ok f ∧
      ∃ hit, ((f.active 2 {}).run peer ()).result = some hit ∧
        (∀ c, ((f.matchWith c 2 true {}).run peer ()).result = some hit ∧
          ((f.matchWith c 2 true {}).run peer ()).sent = [Utf8.encode "x", Utf8.encode "y"]) ∧
        ∃ other, f.passive? captured {} = some other ∧
          ((f.matchWith captured (-1) true {}).run peer ()).result = some other := by
  intro finger peer captured
  have hclosed : (finger.compile false).toOption.map (fun f =>
      (((f.active 2 {}).run peer ()).result.isSome, ((f.active 2 {}).run peer ()).sent,
        (f.passive? captured {}).isSome, f.rules.all fun r => decide (-1 < r.level))) =
      some (true, [Utf8.encode "x", Utf8.encode "y"], true, true) := by
    decide +kernel
  obtain ⟨f, hf, hshape⟩ := Results.exists_of_map_toOption _ _ _ hclosed
  obtain ⟨hsome, hshape⟩ := Prod.mk.inj hshape
  obtain ⟨hsent, hshape⟩ := Prod.mk.inj hshape
  obtain ⟨hpassive, hlevels⟩ := Prod.mk.inj hshape
  obtain ⟨hit, hhit⟩ := Option.isSome_iff_exists.mp hsome
  obtain ⟨other, hother⟩ := Option.isSome_iff_exists.mp hpassive
  have hbelow : ∀ r ∈ f.rules, r.payload.isSome = true → -1 < r.level := fun r hr _ =>
    of_decide_eq_true (List.all_eq_true.mp hlevels r hr)
  refine ⟨f, hf, hit, hhit, fun c => ?_, other, hother, ?_⟩
  · rw [(f.matching_agrees 2 {} peer ()).1 hit hhit c]
    exact ⟨hhit, hsent⟩
  · rw [(f.matching_agrees (-1) {} peer ()).2 captured true (.inr (.inr (.inl hbelow))), hother]

end Fingerprinting.CompiledFinger
