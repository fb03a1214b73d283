/-
# Which hits are marked as active

The rules of a finger are tried on a response, and from the first reply on on the latest reply.  A
hit is marked as that of an active probe when the rule that decided it had its own payload answered.
A rule that sends nothing, or is not answered, may be matched by the reply to the payload of an
earlier one, and then the hit is not marked.

* `CompiledFinger.Missed` says that some rules were tried in vain, and what was exchanged for them;
* `CompiledFinger.decided_of_plays` finds the rule that decided a hit;
* `CompiledFinger.marked_iff_of_hit` is the main result.
-/
import Fingerprinting.Proofs.Finger.Agreement
import Fingerprinting.Proofs.Frame.Agreement

namespace Fingerprinting

open Dialog

/-! ## Provenances of hits -/

/-- A hit comes from the fingers, and before it is marked from nowhere else. -/
@[simp] theorem CompiledFinger.froms_hit (f : CompiledFinger) (r : CompiledRule) (m : RuleMatch)
    (options : FingerOptions) :
    (f.hit r m options).frame.froms = .singleton .fingers := by
  have hnew : (Frame.new f.finger.name .fingers).froms = .singleton .fingers := by
    rw [Frame.new, if_pos (by decide), Frame.froms_addTag]
  have hversion (version other : String) :
      Frame.froms
        (if version ≠ "" then (Frame.new f.finger.name .fingers).setVersion version
          else if other ≠ noVersion then (Frame.new f.finger.name .fingers).setVersion other
          else Frame.new f.finger.name .fingers) = .singleton .fingers := by
    split
    · exact hnew
    · split <;> exact hnew
  show (f.frame r m options).froms = _
  unfold frame
  dsimp only
  rw [Frame.foldl_addTag]
  split <;> exact hversion m.version r.version

/-- A marked hit comes from an active probe as well. -/
@[simp] theorem Hit.froms_markActive (h : Hit) :
    h.markActive.frame.froms = (Provenances.singleton .fingers).insert .active := rfl

namespace CompiledFinger

variable (f : CompiledFinger) (level : Int) (options : FingerOptions) (canSend : Bool)

/-! ## What rules are tried on -/

/-- The last reply that arrived, if any did. -/
def lastReply? (log : List (Bytes × Option Bytes)) : Option Bytes :=
  (log.filterMap Prod.snd).getLast?

theorem lastReply?_append (first rest : List (Bytes × Option Bytes)) :
    lastReply? (first ++ rest) = (lastReply? rest).or (lastReply? first) := by
  rw [lastReply?, List.filterMap_append, List.getLast?_append]
  rfl

@[simp] theorem lastReply?_singleton (payload : Bytes) (reply : Option Bytes) :
    lastReply? [(payload, reply)] = reply := by
  cases reply <;> rfl

/-- What a rule is tried on after some exchanges: the last reply, or else the response. -/
def latest (c : Content) (log : List (Bytes × Option Bytes)) : Content :=
  ((lastReply? log).map f.content).getD c

theorem latest_append (c : Content) (first rest : List (Bytes × Option Bytes)) :
    f.latest c (first ++ rest) = f.latest (f.latest c first) rest := by
  rw [latest, latest, latest, lastReply?_append]
  cases lastReply? rest <;> rfl

/-- The payload that a rule sends in a dialog, if it sends one. -/
def request? (r : CompiledRule) : Option Bytes :=
  if canSend then f.payload? r level options else none

/-! ## One rule after the other -/

/-- Some rules are tried in vain: each of them sends its payload, if it has one to send, and does
not match what it is then tried on. -/
inductive Missed : Content → List CompiledRule → List (Bytes × Option Bytes) → Prop where
  | nil (c : Content) : Missed c [] []
  | cons {c : Content} {r : CompiledRule} {rest : List CompiledRule}
      {own more : List (Bytes × Option Bytes)}
      (hsent : own.map Prod.fst = (f.request? level options canSend r).toList)
      (hmiss : r.match? (f.latest c own) f.isHttp = none)
      (hrest : Missed (f.latest c own) rest more) : Missed c (r :: rest) (own ++ more)

/-- The hit of a rule after its own exchange. -/
def hitAfter (r : CompiledRule) (m : RuleMatch) (own : List (Bytes × Option Bytes)) : Hit :=
  if (lastReply? own).isSome then (f.hit r m options).markActive else f.hit r m options

/-- A rule sends its payload and then either ends the dialog with a hit or leaves what it was tried
on to the rules that follow. -/
theorem exists_of_plays_cons (c : Content) (r : CompiledRule) (rest : List CompiledRule)
    (log : List (Bytes × Option Bytes)) (hit : Option Hit)
    (h : (f.tryRules level canSend options c (r :: rest)).Plays log hit) :
    ∃ own more, log = own ++ more ∧
      own.map Prod.fst = (f.request? level options canSend r).toList ∧
      ((∃ m, r.match? (f.latest c own) f.isHttp = some m ∧ more = [] ∧
          hit = some (f.hitAfter options r m own)) ∨
        (r.match? (f.latest c own) f.isHttp = none ∧
          (f.tryRules level canSend options (f.latest c own) rest).Plays more hit)) := by
  have hafter (own more : List (Bytes × Option Bytes))
      (hmore : (f.afterReply level options canSend c r rest (lastReply? own)).Plays more hit) :
      (∃ m, r.match? (f.latest c own) f.isHttp = some m ∧ more = [] ∧
          hit = some (f.hitAfter options r m own)) ∨
        (r.match? (f.latest c own) f.isHttp = none ∧
          (f.tryRules level canSend options (f.latest c own) rest).Plays more hit) := by
    have hlatest : ((lastReply? own).map f.content).getD c = f.latest c own := rfl
    unfold afterReply at hmore
    dsimp only at hmore
    rw [hlatest] at hmore
    cases hmatch : r.match? (f.latest c own) f.isHttp with
    | some m =>
        rw [hmatch] at hmore
        obtain ⟨rfl, rfl⟩ := (plays_pure_iff _ hit more).mp hmore
        exact .inl ⟨m, rfl, rfl, rfl⟩
    | none =>
        rw [hmatch] at hmore
        exact .inr ⟨rfl, hmore⟩
  rw [tryRules_cons, ← request?] at h
  cases hrequest : f.request? level options canSend r with
  | none =>
      rw [hrequest] at h
      exact ⟨[], log, rfl, rfl, hafter [] log h⟩
  | some payload =>
      rw [hrequest] at h
      obtain ⟨own, more, reply, rfl, hown, hmore⟩ := (plays_bind_iff _ _ _ _).mp h
      rw [(plays_send_iff payload own reply).mp hown]
      refine ⟨[(payload, reply)], more, rfl, rfl, hafter _ more ?_⟩
      rwa [lastReply?_singleton]

/-- A hit is that of one rule; those before it were tried in vain. -/
theorem decided_of_plays (c : Content) (rules : List CompiledRule)
    (log : List (Bytes × Option Bytes)) (hit : Hit)
    (h : (f.tryRules level canSend options c rules).Plays log (some hit)) :
    ∃ before r after earlier own m,
      rules = before ++ r :: after ∧ log = earlier ++ own ∧
      f.Missed level options canSend c before earlier ∧
      own.map Prod.fst = (f.request? level options canSend r).toList ∧
      r.match? (f.latest c (earlier ++ own)) f.isHttp = some m ∧
      hit = f.hitAfter options r m own := by
  induction rules generalizing c log with
  | nil => cases ((plays_done_iff _ _ log).mp h).2
  | cons r rest ih =>
      obtain ⟨own, more, rfl, hsent, hdecided | ⟨hmiss, hmore⟩⟩ :=
        f.exists_of_plays_cons level options canSend c r rest log _ h
      · obtain ⟨m, hmatch, rfl, hhit⟩ := hdecided
        exact ⟨[], r, rest, [], own, m, rfl, List.append_nil own, .nil c, hsent, hmatch,
          Option.some.inj hhit⟩
      · obtain ⟨before, r', after, earlier, own', m, rfl, rfl, hmissed, hsent', hmatch, hhit⟩ :=
          ih (f.latest c own) more hmore
        refine ⟨r :: before, r', after, own ++ earlier, own', m, rfl,
          (List.append_assoc own earlier own').symm, .cons hsent hmiss hmissed, hsent', ?_, hhit⟩
        rwa [List.append_assoc, latest_append]

/-! ## Marks -/

/-- A hit on a dialog comes from the fingers, and from an active probe exactly when the rule that
decided it had its own payload answered.  What it was decided on is the last reply of the dialog, or
the response when there is none; so the mark tells whether it was decided on a reply, unless an
earlier rule had its payload answered and the deciding one had not. -/
theorem marked_iff_of_hit {σ : Type} (peer : Peer Bytes (Option Bytes) σ) (start : σ) (c : Content)
    (hit : Hit) (h : ((f.matchWith c level canSend options).run peer start).result = some hit) :
    ∃ before r after earlier own,
      f.rules = before ++ r :: after ∧
      (f.matchWith c level canSend options).exchanges peer start = earlier ++ own ∧
      f.Missed level options canSend c before earlier ∧
      own.map Prod.fst = (f.request? level options canSend r).toList ∧
      (r.match? (f.latest c (earlier ++ own)) f.isHttp).isSome = true ∧
      hit.frame.froms =
        (if (lastReply? own).isSome then (Provenances.singleton .fingers).insert .active
          else .singleton .fingers) ∧
      ((hit.frame.froms.contains .active = true ↔ (lastReply? (earlier ++ own)).isSome = true) ↔
        ((lastReply? earlier).isSome = true → (lastReply? own).isSome = true)) := by
  have hplays := plays_run peer start (f.matchWith c level canSend options)
  rw [h] at hplays
  obtain ⟨before, r, after, earlier, own, m, hrules, hlog, hmissed, hsent, hmatch, rfl⟩ :=
    f.decided_of_plays level options canSend c f.rules _ hit hplays
  refine ⟨before, r, after, earlier, own, hrules, hlog, hmissed, hsent, ?_, ?_, ?_⟩
  · rw [hmatch]
    rfl
  · rw [hitAfter]
    split <;> simp
  · rw [hitAfter, lastReply?_append]
    cases lastReply? own with
    | none => simp [Provenances.contains_singleton]
    | some reply => simp [Provenances.insert]

/-- A finger whose first rule asks, and whose second rule is matched by the answer. -/
theorem marked_iff_of_hit_of_earlier_reply :
    let finger : Finger :=
      { name := "db", protocol := "tcp"
        rules :=
          [{ payload := "hi", patterns := some { body := ["zzz"] } },
            { patterns := some { body := ["ready"] } }] }
    let peer : Peer Bytes (Option Bytes) Unit := ⟨fun _ _ => (some (Utf8.encode "ready"), ())⟩
    ∃ f, finger.compile false = .ok f ∧
      ∃ hit, ((f.matchWith {} 1 true {}).run peer ()).result = some hit ∧
        hit.frame.froms.contains .active = false ∧
        ∃ earlier own, (f.matchWith {} 1 true {}).exchanges peer () = earlier ++ own ∧
          lastReply? earlier = some (Utf8.encode "ready") ∧ lastReply? own = none := by
  intro finger peer
  have hclosed : (finger.compile false).toOption.map (fun f =>
      (((f.matchWith {} 1 true {}).run peer ()).result.map fun hit =>
          hit.frame.froms.contains .active,
        lastReply? ((f.matchWith {} 1 true {}).exchanges peer ()))) =
      some (some false, some (Utf8.encode "ready")) := by
    decide +kernel
  obtain ⟨f, hf, hshape⟩ := Results.exists_of_map_toOption _ _ _ hclosed
  obtain ⟨hresult, hlast⟩ := Prod.mk.inj hshape
  obtain ⟨hit, hhit, hmark⟩ := Option.map_eq_some_iff.mp hresult
  obtain ⟨-, -, -, earlier, own, -, hlog, -, -, -, hfroms, -⟩ :=
    f.marked_iff_of_hit 1 {} true peer () {} hit hhit
  have hown : lastReply? own = none := by
    cases hreply : lastReply? own with
    | none => rfl
    | some reply =>
        rw [hfroms, hreply] at hmark
        simp [Provenances.insert] at hmark
  refine ⟨f, hf, hit, hhit, hmark, earlier, own, hlog, ?_, hown⟩
  rwa [hlog, lastReply?_append, hown, Option.none_or] at hlast

end CompiledFinger

end Fingerprinting
