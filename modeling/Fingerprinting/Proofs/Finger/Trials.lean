/-
# Which fingers are tried for a port

Fingers for services are tried one after the other until one has a hit: those for the port, then
those for any port, and then all.  Many stand in several of these lists, or several times in one,
but none is tried twice.

* `Fingers.trials_of_plays` follows the trials along any list of places;
* `Fingers.result_firstHit` says what is found when nothing can be sent;
* `Fingers.matchSocket_in_order` is the main result.
-/
import Fingerprinting.Proofs.Finger.Agreement
import Fingerprinting.Proofs.Finger.Index

namespace Fingerprinting

open Dialog

namespace Fingers

variable (s : Fingers) (c : Content) (level : Int) (canSend : Bool)

/-! ## Places -/

/-- The places of the fingers that may be tried for a port, the ones to try first in front; the same
place may stand there several times. -/
def listing (port : String) : List Nat :=
  (if port = "" then [] else s.group port) ++ s.group anyPort ++ List.range s.socket.length

/-- A finger for services is tried: its dialog has some exchanges and a result. -/
def Tried (place : Nat) (log : List (Bytes × Option Bytes)) (hit : Option Hit) : Prop :=
  ∃ f, s.socket[place]? = some f ∧ (f.matchWith c level canSend s.options).Plays log hit

/-- All fingers for services are candidates. -/
theorem Built.mem_candidates_iff {s : Fingers} (h : s.Built) (port : String) (i : Nat) :
    i ∈ s.candidates port ↔ i < s.socket.length := by
  rw [candidates, List.mem_eraseDups, List.mem_append, List.mem_range]
  refine or_iff_right_of_imp fun hi => ?_
  rcases List.mem_append.mp hi with hi | hi
  · split at hi
    · cases hi
    · exact h.isIndexed.lt_of_mem_group hi
  · exact h.isIndexed.lt_of_mem_group hi

/-! ## One finger after the other -/

/-- Along a list of places fingers are tried until one of them has a hit, and all of them when none
has. -/
theorem trials_of_plays (places : List Nat) (hplaces : ∀ i ∈ places, i < s.socket.length)
    (log : List (Bytes × Option Bytes)) (hit : Option Hit)
    (h : (firstHit c level canSend s.options (places.filterMap fun i => s.socket[i]?)).Plays
      log hit) :
    ∃ misses : List (Nat × List (Bytes × Option Bytes)),
      (∀ t ∈ misses, s.Tried c level canSend t.1 t.2 none) ∧
      ((hit = none ∧ places = misses.map Prod.fst ∧ log = misses.flatMap Prod.snd) ∨
        ∃ last own found later, hit = some found ∧ s.Tried c level canSend last own (some found) ∧
          places = misses.map Prod.fst ++ last :: later ∧
          log = misses.flatMap Prod.snd ++ own) := by
  induction places generalizing log with
  | nil =>
      obtain ⟨rfl, rfl⟩ := (plays_done_iff _ hit log).mp h
      exact ⟨[], by simp, .inl ⟨rfl, rfl, rfl⟩⟩
  | cons i rest ih =>
      obtain ⟨f, hi⟩ : ∃ f, s.socket[i]? = some f :=
        ⟨_, List.getElem?_eq_getElem (hplaces i List.mem_cons_self)⟩
      rw [List.filterMap_cons_some hi, firstHit] at h
      obtain ⟨own, more, found, rfl, hown, hmore⟩ := (plays_bind_iff _ _ _ _).mp h
      cases found with
      | some found =>
          obtain ⟨rfl, rfl⟩ := (plays_pure_iff _ hit more).mp hmore
          refine ⟨[], by simp, .inr ⟨i, own, found, rest, rfl, ⟨_, hi, hown⟩, rfl, ?_⟩⟩
          exact List.append_nil own
      | none =>
          obtain ⟨misses, hmisses, hend⟩ :=
            ih (fun j hj => hplaces j (List.mem_cons_of_mem i hj)) more hmore
          refine ⟨(i, own) :: misses, List.forall_mem_cons.mpr ⟨⟨_, hi, hown⟩, hmisses⟩, ?_⟩
          rcases hend with
            ⟨hnone, hall, rfl⟩ | ⟨last, own', found, later, hsome, hlast, hsplit, rfl⟩
          · exact .inl ⟨hnone, congrArg (i :: ·) hall, rfl⟩
          · refine .inr ⟨last, own', found, later, hsome, hlast, congrArg (i :: ·) hsplit, ?_⟩
            exact (List.append_assoc own _ own').symm

/-! ## Fingers that cannot send -/

/-- A finger that cannot send matches as on the response alone. -/
theorem result_of_mute (f : CompiledFinger) (options : FingerOptions)
    (log : List (Bytes × Option Bytes)) (hit : Option Hit)
    (h : (f.matchWith c level false options).Plays log hit) : hit = f.passive? c options := by
  have hlog : log = [] := f.eq_nil_of_closed level options false c f.rules (.inl rfl) log hit h
  exact f.hit_of_unanswered level options false c f.rules log hit h (by simp [hlog])

/-- Fingers that cannot send find what the first of them finds that matches the response. -/
theorem result_firstHit (options : FingerOptions) (fingers : List CompiledFinger)
    (log : List (Bytes × Option Bytes)) (hit : Option Hit)
    (h : (firstHit c level false options fingers).Plays log hit) :
    hit = fingers.findSome? fun f => f.passive? c options := by
  induction fingers generalizing log with
  | nil => exact ((plays_done_iff _ hit log).mp h).2
  | cons f rest ih =>
      rw [firstHit] at h
      obtain ⟨own, more, found, rfl, hown, hmore⟩ := (plays_bind_iff _ _ _ _).mp h
      rw [List.findSome?_cons, ← result_of_mute c level f options own found hown]
      cases found with
      | some found => exact ((plays_pure_iff _ hit more).mp hmore).2
      | none => exact ih more hmore

/-! ## All three lists -/

/-- The fingers for services are tried in the order in which they first stand in the three lists,
each once at most.  The first that has a hit ends the trials, and only when all have been tried in
vain there is none.  When nothing can be sent, there is a hit for a port exactly when some finger
matches the response, whatever the port is. -/
theorem matchSocket_in_order {s : Fingers} (hs : s.Built) {σ : Type}
    (peer : Peer Bytes (Option Bytes) σ) (start : σ) (c : Content) (port : String) (level : Int) :
    (s.candidates port).Nodup ∧
    Lists.InFirstOrder (s.candidates port) (s.listing port) ∧
    (∀ i, i ∈ s.candidates port ↔ i < s.socket.length) ∧
    (∀ canSend, ∃ misses : List (Nat × List (Bytes × Option Bytes)),
      (∀ t ∈ misses, s.Tried c level canSend t.1 t.2 none) ∧
      (((s.matchSocket c port level canSend).run peer start).result = none ∧
          s.candidates port = misses.map Prod.fst ∧
          (s.matchSocket c port level canSend).exchanges peer start = misses.flatMap Prod.snd ∨
        ∃ last own hit later,
          ((s.matchSocket c port level canSend).run peer start).result = some hit ∧
          s.Tried c level canSend last own (some hit) ∧
          s.candidates port = misses.map Prod.fst ++ last :: later ∧
          (s.matchSocket c port level canSend).exchanges peer start =
            misses.flatMap Prod.snd ++ own)) ∧
    ((s.matchSocket c port level false).run peer start).result.isSome =
      s.socket.any fun f => (f.passive? c s.options).isSome := by
  refine ⟨Lists.nodup_eraseDups _, Lists.inFirstOrder_eraseDups _, hs.mem_candidates_iff port,
    fun canSend => ?_, ?_⟩
  · exact s.trials_of_plays c level canSend (s.candidates port)
      (fun i hi => (hs.mem_candidates_iff port i).mp hi) _ _
      (plays_run peer start (s.matchSocket c port level canSend))
  · rw [result_firstHit c level s.options _ _ _
      (plays_run peer start (s.matchSocket c port level false))]
    rw [Bool.eq_iff_iff, List.findSome?_isSome_iff, List.any_eq_true]
    refine exists_congr fun f => and_congr_left fun _ => ?_
    rw [List.mem_filterMap, List.mem_iff_getElem?]
    refine exists_congr fun i => and_iff_right_of_imp fun hi => ?_
    rw [hs.mem_candidates_iff]
    exact (List.getElem?_eq_some_iff.mp hi).1

/-- A finger that lists its port twice, and one for any port that matches the response. -/
theorem matchSocket_in_order_of_repeated_port :
    let ftp : Finger :=
      { name := "ftp", protocol := "tcp", ports := ["22", "22"]
        rules := [{ patterns := some { body := ["220 "] } }] }
    let ssh : Finger :=
      { name := "ssh", protocol := "tcp", rules := [{ patterns := some { body := ["ssh-"] } }] }
    let banner : Content := .ofRaw (Utf8.encode "SSH-2.0")
    ∃ s, new [] [ftp, ssh] {} = .ok s ∧ s.Built ∧
      s.listing "22" = [0, 0, 1, 0, 1] ∧ s.candidates "22" = [0, 1] ∧
      s.listing "7" = [1, 0, 1] ∧ s.candidates "7" = [1, 0] ∧
      ∀ (σ : Type) (peer : Peer Bytes (Option Bytes) σ) (start : σ) (port : String),
        Lists.InFirstOrder (s.candidates port) (s.listing port) ∧
        ((s.matchSocket banner port 1 false).run peer start).result.isSome = true := by
  intro ftp ssh banner
  have hclosed : ((new [] [ftp, ssh] {}).toOption.map fun s =>
      (s.listing "22", s.candidates "22", s.listing "7", s.candidates "7",
        s.socket.any fun f => (f.passive? banner s.options).isSome)) =
      some ([0, 0, 1, 0, 1], [0, 1], [1, 0, 1], [1, 0], true) := by
    decide +kernel
  obtain ⟨s, hs, hshape⟩ := Results.exists_of_map_toOption _ _ _ hclosed
  simp only [Prod.mk.injEq] at hshape
  obtain ⟨hlisting, hcandidates, hlisting', hcandidates', hany⟩ := hshape
  refine ⟨s, hs, .new hs, hlisting, hcandidates, hlisting', hcandidates',
    fun σ peer start port => ?_⟩
  obtain ⟨-, horder, -, -, hresult⟩ := matchSocket_in_order (.new hs) peer start banner port 1
  exact ⟨horder, hresult.trans hany⟩

end Fingers

end Fingerprinting
