/-
# Settling a batch

However the workers of a batch interleave, every target is probed once, and in the end the counters
and the results are those of the targets in some order.

* `Pool.Accounts.results_of_isOver` and `Pool.Accounts.progress_of_isOver` read the end of a batch
  off its accounts;
* `Pool.settles_every_target` is the main result.
-/
import Fingerprinting.Proofs.Batch.Accounts
import Fingerprinting.Proofs.Results

namespace Fingerprinting.Pool

variable {d : Detector} {level : Int} {p : Pool} {log : List Event} {targets : List Target}

/-! ## The end of a batch -/

namespace Accounts

variable (h : Accounts targets log p) (hover : p.IsOver)
include h hover

theorem completed_of_isOver :
    (log.flatMap (Event.passes .completing)).Perm (log.flatMap Event.detected) := by
  have hcompleted := h.completed
  rwa [hover.flatMap_eq_nil _ rfl, List.append_nil] at hcompleted

theorem identified_of_isOver :
    (log.flatMap (Event.passes .identifying)).Perm
      ((log.flatMap Event.detected).filter fun x => !x.2.isEmpty) := by
  have hidentified := h.identified
  rw [hover.flatMap_eq_nil _ rfl, List.append_nil] at hidentified
  exact hidentified.trans ((h.completed_of_isOver hover).filter _)

theorem kept_of_isOver :
    (log.flatMap (Event.passes .keeping)).Perm
      ((log.flatMap Event.detected).filter fun x => !x.2.isEmpty) := by
  have hkept := h.kept
  rw [hover.flatMap_eq_nil _ rfl, List.append_nil] at hkept
  exact hkept.trans (h.identified_of_isOver hover)

theorem detected_of_isOver (hqueue : p.shared.queue = []) :
    log.flatMap Event.taken = targets ∧
      ((log.flatMap Event.detected).map Prod.fst).Perm targets := by
  have htaken := h.queue
  have hdetected := h.detected
  rw [hqueue, List.append_nil] at htaken
  rw [hover.flatMap_eq_nil _ rfl, List.append_nil, htaken] at hdetected
  exact ⟨htaken, hdetected⟩

variable (hqueue : p.shared.queue = []) (outcome : Target → List ServiceResult)
  (houtcome : ∀ x ∈ log.flatMap Event.detected, x.2 = outcome x.1)
include hqueue houtcome

/-- The results are those of the targets in the order in which they were kept; the targets without
results may come last. -/
theorem results_of_isOver :
    ∃ order : List Target, order.Perm targets ∧
      p.shared.state.results = order.flatMap outcome := by
  let kept := log.flatMap (Event.passes .keeping)
  let empty := (log.flatMap Event.detected).filter fun x => x.2.isEmpty
  have hkept : kept.Perm _ := h.kept_of_isOver hover
  have hsplit : (kept ++ empty).Perm (log.flatMap Event.detected) := by
    refine (hkept.append_right empty).trans (List.perm_append_comm.trans ?_)
    exact List.filter_append_perm (fun x : Target × List ServiceResult => x.2.isEmpty) _
  have hfound : kept.flatMap Prod.snd = (kept.map Prod.fst).flatMap outcome := by
    rw [List.flatMap_map]
    exact List.flatMap_congr fun x hx =>
      houtcome x (hsplit.subset (List.mem_append_left empty hx))
  have hempty : (empty.map Prod.fst).flatMap outcome = [] := by
    rw [List.flatMap_map]
    refine List.flatMap_eq_nil_iff.mpr fun x hx => ?_
    rw [← houtcome x (hsplit.subset (List.mem_append_right kept hx))]
    exact List.isEmpty_iff.mp (List.mem_filter.mp hx).2
  refine ⟨(kept ++ empty).map Prod.fst, ?_, ?_⟩
  · exact (hsplit.map Prod.fst).trans (h.detected_of_isOver hover hqueue).2
  · rw [h.results, List.map_append, List.flatMap_append, hempty, List.append_nil]
    exact hfound

theorem progress_of_isOver :
    p.shared.state.progress.completed = targets.length ∧
      p.shared.state.progress.identified = targets.countP fun t => !(outcome t).isEmpty := by
  obtain ⟨-, hdetected⟩ := h.detected_of_isOver hover hqueue
  rw [h.progress]
  constructor
  · rw [← hdetected.length_eq, List.length_map]
    exact (h.completed_of_isOver hover).length_eq
  · rw [← hdetected.countP_eq, List.countP_map]
    calc (log.flatMap (Event.passes .identifying)).length
        = ((log.flatMap Event.detected).filter fun x => !x.2.isEmpty).length :=
          (h.identified_of_isOver hover).length_eq
      _ = (log.flatMap Event.detected).countP fun x => !x.2.isEmpty :=
          List.countP_eq_length_filter.symm
      _ = (log.flatMap Event.detected).countP ((fun t => !(outcome t).isEmpty) ∘ Prod.fst) :=
          List.countP_congr fun x hx => by rw [houtcome x hx]; rfl

end Accounts

/-- A batch that is over has no targets left: it has at least one worker, and workers leave only
when the queue is empty. -/
theorem Course.queue_of_isOver {o : BatchOptions} (h : Course d level (start o targets) log p)
    (hover : p.IsOver) : p.shared.queue = [] := by
  have hworkers : 0 < p.workers.length := by
    rw [h.length_workers, start, List.length_replicate]
    exact Nat.lt_of_lt_of_le Nat.one_pos (Nat.le_max_left 1 o.concurrency)
  obtain ⟨w, hw⟩ := List.exists_mem_of_length_pos hworkers
  refine h.queue_eq_nil ?_ (hover w hw ▸ hw)
  intro hstart
  cases (List.mem_replicate.mp hstart).2

/-- However the workers of a batch interleave, of the targets no more are identified than completed,
and no more are completed than there are; what is found at a target is found by a whole dialog with
it; and the workers go on until they have all left, which they do at last.  If what is found at a
target does not depend on the interleaving, then every target has been taken and probed once by that
time, the results are those of the targets in some order, and the counters say how many targets
there are and at how many of them something was found. -/
theorem settles_every_target (d : Detector) (o : BatchOptions) (targets : List Target)
    (outcome : Target → List ServiceResult) (log : List Event) (p : Pool)
    (hcourse : Course d o.level (start o targets) log p)
    (houtcome : ∀ t found, (t, found) ∈ log.flatMap Event.detected → found = outcome t) :
    let progress := p.shared.state.progress
    (progress.identified ≤ progress.completed ∧ progress.completed ≤ progress.total ∧
      progress.total = targets.length) ∧
    (∀ t found, (t, found) ∈ log.flatMap Event.detected →
      ∃ exchanged, (d.matchService t.host t.port o.level).Plays exchanged found) ∧
    (¬ p.IsOver → ∃ e q, Step d o.level p e q) ∧
    Acc (fun q p => ∃ e, Step d o.level p e q) p ∧
    (p.IsOver →
      log.flatMap Event.taken = targets ∧
      ((log.flatMap Event.detected).map Prod.fst).Perm targets ∧
      (∃ order : List Target, order.Perm targets ∧
        p.shared.state.results = order.flatMap outcome) ∧
      progress.completed = targets.length ∧
      progress.identified = targets.countP fun t => !(outcome t).isEmpty) := by
  have haccounts := hcourse.accounts
  have hidle : ∀ w ∈ (start o targets).workers, w.Follows d o.level := by
    intro w hw
    rw [(List.mem_replicate.mp hw).2]
    trivial
  refine ⟨⟨haccounts.identified_le_completed, haccounts.completed_le_total, ?_⟩, ?_,
    p.exists_step, (wellFounded_step d o.level).apply p, fun hover => ?_⟩
  · rw [haccounts.progress]
  · exact fun t found hfound => hcourse.plays_detected hidle (t, found) hfound
  · have hqueue := hcourse.queue_of_isOver hover
    have houtcome' (x : Target × List ServiceResult) (hx : x ∈ log.flatMap Event.detected) :
        x.2 = outcome x.1 := houtcome x.1 x.2 hx
    obtain ⟨htaken, hdetected⟩ := haccounts.detected_of_isOver hover hqueue
    exact ⟨htaken, hdetected, haccounts.results_of_isOver hover hqueue outcome houtcome',
      haccounts.progress_of_isOver hover hqueue outcome houtcome'⟩

/-! ## Two workers -/

/-- Of two workers, one may probe a target and take another while the other is at its first. -/
theorem exists_course_of_two_workers {t u : Target} {result : ServiceResult}
    {exchanged exchanged' : List (ServiceRequest × ServiceReply)}
    (ht : (d.matchService t.host t.port level).Plays exchanged [result])
    (hu : (d.matchService u.host u.port level).Plays exchanged' []) :
    ∃ log, Course d level ⟨[.idle, .idle], [t, u, t], [], 3, 0, 0⟩ log
        ⟨[.finished, .finished], [], [result, result], 3, 3, 2⟩ ∧
      log.flatMap Event.detected = [(u, []), (t, [result]), (t, [result])] := by
  let probing (t : Target) : Worker := .probing t (d.matchService t.host t.port level)
  let settling (stage : Stage) : Worker := .settling stage t [result]
  let asked (exchanged : List (ServiceRequest × ServiceReply)) : List Event :=
    exchanged.map fun x => .ask x.1 x.2
  have htaken : Course d level ⟨[.idle, .idle], [t, u, t], [], 3, 0, 0⟩ [.take t, .take u]
      ⟨[probing t, probing u], [t], [], 3, 0, 0⟩ :=
    (Course.nil.snoc (.act [] [.idle] (.take t _ _))).snoc (.act [probing t] [] (.take u _ _))
  have hsecond : Course d level ⟨[probing t, probing u], [t], [], 3, 0, 0⟩
      (asked exchanged' ++ [.detect u []] ++ [.settle .completing u []] ++ [.take t])
      ⟨[probing t, probing t], [], [], 3, 1, 0⟩ :=
    (((course_done d level [probing t] [] u hu _).snoc (.act [probing t] [] (.detect u [] _))).snoc
      (.act [probing t] [] (.settle .completing u [] _ _))).snoc
      (.act [probing t] [] (.take t _ _))
  have hprobed : Course d level ⟨[probing t, probing t], [], [], 3, 1, 0⟩
      (asked exchanged ++ (asked exchanged ++ [.detect t [result]] ++ [.detect t [result]]))
      ⟨[settling .completing, settling .completing], [], [], 3, 1, 0⟩ :=
    (course_done d level [] [probing t] t ht _).trans
      (((course_done d level [.probing t (.done [result])] [] t ht _).snoc
        (.act [] [.probing t (.done [result])] (.detect t _ _))).snoc
        (.act [settling .completing] [] (.detect t _ _)))
  have hcounted : Course d level ⟨[settling .completing, settling .completing], [], [], 3, 1, 0⟩
      [.settle .completing t [result], .settle .completing t [result],
        .settle .identifying t [result], .settle .identifying t [result]]
      ⟨[settling .keeping, settling .keeping], [], [], 3, 3, 2⟩ :=
    (((Course.nil.snoc (.act [] [settling .completing] (.settle .completing t _ _ _))).snoc
      (.act [settling .identifying] [] (.settle .completing t _ _ _))).snoc
      (.act [] [settling .identifying] (.settle .identifying t _ _ _))).snoc
      (.act [settling .keeping] [] (.settle .identifying t _ _ _))
  have hkept : Course d level ⟨[settling .keeping, settling .keeping], [], [], 3, 3, 2⟩
      [.settle .keeping t [result], .leave, .settle .keeping t [result], .leave]
      ⟨[.finished, .finished], [], [result, result], 3, 3, 2⟩ :=
    (((Course.nil.snoc (.act [settling .keeping] [] (.settle .keeping t _ _ _))).snoc
      (.act [settling .keeping] [] (.leave _))).snoc
      (.act [] [.finished] (.settle .keeping t _ _ _))).snoc
      (.act [] [.finished] (.leave _))
  have hasked (exchanged : List (ServiceRequest × ServiceReply)) :
      (asked exchanged).flatMap Event.detected = [] := by
    rw [List.flatMap_map]
    exact List.flatMap_eq_nil_iff.mpr fun _ _ => rfl
  refine ⟨_, (((htaken.trans hsecond).trans hprobed).trans hcounted).trans hkept, ?_⟩
  simp only [List.flatMap_append, hasked]
  rfl

/-- Two workers settle three targets, two of which are the same; nothing is found at the third. -/
theorem settles_every_target_of_two_workers :
    let shell : Target := ⟨"10.0.0.2", "22"⟩
    let closed : Target := ⟨"10.0.0.1", "81"⟩
    let finger : Finger :=
      { name := "ssh", protocol := "tcp", ports := ["22"]
        rules := [{ payload := "x", patterns := some { body := ["SSH-"] } }] }
    let lab : Dialog.Peer ServiceRequest ServiceReply Unit :=
      ⟨fun _ r =>
        (if r.port = "22" then .ok (Utf8.encode "SSH-2.0")
          else .error (.reported .refused r.port), ())⟩
    ∃ s, Fingers.new [] [finger] {} = .ok s ∧
      let d : Detector := { engines := [.fingers s], enabled := [.fingers] }
      let outcome (t : Target) := ((d.matchService t.host t.port 1).run lab ()).result
      ∃ log p, Course d 1 (start { concurrency := 2 } [shell, closed, shell]) log p ∧
        (∀ t found, (t, found) ∈ log.flatMap Event.detected → found = outcome t) ∧ p.IsOver ∧
        (∃ order : List Target, order.Perm [shell, closed, shell] ∧
          p.shared.state.results = order.flatMap outcome) ∧
        p.shared.state.progress.completed = 3 ∧ p.shared.state.progress.identified = 2 := by
  intro shell closed finger lab
  have hlengths : ((Fingers.new [] [finger] {}).toOption.map fun s =>
      let d : Detector := { engines := [.fingers s], enabled := [.fingers] }
      let outcome (t : Target) := ((d.matchService t.host t.port 1).run lab ()).result
      ((outcome shell).length, (outcome closed).length)) = some (1, 0) := by
    decide +kernel
  obtain ⟨s, hs, hlengths⟩ := Results.exists_of_map_toOption _ _ _ hlengths
  refine ⟨s, hs, ?_⟩
  intro d outcome
  obtain ⟨hshell, hclosed⟩ : (outcome shell).length = 1 ∧ (outcome closed).length = 0 :=
    Prod.mk.inj hlengths
  obtain ⟨result, hresult⟩ := List.length_eq_one_iff.mp hshell
  have hnone : outcome closed = [] := List.length_eq_zero_iff.mp hclosed
  have hplays (t : Target) : ∃ exchanged,
      (d.matchService t.host t.port 1).Plays exchanged (outcome t) :=
    ⟨_, Dialog.plays_run lab () _⟩
  obtain ⟨exchanged, hplaysShell⟩ := hplays shell
  obtain ⟨exchanged', hplaysClosed⟩ := hplays closed
  rw [hresult] at hplaysShell
  rw [hnone] at hplaysClosed
  obtain ⟨log, hcourse, hdetected⟩ := exists_course_of_two_workers hplaysShell hplaysClosed
  have hall : ∀ x ∈ [(closed, []), (shell, [result]), (shell, [result])], x.2 = outcome x.1 := by
    simp only [List.forall_mem_cons]
    exact ⟨hnone.symm, hresult.symm, hresult.symm, List.forall_mem_nil _⟩
  have houtcome (t : Target) (found : List ServiceResult)
      (h : (t, found) ∈ log.flatMap Event.detected) : found = outcome t :=
    hall (t, found) (hdetected ▸ h)
  have hover : Pool.IsOver ⟨[.finished, .finished], [], [result, result], 3, 3, 2⟩ := by
    simp [IsOver]
  obtain ⟨-, -, -, -, hend⟩ := settles_every_target d { concurrency := 2 } [shell, closed, shell]
    outcome log _ hcourse houtcome
  obtain ⟨-, -, horder, hcompleted, -⟩ := hend hover
  exact ⟨log, _, hcourse, houtcome, hover, horder, hcompleted, rfl⟩

end Fingerprinting.Pool
