/-
# Successive runs of a batch

A batch may be run again with other targets, and its progress lasts from run to run.  A run announces
the number of its targets, but it goes on counting where the last run stopped, so the counters of
completed and identified targets are those of all runs, and the total is that of the last one.

* `Pool.Course.forget` says that the progress has no influence on what workers do;
* `Pool.Run.Completes.progress_eq` says what one run adds to the progress;
* `Pool.counters_of_successive_runs` is the main result.
-/
import Fingerprinting.Proofs.Batch.Settling

namespace Fingerprinting

/-! ## Progress has no influence -/

/-- What workers share, with another progress. -/
def Shared.withProgress (s : Shared) (g : Progress) : Shared :=
  { s with state := { s.state with progress := g } }

/-- A worker does the same whatever has been counted. -/
theorem Worker.Step.forget {d : Detector} {level : Int} {w w' : Worker} {shared shared' : Shared}
    {e : Event} (h : Worker.Step d level w shared e w' shared') (g : Progress) :
    ∃ g', Worker.Step d level w (shared.withProgress g) e w' (shared'.withProgress g') := by
  cases h with
  | take t rest state => exact ⟨g, .take t rest _⟩
  | leave state => exact ⟨g, .leave _⟩
  | ask t request next reply => exact ⟨g, .ask t request next reply _⟩
  | detect t found => exact ⟨g, .detect t found _⟩
  | settle stage t found queue state =>
      have hsettle : Worker.Step d level _ _ _ _ _ :=
        .settle stage t found queue { state with progress := g }
      cases stage <;> exact ⟨_, hsettle⟩

namespace Pool

/-- A pool with another progress. -/
def withProgress (p : Pool) (g : Progress) : Pool :=
  { p with shared := p.shared.withProgress g }

variable {d : Detector} {level : Int} {p q : Pool} {log : List Event}

/-- The same course is one of the pool with another progress. -/
theorem Course.forget (h : Course d level p log q) (g : Progress) :
    ∃ g', Course d level (p.withProgress g) log (q.withProgress g') := by
  induction h with
  | nil => exact ⟨g, .nil⟩
  | snoc _ hact ih =>
      obtain ⟨before, after, hact⟩ := hact
      obtain ⟨g', ih⟩ := ih
      obtain ⟨g'', hstep⟩ := hact.forget g'
      exact ⟨g'', ih.snoc (.act before after hstep)⟩

/-- Whatever the state of a pool, some course brings it to its end. -/
theorem exists_course_isOver (d : Detector) (level : Int) (p : Pool) :
    ∃ log q, Course d level p log q ∧ q.IsOver := by
  induction p using (wellFounded_step d level).induction with
  | _ p ih =>
      by_cases hover : p.IsOver
      · exact ⟨[], p, .nil, hover⟩
      · obtain ⟨e, q, hstep⟩ := exists_step p hover
        obtain ⟨log, r, hcourse, hover⟩ := ih q ⟨e, hstep⟩
        exact ⟨[e] ++ log, r, (Course.nil.snoc hstep).trans hcourse, hover⟩

/-! ## One run -/

/-- A run of a batch: its targets, and what its workers did. -/
structure Run where
  targets : List Target
  log : List Event

/-- What a run has found at its targets. -/
def Run.detected (r : Run) : List (Target × List ServiceResult) := r.log.flatMap Event.detected

/-- The number of targets at which a run has found something. -/
def Run.identified (r : Run) : Nat := r.detected.countP fun x => !x.2.isEmpty

/-- A run has come to its end, with the progress before and after it. -/
def Run.Completes (d : Detector) (o : BatchOptions) (r : Run) (g g' : Progress) : Prop :=
  ∃ p, Course d o.level (resume o g r.targets) r.log p ∧ p.IsOver ∧ p.shared.state.progress = g'

variable {o : BatchOptions} {r : Run} {g g' : Progress}

/-- A run that begins after some progress is as good as a first run. -/
theorem Run.Completes.exists_accounts (h : r.Completes d o g g') :
    ∃ p, Accounts r.targets r.log p ∧ p.IsOver ∧ p.shared.queue = [] := by
  obtain ⟨p, hcourse, hover, -⟩ := h
  -- The accounts are those of a batch without any progress, so the progress of the run is forgotten.
  obtain ⟨g₁, hfirst⟩ := hcourse.forget (({} : Progress).announce r.targets.length)
  have hstart : Course d o.level (start o r.targets) r.log (p.withProgress g₁) := by
    rw [start_eq_resume]
    exact hfirst
  exact ⟨p.withProgress g₁, hstart.accounts, hover, hstart.queue_of_isOver hover⟩

/-- Every target of a run is probed once. -/
theorem Run.Completes.detected_perm (h : r.Completes d o g g') :
    (r.detected.map Prod.fst).Perm r.targets := by
  obtain ⟨p, haccounts, hover, hqueue⟩ := h.exists_accounts
  exact (haccounts.detected_of_isOver hover hqueue).2

/-- What a run adds to the progress. -/
theorem Run.Completes.progress_eq (h : r.Completes d o g g') :
    g' = ⟨r.targets.length, g.completed + r.targets.length, g.identified + r.identified⟩ := by
  obtain ⟨p₁, haccounts, hover₁, hqueue⟩ := h.exists_accounts
  have hdetected := (haccounts.detected_of_isOver hover₁ hqueue).2.length_eq
  have hcompleted := (haccounts.completed_of_isOver hover₁).length_eq
  have hidentified := (haccounts.identified_of_isOver hover₁).length_eq
  rw [List.length_map] at hdetected
  rw [← List.countP_eq_length_filter] at hidentified
  -- The log counts the same for the course that was run, whose progress goes on from `g`.
  obtain ⟨p, hcourse, -, rfl⟩ := h
  rw [hcourse.progress_eq, hidentified, hcompleted, hdetected]
  rfl

/-- At most all targets of a run are identified. -/
theorem Run.Completes.identified_le (h : r.Completes d o g g') :
    r.identified ≤ r.targets.length := by
  have hlength := h.detected_perm.length_eq
  rw [List.length_map] at hlength
  rw [← hlength]
  exact List.countP_le_length

/-- Probing the targets one after the other is a run, whatever the progress before it. -/
theorem exists_completes_of_plays {targets : List Target}
    {exchanged : List (ServiceRequest × ServiceReply)} {s : BatchState}
    (h : (d.matchAll o.level g targets).Plays exchanged s) (hs : s.progress = g') :
    ∃ log, (⟨targets, log⟩ : Run).Completes d o g g' := by
  obtain ⟨log, p, hcourse, hover, hshared, -⟩ := exists_course_of_plays d o g targets exchanged s h
  exact ⟨log, p, hcourse, hover, by rw [hshared, hs]⟩

/-! ## Many runs -/

/-- Runs of one batch that have completed, one after the other, and the progress that they leave. -/
inductive Runs (d : Detector) (o : BatchOptions) : List Run → Progress → Prop where
  | nil : Runs d o [] {}
  | snoc {rs : List Run} {r : Run} {g g' : Progress} (h : Runs d o rs g)
      (hr : r.Completes d o g g') : Runs d o (rs ++ [r]) g'

/-- The counters add up over the runs. -/
theorem Runs.progress_eq {rs : List Run} (h : Runs d o rs g) :
    g.completed = (rs.map fun r => r.targets.length).sum ∧
      g.identified = (rs.map Run.identified).sum := by
  induction h with
  | nil => exact ⟨rfl, rfl⟩
  | snoc _ hr ih =>
      rw [hr.progress_eq]
      simp [ih.1, ih.2]

theorem Runs.identified_le_completed {rs : List Run} (h : Runs d o rs g) :
    g.identified ≤ g.completed := by
  induction h with
  | nil => exact Nat.le_refl 0
  | snoc _ hr ih =>
      rw [hr.progress_eq]
      exact Nat.add_le_add ih hr.identified_le

/-- The last of some runs has gone on with the progress that the others left. -/
theorem Runs.completes_last {rs : List Run} (h : Runs d o (rs ++ [r]) g) :
    ∃ g₀, Runs d o rs g₀ ∧ r.Completes d o g₀ g := by
  generalize hall : rs ++ [r] = all at h
  cases h with
  | nil => simp at hall
  | snoc hbefore hlast =>
      obtain ⟨rfl, hr⟩ := List.append_inj' hall rfl
      cases hr
      exact ⟨_, hbefore, hlast⟩

/-- After some runs of a batch and a last one, the total is the number of targets of the last, but
the counters are those of all runs: the completed targets are as many as the total exactly when the
runs before had no targets, and no more targets are identified than the total exactly when what was
identified before leaves room for it.  Another run may follow and comes to its end. -/
theorem counters_of_successive_runs (d : Detector) (o : BatchOptions) (rs : List Run) (r : Run)
    (g : Progress) (h : Runs d o (rs ++ [r]) g) :
    g.total = r.targets.length ∧
    g.completed = (rs.map fun r => r.targets.length).sum + r.targets.length ∧
    g.identified = (rs.map Run.identified).sum + r.identified ∧
    (r.detected.map Prod.fst).Perm r.targets ∧ r.identified ≤ r.targets.length ∧
    g.identified ≤ g.completed ∧
    (g.completed = g.total ↔ ∀ r' ∈ rs, r'.targets = []) ∧
    (g.identified ≤ g.total ↔
      (rs.map Run.identified).sum ≤ r.targets.length - r.identified) ∧
    ∀ targets, ∃ log g', Runs d o (rs ++ [r] ++ [⟨targets, log⟩]) g' := by
  obtain ⟨hcompleted, hidentified⟩ := h.progress_eq
  obtain ⟨g₀, -, hr⟩ := h.completes_last
  have htotal : g.total = r.targets.length := by rw [hr.progress_eq]
  rw [List.map_append, List.sum_append] at hcompleted hidentified
  have hle := hr.identified_le
  simp only [List.map_singleton, List.sum_singleton] at hcompleted hidentified
  refine ⟨htotal, hcompleted, hidentified, hr.detected_perm, hle, h.identified_le_completed,
    ?_, ?_, ?_⟩
  · rw [hcompleted, htotal, Nat.add_eq_right, List.sum_eq_zero_iff]
    simp
  · omega
  · intro targets
    obtain ⟨log, p, hcourse, hover⟩ := exists_course_isOver d o.level (resume o g targets)
    exact ⟨log, _, h.snoc ⟨p, hcourse, hover, rfl⟩⟩

/-- A run with one target, at which something is found, and a run without targets: the progress shows
more completed and identified targets than there are. -/
theorem counters_of_successive_runs_of_none :
    let shell : Target := ⟨"10.0.0.2", "22"⟩
    let finger : Finger :=
      { name := "ssh", protocol := "tcp", ports := ["22"]
        rules := [{ payload := "x", patterns := some { body := ["SSH-"] } }] }
    let o : BatchOptions := { concurrency := 2 }
    let d (s : Fingers) : Detector := { engines := [.fingers s], enabled := [.fingers] }
    ∃ s, Fingers.new [] [finger] {} = .ok s ∧
      ∃ first second g, Runs (d s) o ([⟨[shell], first⟩] ++ [⟨[], second⟩]) g ∧ g = ⟨0, 1, 1⟩ ∧
        g.completed ≠ g.total ∧ ¬g.identified ≤ g.total := by
  intro shell finger o d
  let lab : Dialog.Peer ServiceRequest ServiceReply Unit :=
    ⟨fun _ _ => (.ok (Utf8.encode "SSH-2.0"), ())⟩
  have hprogress : ((Fingers.new [] [finger] {}).toOption.map fun s =>
      (((d s).matchAll o.level {} [shell]).run lab ()).result.progress) = some ⟨1, 1, 1⟩ := by
    decide +kernel
  obtain ⟨s, hs, hprogress⟩ := Results.exists_of_map_toOption _ _ _ hprogress
  have hplays := Dialog.plays_run lab () ((d s).matchAll o.level {} [shell])
  obtain ⟨first, hfirst⟩ := exists_completes_of_plays hplays hprogress
  obtain ⟨second, hsecond⟩ : ∃ log, (⟨[], log⟩ : Run).Completes (d s) o ⟨1, 1, 1⟩ ⟨0, 1, 1⟩ :=
    exists_completes_of_plays (.done _) rfl
  have hruns := (Runs.nil.snoc hfirst).snoc hsecond
  obtain ⟨-, -, -, -, -, -, hcompleted, -, -⟩ :=
    counters_of_successive_runs (d s) o _ _ _ hruns
  refine ⟨s, hs, first, second, _, hruns, rfl, ?_, ?_⟩
  · intro h
    cases hcompleted.mp h _ (List.mem_singleton_self _)
  · decide

end Pool

end Fingerprinting
