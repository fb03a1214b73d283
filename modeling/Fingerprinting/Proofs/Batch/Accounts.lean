/-
# Accounts of a pool

Targets pass through a pool in stages: they are taken from the queue, probed, counted as completed,
counted as identified if anything was found, and their results are kept.  What has come to a stage
has passed it, or is held by a worker.

* `Pool.Course.balance` says so for every course, from what a worker does in one step;
* `Pool.Accounts` puts the stages together with the queue, the progress and the results.
-/
import Mathlib.Data.List.Perm.Basic
import Fingerprinting.Proofs.Batch.Pool

namespace Fingerprinting

/-! ## Stages -/

namespace Worker

/-- The target that a worker probes. -/
def target : Worker → List Target
  | .probing t _ => [t]
  | _ => []

/-- The target that a worker has at a stage, with its results. -/
def held (stage : Stage) : Worker → List (Target × List ServiceResult)
  | .settling stage' t found => if stage' = stage then [(t, found)] else []
  | _ => []

end Worker

namespace Event

/-- The target that is taken from the queue. -/
def taken : Event → List Target
  | .take t => [t]
  | _ => []

/-- The target that has been probed, with its results. -/
def detected : Event → List (Target × List ServiceResult)
  | .detect t found => [(t, found)]
  | _ => []

/-- The target that comes to a stage. -/
def enters (stage : Stage) : Event → List (Target × List ServiceResult)
  | .detect t found => (Worker.settling .completing t found).held stage
  | .settle stage' t found => (Worker.after t found (stage'.next? found)).held stage
  | _ => []

/-- The target that passes a stage. -/
def passes (stage : Stage) : Event → List (Target × List ServiceResult)
  | .settle stage' t found => (Worker.settling stage' t found).held stage
  | _ => []

/-- What has been probed is counted. -/
theorem enters_completing (e : Event) : e.enters .completing = e.detected := by
  cases e with
  | settle stage t found =>
      cases stage with
      | completing =>
          rw [enters, Stage.next?]
          split <;> rfl
      | identifying => rfl
      | keeping => rfl
  | _ => rfl

/-- Of what has been counted, targets with results are identified. -/
theorem enters_identifying (e : Event) :
    e.enters .identifying = (e.passes .completing).filter fun x => !x.2.isEmpty := by
  cases e with
  | settle stage t found =>
      cases stage with
      | completing => cases found <;> rfl
      | identifying => rfl
      | keeping => rfl
  | _ => rfl

/-- The results of what has been identified are kept. -/
theorem enters_keeping (e : Event) : e.enters .keeping = e.passes .identifying := by
  cases e with
  | settle stage t found =>
      cases stage with
      | completing => cases found <;> rfl
      | identifying => rfl
      | keeping => rfl
  | _ => rfl

end Event

namespace Worker

variable {d : Detector} {level : Int} {w w' : Worker} {shared shared' : Shared} {e : Event}

/-! ## Steps -/

theorem Step.target_eq (h : Step d level w shared e w' shared') :
    e.detected.map Prod.fst ++ w'.target = w.target ++ e.taken := by
  cases h with
  | settle stage t found queue state => cases stage.next? found <;> rfl
  | _ => rfl

theorem Step.held_eq (h : Step d level w shared e w' shared') (stage : Stage) :
    e.passes stage ++ w'.held stage = w.held stage ++ e.enters stage := by
  cases h <;> rfl

theorem Step.queue_eq (h : Step d level w shared e w' shared') :
    e.taken ++ shared'.queue = shared.queue := by
  cases h <;> rfl

theorem Step.results_eq (h : Step d level w shared e w' shared') :
    shared'.state.results =
      shared.state.results ++ (e.passes .keeping).flatMap Prod.snd := by
  cases h with
  | settle stage t found queue state =>
      cases stage <;> simp [Event.passes, held, Stage.apply]
  | _ => simp [Event.passes]

theorem Step.progress_eq (h : Step d level w shared e w' shared') :
    shared'.state.progress =
      { shared.state.progress with
        completed := shared.state.progress.completed + (e.passes .completing).length
        identified := shared.state.progress.identified + (e.passes .identifying).length } := by
  cases h with
  | settle stage t found queue state => cases stage <;> rfl
  | _ => rfl

/-- A worker leaves when the queue is empty. -/
theorem Step.queue_eq_nil (h : Step d level w shared e w' shared') (hw : w' = .finished) :
    shared'.queue = [] := by
  cases h with
  | leave state => rfl
  | settle stage t found queue state =>
      cases hnext : stage.next? found <;> simp [hnext, after] at hw
  | _ => cases hw

/-- Whatever a worker comes to find at its target is what a whole dialog with the target finds. -/
def Follows (d : Detector) (level : Int) : Worker → Prop
  | .probing t dialog => ∀ rest found, dialog.Plays rest found →
      ∃ exchanged, (d.matchService t.host t.port level).Plays exchanged found
  | _ => True

theorem Step.follows (h : Step d level w shared e w' shared') (hw : w.Follows d level) :
    w'.Follows d level := by
  cases h with
  | take t rest state => exact fun exchanged found hplays => ⟨exchanged, hplays⟩
  | ask t request next reply => exact fun rest found hplays => hw _ found (.ask hplays)
  | settle stage t found queue state => cases stage.next? found <;> trivial
  | _ => trivial

theorem Step.plays_detected (h : Step d level w shared e w' shared') (hw : w.Follows d level)
    (x : Target × List ServiceResult) (hx : x ∈ e.detected) :
    ∃ exchanged, (d.matchService x.1.host x.1.port level).Plays exchanged x.2 := by
  cases h with
  | detect t found =>
      obtain rfl := List.mem_singleton.mp hx
      exact hw [] found (.done found)
  | _ => cases hx

end Worker

namespace Pool

variable {d : Detector} {level : Int} {p q : Pool} {log : List Event}

/-! ## Courses -/

/-- What enters a stage passes it or is held: it is enough that no worker loses or invents anything
in a step. -/
theorem Course.balance {α : Type} {entered passed : Event → List α} {held : Worker → List α}
    (hstep : ∀ {w shared e w' shared'}, Worker.Step d level w shared e w' shared' →
      passed e ++ held w' = held w ++ entered e)
    (h : Course d level p log q) :
    (log.flatMap passed ++ q.workers.flatMap held).Perm
      (p.workers.flatMap held ++ log.flatMap entered) := by
  classical
  induction h with
  | nil => simp
  | snoc _ hact ih =>
      obtain ⟨before, after, hact⟩ := hact
      -- The other workers hold what they held, so only the step itself is to be counted.
      refine List.perm_iff_count.mpr fun x => ?_
      have hcount := List.perm_iff_count.mp ih x
      have hlocal := congrArg (List.count x) (hstep hact)
      simp only [List.flatMap_append, List.flatMap_cons, List.flatMap_nil, List.append_nil,
        List.count_append] at hcount hlocal ⊢
      omega

theorem Course.queue_eq (h : Course d level p log q) :
    log.flatMap Event.taken ++ q.shared.queue = p.shared.queue := by
  induction h with
  | nil => rfl
  | snoc _ hact ih =>
      obtain ⟨before, after, hact⟩ := hact
      rw [← ih, List.flatMap_append, List.flatMap_singleton, List.append_assoc, hact.queue_eq]

theorem Course.results_eq (h : Course d level p log q) :
    q.shared.state.results =
      p.shared.state.results ++ (log.flatMap (Event.passes .keeping)).flatMap Prod.snd := by
  induction h with
  | nil => simp
  | snoc _ hact ih =>
      obtain ⟨before, after, hact⟩ := hact
      rw [hact.results_eq, ih, List.flatMap_append, List.flatMap_append, List.flatMap_singleton,
        List.append_assoc]

theorem Course.progress_eq (h : Course d level p log q) :
    q.shared.state.progress =
      { p.shared.state.progress with
        completed := p.shared.state.progress.completed +
          (log.flatMap (Event.passes .completing)).length
        identified := p.shared.state.progress.identified +
          (log.flatMap (Event.passes .identifying)).length } := by
  induction h with
  | nil => rfl
  | snoc _ hact ih =>
      obtain ⟨before, after, hact⟩ := hact
      rw [hact.progress_eq, ih]
      simp only [List.flatMap_append, List.flatMap_singleton, List.length_append, Nat.add_assoc]

theorem Course.length_workers (h : Course d level p log q) :
    q.workers.length = p.workers.length := by
  induction h with
  | nil => rfl
  | snoc _ hact ih =>
      obtain ⟨before, after, hact⟩ := hact
      simpa using ih

/-- When a worker has left, no target is left in the queue. -/
theorem Course.queue_eq_nil (h : Course d level p log q) (hp : .finished ∉ p.workers)
    (hq : .finished ∈ q.workers) : q.shared.queue = [] := by
  induction h with
  | nil => exact absurd hq hp
  | snoc _ hact ih =>
      obtain ⟨before, after, hact⟩ := hact
      rename_i w w' shared shared' e
      have hkept (hw : .finished ∈ before ++ w :: after) : shared'.queue = [] :=
        (List.append_eq_nil_iff.mp (hact.queue_eq.trans (ih hw))).2
      rcases List.mem_append.mp hq with hbefore | hrest
      · exact hkept (List.mem_append_left _ hbefore)
      · rcases List.mem_cons.mp hrest with hw' | hafter
        · exact hact.queue_eq_nil hw'.symm
        · exact hkept (List.mem_append_right _ (List.mem_cons_of_mem _ hafter))

theorem Course.follows (h : Course d level p log q) (hp : ∀ w ∈ p.workers, w.Follows d level) :
    ∀ w ∈ q.workers, w.Follows d level := by
  induction h with
  | nil => exact hp
  | snoc _ hact ih =>
      obtain ⟨before, after, hact⟩ := hact
      simp only [List.forall_mem_append, List.forall_mem_cons] at ih ⊢
      exact ⟨ih.1, hact.follows ih.2.1, ih.2.2⟩

/-- What is found at a target is found by a whole dialog with it. -/
theorem Course.plays_detected (h : Course d level p log q)
    (hp : ∀ w ∈ p.workers, w.Follows d level) (x : Target × List ServiceResult)
    (hx : x ∈ log.flatMap Event.detected) :
    ∃ exchanged, (d.matchService x.1.host x.1.port level).Plays exchanged x.2 := by
  induction h with
  | nil => cases hx
  | snoc hcourse hact ih =>
      obtain ⟨before, after, hact⟩ := hact
      rw [List.flatMap_append, List.flatMap_singleton] at hx
      rcases List.mem_append.mp hx with hx | hx
      · exact ih hx
      · exact hact.plays_detected (hcourse.follows hp _ (by simp)) x hx

/-! ## Accounts -/

/-- Where the targets of a pool are after the steps of a log. -/
structure Accounts (targets : List Target) (log : List Event) (p : Pool) : Prop where
  queue : log.flatMap Event.taken ++ p.shared.queue = targets
  detected : ((log.flatMap Event.detected).map Prod.fst ++ p.workers.flatMap Worker.target).Perm
    (log.flatMap Event.taken)
  completed : (log.flatMap (Event.passes .completing) ++
    p.workers.flatMap (Worker.held .completing)).Perm (log.flatMap Event.detected)
  identified : (log.flatMap (Event.passes .identifying) ++
    p.workers.flatMap (Worker.held .identifying)).Perm
      ((log.flatMap (Event.passes .completing)).filter fun x => !x.2.isEmpty)
  kept : (log.flatMap (Event.passes .keeping) ++ p.workers.flatMap (Worker.held .keeping)).Perm
    (log.flatMap (Event.passes .identifying))
  progress : p.shared.state.progress =
    { total := targets.length
      completed := (log.flatMap (Event.passes .completing)).length
      identified := (log.flatMap (Event.passes .identifying)).length }
  results : p.shared.state.results = (log.flatMap (Event.passes .keeping)).flatMap Prod.snd

/-- Workers that wait hold nothing. -/
theorem flatMap_start {α : Type} (o : BatchOptions) (targets : List Target)
    (held : Worker → List α) (h : held .idle = []) :
    (start o targets).workers.flatMap held = [] := by
  refine List.flatMap_eq_nil_iff.mpr fun w hw => ?_
  rw [(List.mem_replicate.mp hw).2, h]

/-- Workers that have left hold nothing. -/
theorem IsOver.flatMap_eq_nil {α : Type} (hover : p.IsOver) (held : Worker → List α)
    (h : held .finished = []) : p.workers.flatMap held = [] := by
  refine List.flatMap_eq_nil_iff.mpr fun w hw => ?_
  rw [hover w hw, h]

theorem Course.accounts {o : BatchOptions} {targets : List Target}
    (h : Course d level (start o targets) log p) : Accounts targets log p := by
  have hstage (stage : Stage) :
      (log.flatMap (Event.passes stage) ++ p.workers.flatMap (Worker.held stage)).Perm
        (log.flatMap (Event.enters stage)) := by
    have hbalance := h.balance fun hstep => hstep.held_eq stage
    rwa [flatMap_start o targets (Worker.held stage) rfl, List.nil_append] at hbalance
  have htarget := h.balance fun hstep => hstep.target_eq
  rw [flatMap_start o targets Worker.target rfl, List.nil_append, ← List.map_flatMap] at htarget
  have hcompleting := hstage .completing
  have hidentifying := hstage .identifying
  have hkeeping := hstage .keeping
  rw [funext Event.enters_completing] at hcompleting
  rw [funext Event.enters_identifying, ← List.filter_flatMap] at hidentifying
  rw [funext Event.enters_keeping] at hkeeping
  exact
    { queue := h.queue_eq
      detected := htarget
      completed := hcompleting
      identified := hidentifying
      kept := hkeeping
      progress := by simpa [start, Progress.announce] using h.progress_eq
      results := h.results_eq }

namespace Accounts

variable {targets : List Target}

theorem identified_le_completed (h : Accounts targets log p) :
    p.shared.state.progress.identified ≤ p.shared.state.progress.completed := by
  have hidentified := h.identified.length_eq
  have hfilter := List.length_filter_le (fun x : Target × List ServiceResult => !x.2.isEmpty)
    (log.flatMap (Event.passes .completing))
  rw [List.length_append] at hidentified
  rw [h.progress]
  dsimp only
  omega

theorem completed_le_total (h : Accounts targets log p) :
    p.shared.state.progress.completed ≤ p.shared.state.progress.total := by
  have hcompleted := h.completed.length_eq
  have hdetected := h.detected.length_eq
  have hqueue := congrArg List.length h.queue
  rw [List.length_append] at hcompleted hdetected hqueue
  rw [List.length_map] at hdetected
  rw [h.progress]
  dsimp only
  omega

end Accounts

end Pool

end Fingerprinting
