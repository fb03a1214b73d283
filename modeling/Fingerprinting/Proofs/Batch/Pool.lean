/-
# Pools of workers

Workers carry a batch out together.  They share a queue of targets, the progress and the results;
each takes a target, probes it, counts it, keeps what it found, and looks for the next one until the
queue is empty.  `Worker.Step` is one access to what is shared, or one exchange with a service, and
`Pool.Step` lets any worker make it, so a `Pool.Course` is an arbitrary interleaving.  What services
reply is left open.

* `Pool.exists_step` says that a pool goes on until all workers have left;
* `Pool.wellFounded_step` says that no course is infinite;
* `Pool.exists_course_of_plays` says that probing the targets one after the other is a course.
-/
import Mathlib.Logic.Hydra
import Mathlib.Tactic.Abel
import Fingerprinting.Batch
import Fingerprinting.Proofs.Transcript

namespace Fingerprinting

/-! ## Settling a target -/

namespace Progress

/-- Count a completed target. -/
def complete (p : Progress) : Progress := { p with completed := p.completed + 1 }

/-- Count a completed target as identified. -/
def identify (p : Progress) : Progress := { p with identified := p.identified + 1 }

/-- The two counters are counted one after the other. -/
theorem record_eq (p : Progress) (identified : Bool) :
    p.record identified = if identified then p.complete.identify else p.complete := by
  cases identified <;> rfl

end Progress

/-- What is done with the results for a target, one after the other. -/
inductive Stage where
  | completing
  | identifying
  | keeping
deriving DecidableEq, Repr

namespace Stage

/-- Carry a stage out. -/
def apply (found : List ServiceResult) : Stage → BatchState → BatchState
  | .completing, s => { s with progress := s.progress.complete }
  | .identifying, s => { s with progress := s.progress.identify }
  | .keeping, s => { s with results := s.results ++ found }

/-- The stage that follows: only a target with results is identified, and has results to keep. -/
def next? (found : List ServiceResult) : Stage → Option Stage
  | .completing => if found.isEmpty then none else some .identifying
  | .identifying => some .keeping
  | .keeping => none

end Stage

theorem BatchState.take_nil (s : BatchState) : s.take [] = Stage.completing.apply [] s := by
  rw [take, List.append_nil]
  rfl

theorem BatchState.take_of_ne_nil (s : BatchState) {found : List ServiceResult} (h : found ≠ []) :
    s.take found =
      Stage.keeping.apply found
        (Stage.identifying.apply found (Stage.completing.apply found s)) := by
  have hsome : (!found.isEmpty) = true := by simpa using h
  rw [take, Progress.record_eq, if_pos hsome]
  rfl

/-! ## Workers -/

/-- What a worker is at. -/
inductive Worker where
  | idle
  | probing (t : Target) (dialog : ServiceDialog (List ServiceResult))
  | settling (stage : Stage) (t : Target) (found : List ServiceResult)
  | finished

/-- What workers share: the targets that none of them has taken yet, and the state of the batch. -/
structure Shared where
  queue : List Target
  state : BatchState

/-- What a worker does in one step. -/
inductive Event where
  | take (t : Target)
  | ask (request : ServiceRequest) (reply : ServiceReply)
  | detect (t : Target) (found : List ServiceResult)
  | settle (stage : Stage) (t : Target) (found : List ServiceResult)
  | leave

/-- What passes between a worker and a service in a step. -/
def Event.exchanged : Event → List (ServiceRequest × ServiceReply)
  | .ask request reply => [(request, reply)]
  | _ => []

namespace Worker

/-- A worker that goes on with a target at some stage, or looks for another one. -/
def after (t : Target) (found : List ServiceResult) : Option Stage → Worker
  | some stage => .settling stage t found
  | none => .idle

/-- One step of a worker.  The queue and the results are under locks, so taking a target and keeping
its results are one step each; the two counters are apart. -/
inductive Step (d : Detector) (level : Int) : Worker → Shared → Event → Worker → Shared → Prop where
  | take (t : Target) (rest : List Target) (state : BatchState) :
      Step d level .idle ⟨t :: rest, state⟩ (.take t)
        (.probing t (d.matchService t.host t.port level)) ⟨rest, state⟩
  | leave (state : BatchState) : Step d level .idle ⟨[], state⟩ .leave .finished ⟨[], state⟩
  | ask (t : Target) (request : ServiceRequest)
      (next : ServiceReply → ServiceDialog (List ServiceResult)) (reply : ServiceReply)
      (shared : Shared) :
      Step d level (.probing t (.ask request next)) shared (.ask request reply)
        (.probing t (next reply)) shared
  | detect (t : Target) (found : List ServiceResult) (shared : Shared) :
      Step d level (.probing t (.done found)) shared (.detect t found)
        (.settling .completing t found) shared
  | settle (stage : Stage) (t : Target) (found : List ServiceResult) (queue : List Target)
      (state : BatchState) :
      Step d level (.settling stage t found) ⟨queue, state⟩ (.settle stage t found)
        (after t found (stage.next? found)) ⟨queue, stage.apply found state⟩

variable {d : Detector} {level : Int}

/-- Every worker that has not left can go on. -/
theorem exists_step (w : Worker) (shared : Shared) (h : w ≠ .finished) :
    ∃ e w' shared', Step d level w shared e w' shared' := by
  obtain ⟨queue, state⟩ := shared
  cases w with
  | idle =>
      cases queue with
      | nil => exact ⟨_, _, _, .leave state⟩
      | cons t rest => exact ⟨_, _, _, .take t rest state⟩
  | probing t dialog =>
      cases dialog with
      | done found => exact ⟨_, _, _, .detect t found _⟩
      | ask request next => exact ⟨_, _, _, .ask t request next (.ok []) _⟩
  | settling stage t found => exact ⟨_, _, _, .settle stage t found queue state⟩
  | finished => exact absurd rfl h

/-- A worker goes on without taking a target. -/
def GoesOn (d : Detector) (level : Int) (w' w : Worker) : Prop :=
  ∃ shared e shared', Step d level w shared e w' shared' ∧ shared'.queue = shared.queue

theorem acc_finished : Acc (GoesOn d level) .finished :=
  .intro _ fun _ ⟨_, _, _, hstep, _⟩ => nomatch hstep

theorem acc_idle : Acc (GoesOn d level) .idle := by
  refine .intro _ fun w ⟨shared, e, shared', hstep, hqueue⟩ => ?_
  cases hstep with
  | take t rest state => exact absurd hqueue.symm (List.cons_ne_self t rest)
  | leave state => exact acc_finished

theorem acc_after (t : Target) (found : List ServiceResult) (next : Option Stage)
    (h : ∀ stage, next = some stage → Acc (GoesOn d level) (.settling stage t found)) :
    Acc (GoesOn d level) (after t found next) := by
  cases next with
  | none => exact acc_idle
  | some stage => exact h stage rfl

theorem acc_settling_of_next (stage : Stage) (t : Target) (found : List ServiceResult)
    (h : ∀ next, stage.next? found = some next → Acc (GoesOn d level) (.settling next t found)) :
    Acc (GoesOn d level) (.settling stage t found) := by
  refine .intro _ fun w ⟨shared, e, shared', hstep, _⟩ => ?_
  cases hstep
  exact acc_after t found _ h

/-- Each stage is followed by a later one. -/
theorem acc_settling (stage : Stage) (t : Target) (found : List ServiceResult) :
    Acc (GoesOn d level) (.settling stage t found) := by
  have hkeeping : Acc (GoesOn d level) (.settling .keeping t found) :=
    acc_settling_of_next _ t found (by simp [Stage.next?])
  have hidentifying : Acc (GoesOn d level) (.settling .identifying t found) :=
    acc_settling_of_next _ t found (by simpa [Stage.next?] using hkeeping)
  cases stage with
  | completing => exact acc_settling_of_next _ t found (by simp [Stage.next?, hidentifying])
  | identifying => exact hidentifying
  | keeping => exact hkeeping

/-- Each exchange leads to a part of the dialog. -/
theorem acc_probing (t : Target) (dialog : ServiceDialog (List ServiceResult)) :
    Acc (GoesOn d level) (.probing t dialog) := by
  induction dialog with
  | done found =>
      refine .intro _ fun w ⟨shared, e, shared', hstep, _⟩ => ?_
      cases hstep
      exact acc_settling .completing t found
  | ask request next ih =>
      refine .intro _ fun w ⟨shared, e, shared', hstep, _⟩ => ?_
      cases hstep with
      | ask _ _ _ reply => exact ih reply

theorem wellFounded_goesOn (d : Detector) (level : Int) : WellFounded (GoesOn d level) := by
  refine ⟨fun w => ?_⟩
  cases w with
  | idle => exact acc_idle
  | probing t dialog => exact acc_probing t dialog
  | settling stage t found => exact acc_settling stage t found
  | finished => exact acc_finished

end Worker

/-! ## Pools -/

/-- Some workers and what they share. -/
structure Pool where
  workers : List Worker
  shared : Shared

namespace Pool

/-- The pool that a batch begins with. -/
def start (o : BatchOptions) (targets : List Target) : Pool :=
  ⟨List.replicate o.workers .idle, targets, [], ({} : Progress).announce targets.length⟩

/-- The pool that a batch goes on with when there has been some progress. -/
def resume (o : BatchOptions) (progress : Progress) (targets : List Target) : Pool :=
  ⟨List.replicate o.workers .idle, targets, [], progress.announce targets.length⟩

/-- A batch begins without any progress. -/
theorem start_eq_resume (o : BatchOptions) (targets : List Target) :
    start o targets = resume o {} targets := rfl

/-- One of the workers makes a step. -/
inductive Step (d : Detector) (level : Int) : Pool → Event → Pool → Prop where
  | act (before after : List Worker) {w w' : Worker} {shared shared' : Shared} {e : Event}
      (h : Worker.Step d level w shared e w' shared') :
      Step d level ⟨before ++ w :: after, shared⟩ e ⟨before ++ w' :: after, shared'⟩

/-- The steps of a pool, one after the other. -/
inductive Course (d : Detector) (level : Int) (p : Pool) : List Event → Pool → Prop where
  | nil : Course d level p [] p
  | snoc {log : List Event} {e : Event} {q r : Pool} (hcourse : Course d level p log q)
      (hstep : Step d level q e r) : Course d level p (log ++ [e]) r

/-- All workers have left. -/
def IsOver (p : Pool) : Prop := ∀ w ∈ p.workers, w = .finished

variable {d : Detector} {level : Int}

/-- A pool goes on until it is over. -/
theorem exists_step (p : Pool) (h : ¬ p.IsOver) : ∃ e q, Step d level p e q := by
  obtain ⟨workers, shared⟩ := p
  obtain ⟨w, hw, hbusy⟩ : ∃ w ∈ workers, w ≠ .finished := by simpa [IsOver] using h
  obtain ⟨before, after, rfl⟩ := List.append_of_mem hw
  obtain ⟨e, w', shared', hstep⟩ := w.exists_step shared hbusy
  exact ⟨e, _, .act before after hstep⟩

/-- The order in which the steps of a pool descend: the queue gets shorter, or one of the workers
goes on. -/
def descent (d : Detector) (level : Int) : Nat × Multiset Worker → Nat × Multiset Worker → Prop :=
  Prod.Lex (· < ·) (Relation.CutExpand (Worker.GoesOn d level))

theorem descent_of_step {p q : Pool} {e : Event} (h : Step d level p e q) :
    descent d level (q.shared.queue.length, q.workers) (p.shared.queue.length, p.workers) := by
  obtain ⟨before, after, hstep⟩ := h
  rename_i w w' shared shared'
  -- A step that leaves the queue alone puts one worker in the place of another.
  have hgoesOn (hqueue : shared'.queue = shared.queue) :
      descent d level (shared'.queue.length, (before ++ w' :: after : List Worker))
        (shared.queue.length, (before ++ w :: after : List Worker)) := by
    rw [hqueue]
    refine .right _ ⟨{w'}, w, ?_, ?_⟩
    · rintro v hv
      rw [Multiset.mem_singleton.mp hv]
      exact ⟨shared, e, shared', hstep, hqueue⟩
    · simp only [← Multiset.coe_add, ← Multiset.cons_coe, ← Multiset.singleton_add]
      abel
  cases hstep with
  | take t rest state => exact .left _ _ (Nat.lt_succ_self _)
  | _ => exact hgoesOn rfl

/-- No course of a pool is infinite, whatever the services reply. -/
theorem wellFounded_step (d : Detector) (level : Int) :
    WellFounded fun q p : Pool => ∃ e, Step d level p e q := by
  have hdescent : WellFounded (descent d level) :=
    WellFounded.prod_lex Nat.lt_wfRel.wf (Worker.wellFounded_goesOn d level).cutExpand
  exact Subrelation.wf (fun ⟨_, h⟩ => descent_of_step h)
    (InvImage.wf (fun p : Pool => (p.shared.queue.length, (p.workers : Multiset Worker))) hdescent)

/-! ## One target after the other -/

theorem Course.trans {p q r : Pool} {log log' : List Event} (h : Course d level p log q)
    (h' : Course d level q log' r) : Course d level p (log ++ log') r := by
  induction h' with
  | nil => simpa using h
  | snoc _ hstep ih =>
      rw [← List.append_assoc]
      exact .snoc ih hstep

/-- A pool may come from one state to another, with some requests and replies on the way. -/
def Reaches (d : Detector) (level : Int) (p : Pool)
    (exchanged : List (ServiceRequest × ServiceReply)) (q : Pool) : Prop :=
  ∃ log, Course d level p log q ∧ log.flatMap Event.exchanged = exchanged

theorem Reaches.refl (p : Pool) : Reaches d level p [] p := ⟨[], .nil, rfl⟩

theorem Reaches.trans {p q r : Pool} {first rest : List (ServiceRequest × ServiceReply)}
    (h : Reaches d level p first q) (h' : Reaches d level q rest r) :
    Reaches d level p (first ++ rest) r := by
  obtain ⟨log, hcourse, rfl⟩ := h
  obtain ⟨log', hcourse', rfl⟩ := h'
  exact ⟨log ++ log', hcourse.trans hcourse', List.flatMap_append⟩

variable (d : Detector) (level : Int) (before after : List Worker)

theorem reaches_act {w w' : Worker} {shared shared' : Shared} {e : Event}
    (h : Worker.Step d level w shared e w' shared') :
    Reaches d level ⟨before ++ w :: after, shared⟩ e.exchanged ⟨before ++ w' :: after, shared'⟩ :=
  ⟨[e], .snoc .nil (.act before after h), List.flatMap_singleton _ _⟩

/-- A worker may probe its target without being interrupted. -/
theorem course_done (t : Target) {dialog : ServiceDialog (List ServiceResult)}
    {exchanged : List (ServiceRequest × ServiceReply)} {found : List ServiceResult}
    (h : dialog.Plays exchanged found) (shared : Shared) :
    Course d level ⟨before ++ .probing t dialog :: after, shared⟩
      (exchanged.map fun x => .ask x.1 x.2)
      ⟨before ++ .probing t (.done found) :: after, shared⟩ := by
  induction h with
  | done found => exact .nil
  | @ask request reply next _ _ _ ih =>
      have hask : Step d level _ _ _ := .act before after (.ask t request next reply shared)
      exact (Course.nil.snoc hask).trans ih

theorem reaches_done (t : Target) {dialog : ServiceDialog (List ServiceResult)}
    {exchanged : List (ServiceRequest × ServiceReply)} {found : List ServiceResult}
    (h : dialog.Plays exchanged found) (shared : Shared) :
    Reaches d level ⟨before ++ .probing t dialog :: after, shared⟩ exchanged
      ⟨before ++ .probing t (.done found) :: after, shared⟩ := by
  refine ⟨_, course_done d level before after t h shared, ?_⟩
  rw [List.flatMap_map]
  exact List.flatMap_singleton' exchanged

/-- A worker may settle its target without being interrupted. -/
theorem reaches_take (t : Target) (found : List ServiceResult) (queue : List Target)
    (s : BatchState) :
    Reaches d level ⟨before ++ .settling .completing t found :: after, queue, s⟩ []
      ⟨before ++ .idle :: after, queue, s.take found⟩ := by
  have hstep (stage : Stage) (s : BatchState) :
      Reaches d level ⟨before ++ .settling stage t found :: after, queue, s⟩ []
        ⟨before ++ .after t found (stage.next? found) :: after, queue, stage.apply found s⟩ :=
    reaches_act d level before after (.settle stage t found queue s)
  have hcompleting := hstep .completing s
  by_cases hfound : found = []
  · subst hfound
    rw [s.take_nil]
    exact hcompleting
  · have hnext : Stage.completing.next? found = some .identifying := by simp [Stage.next?, hfound]
    rw [hnext] at hcompleting
    rw [s.take_of_ne_nil hfound]
    exact (hcompleting.trans (hstep .identifying _)).trans (hstep .keeping _)

/-- A worker may probe all targets while the others wait. -/
theorem reaches_matchTargets (targets : List Target) (s s' : BatchState)
    (exchanged : List (ServiceRequest × ServiceReply))
    (h : (d.matchTargets level s targets).Plays exchanged s') :
    Reaches d level ⟨before ++ .idle :: after, targets, s⟩ exchanged
      ⟨before ++ .idle :: after, [], s'⟩ := by
  induction targets generalizing s exchanged with
  | nil =>
      obtain ⟨rfl, rfl⟩ := (Dialog.plays_done_iff s s' exchanged).mp h
      exact .refl _
  | cons t rest ih =>
      obtain ⟨first, more, found, rfl, hfirst, hmore⟩ := (Dialog.plays_bind_iff _ _ _ _).mp h
      have htaken := reaches_act d level before after (.take t rest s)
      have hdone := reaches_done d level before after t hfirst ⟨rest, s⟩
      have hdetected := reaches_act d level before after (.detect t found ⟨rest, s⟩)
      have hsettled := reaches_take d level before after t found rest s
      have hrest := ih (s.take found) more hmore
      have hall := (((htaken.trans hdone).trans hdetected).trans hsettled).trans hrest
      simpa [Event.exchanged] using hall

/-- Workers that find the queue empty leave. -/
theorem reaches_finished (n : Nat) (s : BatchState) :
    Reaches d level ⟨before ++ List.replicate n .idle, [], s⟩ []
      ⟨before ++ List.replicate n .finished, [], s⟩ := by
  induction n generalizing before with
  | zero => exact .refl _
  | succ n ih =>
      have hleave := reaches_act d level before (List.replicate n .idle) (.leave s)
      have hothers := ih (before ++ [.finished])
      rw [List.append_assoc, List.append_assoc] at hothers
      exact hleave.trans hothers

/-- Probing the targets one after the other is a course of every pool. -/
theorem exists_course_of_plays (o : BatchOptions) (progress : Progress) (targets : List Target)
    (exchanged : List (ServiceRequest × ServiceReply)) (s : BatchState)
    (h : (d.matchAll o.level progress targets).Plays exchanged s) :
    ∃ log p, Course d o.level (resume o progress targets) log p ∧ p.IsOver ∧
      p.shared = ⟨[], s⟩ ∧ log.flatMap Event.exchanged = exchanged := by
  obtain ⟨n, hn⟩ : ∃ n, o.workers = n + 1 :=
    Nat.exists_eq_add_one.mpr (Nat.lt_of_lt_of_le Nat.one_pos (Nat.le_max_left 1 o.concurrency))
  have hfirst := reaches_matchTargets d _ [] (List.replicate n .idle) targets _ s exchanged h
  have hleft := reaches_finished d o.level [] (n + 1) s
  obtain ⟨log, hcourse, hexchanged⟩ := hfirst.trans hleft
  rw [List.append_nil] at hexchanged
  have hresume : Course d o.level (resume o progress targets) log
      ⟨.replicate (n + 1) .finished, [], s⟩ := by
    rw [resume, hn]
    exact hcourse
  exact ⟨log, _, hresume, fun w hw => (List.mem_replicate.mp hw).2, rfl, hexchanged⟩

end Pool

end Fingerprinting
