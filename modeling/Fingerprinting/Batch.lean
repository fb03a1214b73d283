/-
# Batches

A batch probes many targets.  `Progress` counts how many there are, how many are completed and how
many of those have been identified; `Detector.matchAll` probes the targets one after the other.
-/
import Fingerprinting.Detector
import Fingerprinting.Target

namespace Fingerprinting

/-! ## Progress -/

/-- How far a batch has come. -/
structure Progress where
  total : Nat := 0
  completed : Nat := 0
  identified : Nat := 0
deriving DecidableEq, Repr, Inhabited

namespace Progress

/-- Announce the number of targets; what has been counted stays. -/
def announce (p : Progress) (total : Nat) : Progress := { p with total }

/-- Count a completed target. -/
def record (p : Progress) (identified : Bool) : Progress :=
  { p with
    completed := p.completed + 1
    identified := if identified then p.identified + 1 else p.identified }

end Progress

/-! ## Batches -/

/-- How a batch is to be run. -/
structure BatchOptions where
  concurrency : Nat := 50
  level : Int := 1
deriving DecidableEq, Repr, Inhabited

/-- The number of workers: at least one. -/
def BatchOptions.workers (o : BatchOptions) : Nat := max 1 o.concurrency

/-- What a batch has found, and how far it has come. -/
structure BatchState where
  results : List ServiceResult := []
  progress : Progress := {}
deriving Inhabited

/-- Take the results of one target in. -/
def BatchState.take (s : BatchState) (found : List ServiceResult) : BatchState :=
  ⟨s.results ++ found, s.progress.record !found.isEmpty⟩

/-- Probe some targets, after what a batch has found already. -/
def Detector.matchTargets (d : Detector) (level : Int) (s : BatchState) :
    List Target → ServiceDialog BatchState
  | [] => .done s
  | t :: rest => do
      let found ← d.matchService t.host t.port level
      d.matchTargets level (s.take found) rest

/-- Probe all targets of a batch. -/
def Detector.matchAll (d : Detector) (level : Int) (progress : Progress) (targets : List Target) :
    ServiceDialog BatchState :=
  d.matchTargets level ⟨[], progress.announce targets.length⟩ targets

end Fingerprinting
