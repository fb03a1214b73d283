/-
# Lower case is stable

Lower case, taken twice, is lower case: `lower_lower`.  The reason lies in the table of runs.  No
character that a run leads to belongs to a run again, so that the lower case of every character
consists of characters which are their own lower case (`isLowered_of_mem_lowerFrom`).

* `landsOutside_of_mem` is the fact about the table, checked run against run;
* `lower_lower` is what all that is filed under a name in lower case rests on.
-/
import Mathlib.Tactic.SplitIfs
import Fingerprinting.Text.Case

namespace Fingerprinting.Text

/-! ## Runs -/

/-- Whether a code point belongs to a run. -/
def InRun (n : Nat) (run : Nat × Nat × Nat × Int) : Prop :=
  run.1 ≤ n ∧ n ≤ run.2.1 ∧ (n - run.1) % run.2.2.1 = 0

/-- Whether the code points from `lo` to `hi`, in steps of `step`, avoid a run: they lie on one side
of it, or take the other code points between its own ones. -/
def avoids (lo hi step : Nat) (run : Nat × Nat × Nat × Int) : Bool :=
  Nat.blt hi run.1 || Nat.blt run.2.1 lo ||
    ((Nat.beq lo hi || Nat.beq step 2) && Nat.beq run.2.2.1 2 && Nat.beq ((lo + run.1) % 2) 1)

/-- Whether a run leads to characters outside all runs. -/
def landsOutside (run : Nat × Nat × Nat × Int) : Bool :=
  let lo := (run.1 + run.2.2.2).toNat
  let hi := (run.2.1 + run.2.2.2).toNat
  decide (0 ≤ run.1 + run.2.2.2) && (Nat.blt hi 0x130 || Nat.blt 0x130 lo) &&
    (Nat.blt hi 0xD800 || Nat.blt 0xDFFF lo && Nat.blt hi 0x110000) &&
    lowerRuns.all (avoids lo hi run.2.2.1)

/-- Every run of the table leads outside all of them. -/
theorem landsOutside_of_mem (run : Nat × Nat × Nat × Int) (h : run ∈ lowerRuns) :
    landsOutside run = true := by
  have hall : lowerRuns.all landsOutside = true := by decide +kernel
  exact List.all_eq_true.mp hall run h

/-- What avoids a run has no code point in common with it. -/
theorem not_inRun_of_avoids (lo hi step k : Nat) (run : Nat × Nat × Nat × Int)
    (h : avoids lo hi step run = true) (hk : lo + step * k ≤ hi) :
    ¬ InRun (lo + step * k) run := by
  rintro ⟨hlo, hhi, hmod⟩
  simp only [avoids, Bool.or_eq_true, Bool.and_eq_true, Nat.blt_eq, Nat.beq_eq] at h
  rcases h with (h | h) | ⟨⟨h | h, hrun⟩, hparity⟩
  · omega
  · omega
  · have hzero : step * k = 0 := by omega
    rw [hrun, hzero] at hmod
    omega
  · rw [hrun] at hmod
    rw [h] at hmod hlo
    omega

/-- A shift that is not zero comes from a run. -/
theorem lowerShift_eq_zero_or (n : Nat) (runs : List (Nat × Nat × Nat × Int)) :
    (lowerShift n runs = 0 ∧ ∀ run ∈ runs, ¬ InRun n run) ∨
      ∃ run ∈ runs, InRun n run ∧ lowerShift n runs = run.2.2.2 := by
  induction runs with
  | nil => left; simp [lowerShift]
  | cons run rest ih =>
      obtain ⟨lo, hi, step, shift⟩ := run
      by_cases h : lo ≤ n ∧ n ≤ hi ∧ (n - lo) % step = 0
      · right
        exact ⟨_, List.mem_cons_self, h, by rw [lowerShift, if_pos h]⟩
      · rw [lowerShift, if_neg h]
        rcases ih with ⟨hzero, hnone⟩ | ⟨run, hmem, hin, heq⟩
        · left
          refine ⟨hzero, ?_⟩
          intro run hrun
          rcases List.mem_cons.mp hrun with rfl | hrun
          · exact h
          · exact hnone run hrun
        · right
          exact ⟨run, List.mem_cons_of_mem _ hmem, hin, heq⟩

/-- The lower case of a code point in a run belongs to no run, and is the code point of a
character. -/
theorem outside_of_inRun (n : Nat) (run : Nat × Nat × Nat × Int) (hrun : run ∈ lowerRuns)
    (hn : InRun n run) :
    (n + run.2.2.2).toNat.isValidChar ∧ (n + run.2.2.2).toNat ≠ 0x130 ∧
      ∀ other ∈ lowerRuns, ¬ InRun (n + run.2.2.2).toNat other := by
  have hout := landsOutside_of_mem run hrun
  obtain ⟨lo, hi, step, shift⟩ := run
  obtain ⟨hlo, hhi, hmod⟩ := hn
  simp only [landsOutside, Bool.and_eq_true, Bool.or_eq_true, Nat.blt_eq, decide_eq_true_eq,
    List.all_eq_true] at hout hlo hhi hmod ⊢
  obtain ⟨⟨⟨hnonneg, hdot⟩, hvalid⟩, havoids⟩ := hout
  have hstep : lo + step * ((n - lo) / step) = n := by
    have hdiv := Nat.div_add_mod (n - lo) step
    omega
  have himage : (n + shift).toNat = (lo + shift).toNat + step * ((n - lo) / step) := by omega
  have hbound : (n + shift).toNat ≤ (hi + shift).toNat := by omega
  refine ⟨?_, by omega, ?_⟩
  · rw [Nat.isValidChar]
    omega
  · intro other hother
    rw [himage] at hbound ⊢
    exact not_inRun_of_avoids _ _ _ _ other (havoids other hother) hbound

/-! ## Characters -/

/-- A character that is its own lower case, and not the capital sigma, whose lower case depends on
what surrounds it. -/
def IsLowered (c : Char) : Prop := lowerChar c = [c] ∧ c ≠ capitalSigma

instance (c : Char) : Decidable (IsLowered c) := inferInstanceAs (Decidable (_ ∧ _))

/-- A character outside all runs is its own lower case, unless it is the capital I with dot. -/
theorem isLowered_of_not_inRun (c : Char) (hdot : c.toNat ≠ 0x130)
    (h : ∀ run ∈ lowerRuns, ¬ InRun c.toNat run) : IsLowered c := by
  have hlatin := h (0x41, 0x5A, 1, 32) (by decide +kernel)
  have hgreek := h (0x3A3, 0x3AB, 1, 32) (by decide +kernel)
  constructor
  · rw [lowerChar]
    by_cases hascii : c.toNat < 0x80
    · have hcap : ¬ ('A' ≤ c ∧ c ≤ 'Z') := by
        rintro ⟨hA, hZ⟩
        exact hlatin ⟨Char.le_def.mp hA, Char.le_def.mp hZ, Nat.mod_one _⟩
      rw [if_pos hascii, asciiLowerChar, if_neg hcap]
    · have hzero : lowerShift c.toNat lowerRuns = 0 := by
        rcases lowerShift_eq_zero_or c.toNat lowerRuns with ⟨hzero, -⟩ | ⟨run, hrun, hin, -⟩
        · exact hzero
        · exact absurd hin (h run hrun)
      rw [if_neg hascii, if_neg hdot, hzero, Int.add_zero, Int.toNat_natCast, Char.ofNat_toNat]
  · rintro rfl
    exact hgreek ⟨by decide, by decide, Nat.mod_one _⟩

/-- The lower case of a character consists of characters in lower case. -/
theorem isLowered_of_mem_lowerChar (c d : Char) (h : d ∈ lowerChar c) : IsLowered d := by
  rw [lowerChar] at h
  split_ifs at h with hascii hdot
  · have hall : ∀ n < 0x80, IsLowered (asciiLowerChar (Char.ofNat n)) := by decide +kernel
    rw [List.mem_singleton.mp h, ← Char.ofNat_toNat c]
    exact hall c.toNat hascii
  · have hparts : IsLowered 'i' ∧ IsLowered '\u0307' := by decide +kernel
    simp only [List.mem_cons, List.not_mem_nil, or_false] at h
    rcases h with rfl | rfl
    · exact hparts.1
    · exact hparts.2
  · rw [List.mem_singleton.mp h]
    rcases lowerShift_eq_zero_or c.toNat lowerRuns with ⟨hzero, hnone⟩ | ⟨run, hrun, hin, hshift⟩
    · rw [hzero, Int.add_zero, Int.toNat_natCast, Char.ofNat_toNat]
      exact isLowered_of_not_inRun c hdot hnone
    · -- The run leads outside all runs, where characters are their own lower case.
      obtain ⟨hvalid, hnotDot, hnone⟩ := outside_of_inRun c.toNat run hrun hin
      have hcode :
          (Char.ofNat (c.toNat + run.2.2.2).toNat).toNat = (c.toNat + run.2.2.2).toNat := by
        rw [Char.ofNat, dif_pos hvalid]
        rfl
      rw [hshift]
      apply isLowered_of_not_inRun
      · rw [hcode]
        exact hnotDot
      · rw [hcode]
        exact hnone

/-! ## Texts -/

/-- Lower case leaves a text alone whose characters are in lower case. -/
theorem lowerFrom_of_isLowered (before cs : List Char) (h : ∀ c ∈ cs, IsLowered c) :
    lowerFrom before cs = cs := by
  induction cs generalizing before with
  | nil => rfl
  | cons c rest ih =>
      obtain ⟨hsame, hsigma⟩ := h c List.mem_cons_self
      rw [lowerFrom, if_neg hsigma, hsame, ih _ fun d hd => h d (List.mem_cons_of_mem _ hd)]
      rfl

/-- Lower case consists of characters in lower case. -/
theorem isLowered_of_mem_lowerFrom (before cs : List Char) (d : Char)
    (h : d ∈ lowerFrom before cs) : IsLowered d := by
  induction cs generalizing before with
  | nil => simp [lowerFrom] at h
  | cons c rest ih =>
      rw [lowerFrom, List.mem_append] at h
      rcases h with h | h
      · have hsigmas : IsLowered '\u03C2' ∧ IsLowered '\u03C3' := by decide +kernel
        split_ifs at h
        · rw [List.mem_singleton.mp h]
          exact hsigmas.1
        · rw [List.mem_singleton.mp h]
          exact hsigmas.2
        · exact isLowered_of_mem_lowerChar c d h
      · exact ih _ h

/-- Lower case, taken twice, is lower case. -/
@[simp] theorem lower_lower (s : String) : lower (lower s) = lower s := by
  rw [lower, lower, String.toList_ofList]
  congr 1
  exact lowerFrom_of_isLowered _ _ fun d hd => isLowered_of_mem_lowerFrom _ _ d hd

end Fingerprinting.Text
