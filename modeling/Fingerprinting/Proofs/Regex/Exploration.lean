/-
# What the search finds

The search tries no pair of instruction and position twice.  Nothing is lost by that: a pair that
has been tried in vain, with all that can be reached from it, leads to no match later.

* `Closed` is the invariant: whatever a tried pair leads to has been tried too or waits its turn;
* `explore_some` and `explore_none` say what an answer of `explore` means;
* `isMatch_ofExpr` says that a pattern matches a byte string exactly if its expression matches some
  part of it;
* `compileUnder` compiles a pattern that is under some flags from its start.
-/
import Fingerprinting.Proofs.Regex.Matching
import Fingerprinting.Proofs.Results
import Fingerprinting.Regex.Basic

namespace Fingerprinting.Regex

variable {hay : Array UInt8} {p : Program} {seen seen' : Seen} {stack : List Branch}

/-! ## Positions -/

theorem le_size_of_completeChar {bound i j : Nat} {pending : Utf8.Pending} {c : Char}
    (h : completeChar hay bound pending i = some (c, j)) : j ≤ hay.size := by
  induction bound generalizing pending i with
  | zero => cases h
  | succ bound ih =>
      unfold completeChar at h
      split at h
      · cases h
      · rename_i b hb
        obtain ⟨hlt, -⟩ := Array.getElem?_eq_some_iff.mp hb
        split at h
        · cases h
          exact hlt
        · exact ih h
        · cases h

theorem le_size_of_charAt {i j : Nat} {c : Char} (h : charAt hay i = some (c, j)) :
    j ≤ hay.size := by
  unfold charAt at h
  split at h
  · cases h
  · rename_i b hb
    obtain ⟨hlt, -⟩ := Array.getElem?_eq_some_iff.mp hb
    split at h
    · cases h
      exact hlt
    · exact le_size_of_completeChar h
    · cases h

/-- No instruction leaves the byte string. -/
theorem Instr.Goes.le_size {t : Instr} {i pc j : Nat} (h : t.Goes hay i pc j)
    (hi : i ≤ hay.size) : j ≤ hay.size := by
  cases t with
  | done => exact h.elim
  | char set next =>
      obtain ⟨-, c, hc, -⟩ := h
      exact le_size_of_charAt hc
  | byte set next =>
      obtain ⟨-, b, hb, -, rfl⟩ := h
      exact (Array.getElem?_eq_some_iff.mp hb).1
  | look l next => exact h.2.2 ▸ hi
  | choice first second => exact h.2 ▸ hi
  | note slot next => exact h.2 ▸ hi

/-- What an instruction that has one place to go answers with. -/
theorem goes_iff_mem_one {next pc j k : Nat} {slots : Slots} {condition : Prop}
    [Decidable condition] :
    pc = next ∧ condition ∧ j = k ↔
      ∃ u ∈ if condition then [(⟨next, k, slots⟩ : Branch)] else [], u.pc = pc ∧ u.pos = j := by
  by_cases h : condition
  · simp [h, eq_comm]
  · simp [h]

/-- An instruction ends the run, or it answers with the branches that it goes to. -/
theorem Instr.move_cases (hay : Array UInt8) (b : Branch) (t : Instr) :
    (t = .done ∧ t.move hay b = .accept) ∨
      (t ≠ .done ∧ ∃ next, t.move hay b = .proceed next ∧
        ∀ pc j, t.Goes hay b.pos pc j ↔ ∃ u ∈ next, u.pc = pc ∧ u.pos = j) := by
  cases t with
  | done => exact .inl ⟨rfl, rfl⟩
  | char set next =>
      refine .inr ⟨Instr.noConfusion, ?_⟩
      unfold move Goes
      cases charAt hay b.pos with
      | none => exact ⟨[], rfl, fun pc j => by simp⟩
      | some r =>
          refine ⟨_, rfl, fun pc j => Iff.trans (and_congr_right fun _ => ?_) goes_iff_mem_one⟩
          constructor
          · rintro ⟨c, hc, hmem⟩
            cases hc
            exact ⟨hmem, rfl⟩
          · rintro ⟨hmem, rfl⟩
            exact ⟨r.1, rfl, hmem⟩
  | byte set next =>
      refine .inr ⟨Instr.noConfusion, ?_⟩
      unfold move Goes
      cases hay[b.pos]? with
      | none => exact ⟨[], rfl, fun pc j => by simp⟩
      | some byte =>
          refine ⟨_, rfl, fun pc j => Iff.trans ?_ goes_iff_mem_one⟩
          simp only [Option.some.injEq, exists_eq_left']
  | look l next => exact .inr ⟨Instr.noConfusion, _, rfl, fun pc j => goes_iff_mem_one⟩
  | choice first second =>
      refine .inr ⟨Instr.noConfusion, _, rfl, fun pc j => ?_⟩
      simp only [Goes, List.mem_cons, List.not_mem_nil, or_false, exists_eq_or_imp,
        exists_eq_left]
      rw [or_and_right, eq_comm (a := pc), eq_comm (a := pc), eq_comm (a := j)]
  | note slot next =>
      refine .inr ⟨Instr.noConfusion, _, rfl, fun pc j => ?_⟩
      simp only [Goes, List.mem_singleton, exists_eq_left, eq_comm]

/-! ## Tried pairs -/

/-- The number of a pair of instruction and position. -/
def pairNumber (hay : Array UInt8) (pc i : Nat) : Nat := pc * (hay.size + 1) + i

/-- Whether a pair of instruction and position need not be tried any more. -/
def Tried (hay : Array UInt8) (seen : Seen) (pc i : Nat) : Prop :=
  ¬ seen.IsFree (pairNumber hay pc i)

theorem pairNumber_injective {pc i pc' i' : Nat} (hi : i ≤ hay.size) (hi' : i' ≤ hay.size)
    (h : pairNumber hay pc i = pairNumber hay pc' i') : pc = pc' ∧ i = i' := by
  have hpc : pc = pc' := by
    have hdiv := congrArg (· / (hay.size + 1)) h
    simp only [pairNumber] at hdiv
    rwa [Nat.mul_comm, Nat.mul_add_div (Nat.succ_pos _), Nat.mul_comm pc',
      Nat.mul_add_div (Nat.succ_pos _), Nat.div_eq_of_lt (Nat.lt_succ_of_le hi),
      Nat.div_eq_of_lt (Nat.lt_succ_of_le hi')] at hdiv
  subst hpc
  exact ⟨rfl, Nat.add_left_cancel h⟩

theorem Seen.isFree_mark_iff {k k' : Nat} (h : seen.IsFree k) :
    (seen.mark k h).IsFree k' ↔ seen.IsFree k' ∧ k' ≠ k := by
  simp only [IsFree, mark, Array.size_set, Array.getElem_set]
  constructor
  · rintro ⟨hlt, hfree⟩
    split at hfree
    · cases hfree
    · rename_i hne
      exact ⟨⟨hlt, hfree⟩, fun heq => hne heq.symm⟩
  · rintro ⟨⟨hlt, hfree⟩, hne⟩
    exact ⟨hlt, by rwa [if_neg fun heq => hne heq.symm]⟩

/-- Marking a pair leaves the tried pairs tried. -/
theorem Tried.mark {k pc i : Nat} (h : Tried hay seen pc i) (hfree : seen.IsFree k) :
    Tried hay (seen.mark k hfree) pc i :=
  fun hstill => h ((Seen.isFree_mark_iff hfree).mp hstill).1

theorem tried_mark_self {pc i : Nat} (hfree : seen.IsFree (pairNumber hay pc i)) :
    Tried hay (seen.mark (pairNumber hay pc i) hfree) pc i :=
  fun hstill => ((Seen.isFree_mark_iff hfree).mp hstill).2 rfl

/-- A pair tried after a mark is the marked one or was tried before. -/
theorem tried_of_tried_mark {pc i pc' i' : Nat} (hi : i ≤ hay.size) (hi' : i' ≤ hay.size)
    (hfree : seen.IsFree (pairNumber hay pc i))
    (h : Tried hay (seen.mark (pairNumber hay pc i) hfree) pc' i') :
    (pc' = pc ∧ i' = i) ∨ Tried hay seen pc' i' := by
  by_cases heq : pairNumber hay pc' i' = pairNumber hay pc i
  · exact .inl (pairNumber_injective hi' hi heq)
  · exact .inr fun hwas => h ((Seen.isFree_mark_iff hfree).mpr ⟨hwas, heq⟩)

/-! ## Exploring -/

/-- Whether all branches of a stack stand inside the byte string. -/
def Inside (hay : Array UInt8) (stack : List Branch) : Prop := ∀ b ∈ stack, b.pos ≤ hay.size

/-- Whether no tried pair ends the run, and each leads to tried pairs and branches of the stack
only. -/
def Closed (p : Program) (hay : Array UInt8) (seen : Seen) (stack : List Branch) : Prop :=
  ∀ pc i t, i ≤ hay.size → p.code[pc]? = some t → Tried hay seen pc i →
    t ≠ .done ∧ ∀ next j, t.Goes hay i next j →
      Tried hay seen next j ∨ ∃ b ∈ stack, b.pc = next ∧ b.pos = j

/-- A closed set of pairs leads to no match. -/
theorem Closed.not_accepts (h : Closed p hay seen []) {n pc i : Nat} (hi : i ≤ hay.size)
    (htried : Tried hay seen pc i) : ¬ Accepts p.code hay n pc i := by
  intro haccepts
  induction haccepts with
  | done ht => exact (h _ _ _ hi ht htried).1 rfl
  | step ht hgoes _ ih =>
      rcases (h _ _ _ hi ht htried).2 _ _ hgoes with hnext | ⟨b, hb, -⟩
      · exact ih (hgoes.le_size hi) hnext
      · cases hb

/-- A branch that was tried before can be left out. -/
theorem Closed.drop {b : Branch} (h : Closed p hay seen (b :: stack))
    (htried : Tried hay seen b.pc b.pos) : Closed p hay seen stack := by
  intro pc i t hi ht hpc
  refine ⟨(h pc i t hi ht hpc).1, fun next j hgoes => ?_⟩
  rcases (h pc i t hi ht hpc).2 next j hgoes with hnext | ⟨u, hu, rfl, rfl⟩
  · exact .inl hnext
  · rcases List.mem_cons.mp hu with rfl | hu
    · exact .inl htried
    · exact .inr ⟨u, hu, rfl, rfl⟩

/-- A branch can be replaced by those that it leads to. -/
theorem Closed.advance {b : Branch} {next : List Branch} (h : Closed p hay seen (b :: stack))
    (hb : b.pos ≤ hay.size) (hfree : seen.IsFree (pairNumber hay b.pc b.pos))
    (hnext : ∀ t, p.code[b.pc]? = some t → t ≠ .done ∧
      ∀ pc j, t.Goes hay b.pos pc j → ∃ u ∈ next, u.pc = pc ∧ u.pos = j) :
    Closed p hay (seen.mark (pairNumber hay b.pc b.pos) hfree) (next ++ stack) := by
  intro pc i t hi ht htried
  rcases tried_of_tried_mark hb hi hfree htried with ⟨rfl, rfl⟩ | hwas
  · refine ⟨(hnext t ht).1, fun pc j hgoes => .inr ?_⟩
    obtain ⟨u, hu, hpos⟩ := (hnext t ht).2 pc j hgoes
    exact ⟨u, List.mem_append_left _ hu, hpos⟩
  · refine ⟨(h pc i t hi ht hwas).1, fun pc j hgoes => ?_⟩
    rcases (h _ i t hi ht hwas).2 pc j hgoes with hnext | ⟨u, hu, rfl, rfl⟩
    · exact .inl (hnext.mark hfree)
    · rcases List.mem_cons.mp hu with rfl | hu
      · exact .inl (tried_mark_self hfree)
      · exact .inr ⟨u, List.mem_append_right _ hu, rfl, rfl⟩

/-- A match that is found begins at a branch of the stack. -/
theorem explore_some {slots : Slots} (h : explore p hay seen stack = (seen', some slots)) :
    ∃ b ∈ stack, ∃ n, Accepts p.code hay n b.pc b.pos := by
  induction seen, stack using explore.induct p hay with
  | case1 seen =>
      rw [explore] at h
      cases h
  | case2 seen b rest k hfree hcode ih =>
      rw [explore, dif_pos hfree, hcode] at h
      obtain ⟨u, hu, haccepts⟩ := ih h
      exact ⟨u, List.mem_cons_of_mem b hu, haccepts⟩
  | case3 seen b rest k hfree t hcode hmove =>
      rcases t.move_cases hay b with ⟨rfl, -⟩ | ⟨-, next, hproceed, -⟩
      · exact ⟨b, List.mem_cons_self, 0, .done hcode⟩
      · cases hmove.symm.trans hproceed
  | case4 seen b rest k hfree t hcode next hmove ih =>
      rw [explore, dif_pos hfree, hcode] at h
      simp only [hmove] at h
      obtain ⟨u, hu, n, haccepts⟩ := ih h
      rcases List.mem_append.mp hu with hu | hu
      · rcases t.move_cases hay b with ⟨-, haccept⟩ | ⟨-, others, hproceed, hgoes⟩
        · cases hmove.symm.trans haccept
        · cases hmove.symm.trans hproceed
          exact ⟨b, List.mem_cons_self, n + 1,
            .step hcode ((hgoes u.pc u.pos).mpr ⟨u, hu, rfl, rfl⟩) haccepts⟩
      · exact ⟨u, List.mem_cons_of_mem b hu, n, haccepts⟩
  | case5 seen b rest k htried ih =>
      rw [explore, dif_neg htried] at h
      obtain ⟨u, hu, haccepts⟩ := ih h
      exact ⟨u, List.mem_cons_of_mem b hu, haccepts⟩

/-- When no match is found, all that the stack leads to has been tried. -/
theorem explore_none (h : explore p hay seen stack = (seen', none))
    (hclosed : Closed p hay seen stack) (hinside : Inside hay stack) :
    Closed p hay seen' [] ∧ (∀ pc i, Tried hay seen pc i → Tried hay seen' pc i) ∧
      ∀ b ∈ stack, Tried hay seen' b.pc b.pos := by
  induction seen, stack using explore.induct p hay with
  | case1 seen =>
      rw [explore] at h
      cases h
      exact ⟨hclosed, fun _ _ htried => htried, fun b hb => nomatch hb⟩
  | case2 seen b rest k hfree hcode ih =>
      rw [explore, dif_pos hfree, hcode] at h
      obtain ⟨hb, hrest⟩ := List.forall_mem_cons.mp hinside
      have hadvance : Closed p hay (seen.mark k hfree) ([] ++ rest) :=
        hclosed.advance hb hfree fun t ht => nomatch hcode.symm.trans ht
      obtain ⟨hempty, hkeeps, htried⟩ := ih h hadvance hrest
      exact ⟨hempty, fun pc i hwas => hkeeps pc i (hwas.mark hfree),
        List.forall_mem_cons.mpr ⟨hkeeps _ _ (tried_mark_self hfree), htried⟩⟩
  | case3 seen b rest k hfree t hcode hmove =>
      rw [explore, dif_pos hfree, hcode] at h
      simp only [hmove] at h
      cases h
  | case4 seen b rest k hfree t hcode next hmove ih =>
      -- The branch itself is marked, and what it leads to waits in front of the rest.
      rw [explore, dif_pos hfree, hcode] at h
      simp only [hmove] at h
      obtain ⟨hb, hrest⟩ := List.forall_mem_cons.mp hinside
      rcases t.move_cases hay b with ⟨-, haccept⟩ | ⟨hdone, others, hproceed, hgoes⟩
      · cases hmove.symm.trans haccept
      cases hmove.symm.trans hproceed
      have hadvance : Closed p hay (seen.mark k hfree) (next ++ rest) :=
        hclosed.advance hb hfree fun t' ht' => by
          cases hcode.symm.trans ht'
          exact ⟨hdone, fun pc j => (hgoes pc j).mp⟩
      have hnext : Inside hay (next ++ rest) := by
        intro u hu
        rcases List.mem_append.mp hu with hu | hu
        · exact ((hgoes u.pc u.pos).mpr ⟨u, hu, rfl, rfl⟩).le_size hb
        · exact hrest u hu
      obtain ⟨hempty, hkeeps, htried⟩ := ih h hadvance hnext
      exact ⟨hempty, fun pc i hwas => hkeeps pc i (hwas.mark hfree),
        List.forall_mem_cons.mpr ⟨hkeeps _ _ (tried_mark_self hfree),
          fun u hu => htried u (List.mem_append_right next hu)⟩⟩
  | case5 seen b rest k htried ih =>
      rw [explore, dif_neg htried] at h
      obtain ⟨hempty, hkeeps, hstack⟩ :=
        ih h (hclosed.drop htried) (List.forall_mem_cons.mp hinside).2
      exact ⟨hempty, hkeeps, List.forall_mem_cons.mpr ⟨hkeeps _ _ htried, hstack⟩⟩

/-! ## Searching -/

/-- A search finds a match exactly if there is one that begins at a position it tries. -/
theorem isSome_searchFrom (left i : Nat) (hclosed : Closed p hay seen [])
    (hleft : i + left ≤ hay.size + 1) :
    (searchFrom p hay seen i left).isSome = true ↔
      ∃ k, i ≤ k ∧ k < i + left ∧ ∃ n, Accepts p.code hay n p.start k := by
  induction left generalizing i seen with
  | zero =>
      simp only [searchFrom, Option.isSome_none, Bool.false_eq_true, false_iff]
      rintro ⟨k, hk, hlt, -⟩
      exact absurd hlt (Nat.not_lt.mpr hk)
  | succ left ih =>
      have hi : i ≤ hay.size := by omega
      have hstart : Closed p hay seen [⟨p.start, i, []⟩] := by
        intro pc j t hj ht htried
        refine ⟨(hclosed pc j t hj ht htried).1, fun next k hgoes => .inl ?_⟩
        rcases (hclosed pc j t hj ht htried).2 next k hgoes with hnext | ⟨b, hb, -⟩
        · exact hnext
        · cases hb
      rw [searchFrom]
      rcases hexplore : explore p hay seen [⟨p.start, i, []⟩] with ⟨seen', _ | slots⟩
      · obtain ⟨hempty, -, htried⟩ := explore_none hexplore hstart
          (List.forall_mem_singleton.mpr hi)
        have hhere : ∀ n, ¬ Accepts p.code hay n p.start i :=
          fun n => hempty.not_accepts hi (htried _ List.mem_cons_self)
        rw [ih (i + 1) hempty (by omega)]
        constructor
        · rintro ⟨k, hk, hlt, haccepts⟩
          exact ⟨k, by omega, by omega, haccepts⟩
        · rintro ⟨k, hk, hlt, n, haccepts⟩
          rcases Nat.eq_or_lt_of_le hk with rfl | hk
          · exact absurd haccepts (hhere n)
          · exact ⟨k, hk, by omega, n, haccepts⟩
      · obtain ⟨b, hb, haccepts⟩ := explore_some hexplore
        cases List.mem_singleton.mp hb
        exact ⟨fun _ => ⟨i, Nat.le_refl i, by omega, haccepts⟩, fun _ => rfl⟩

/-- At first every pair of a program has yet to be tried. -/
theorem closed_start (p : Program) (hay : Array UInt8) :
    Closed p hay ⟨Array.replicate (p.code.size * (hay.size + 1)) false⟩ [] := by
  intro pc i t hi ht htried
  have hpc : pc < p.code.size := (Array.getElem?_eq_some_iff.mp ht).1
  have hlt : pairNumber hay pc i < p.code.size * (hay.size + 1) :=
    calc pairNumber hay pc i
      _ < pc * (hay.size + 1) + (hay.size + 1) := Nat.add_lt_add_left (Nat.lt_succ_of_le hi) _
      _ = (pc + 1) * (hay.size + 1) := (Nat.succ_mul _ _).symm
      _ ≤ p.code.size * (hay.size + 1) := Nat.mul_le_mul_right _ hpc
  exact absurd ⟨by simpa using hlt, by simp⟩ htried

/-- A pattern matches a byte string exactly if its expression matches some part of it. -/
theorem isMatch_ofExpr (source : String) (e : Expr) (b : Bytes) :
    (⟨source, .ofExpr e⟩ : Regex).isMatch b = true ↔
      ∃ i j, i ≤ b.length ∧ e.Matches b.toArray i j := by
  have hsearch := isSome_searchFrom (p := .ofExpr e) (b.toArray.size + 1) 0
    (closed_start (.ofExpr e) b.toArray) (by omega)
  rw [Regex.isMatch, Regex.captures?, Option.isSome_map, Program.search, Program.searchAt,
    Nat.sub_zero, hsearch]
  simp only [Nat.zero_le, true_and, Nat.zero_add, Program.accepts_ofExpr_iff, List.size_toArray,
    Nat.lt_succ_iff]
  exact ⟨fun ⟨i, hi, j, h⟩ => ⟨i, j, hi, h⟩, fun ⟨i, j, hi, h⟩ => ⟨i, hi, j, h⟩⟩

/-! ## Compiled patterns -/

/-- Compile a pattern that is under some flags from its start. -/
def compileUnder (f : Flags) (source : String) : Except PatternError Regex := do
  let p ← Pattern.parse source
  let (e, _) ← f.expr p
  if maxSize < e.size then .error .tooLarge else .ok ⟨source, .ofExpr e⟩

theorem compile_eq_compileUnder (source : String) :
    compile source = compileUnder .initial source := by
  unfold compile compileUnder Expr.ofPattern
  cases Pattern.parse source with
  | error err => rfl
  | ok p =>
      change (Flags.initial.expr p >>= _) >>= _ = (Flags.initial.expr p >>= _)
      cases Flags.initial.expr p with
      | error err => rfl
      | ok r => rfl

/-- Whether a pattern that is under some flags from its start can match the bytes from position `i`
up to position `j`. -/
def MatchesUnder (f : Flags) (source : String) (b : Bytes) (i j : Nat) : Prop :=
  ∃ p e g, Pattern.parse source = .ok p ∧ f.expr p = .ok (e, g) ∧ e.Matches b.toArray i j

theorem compileUnder_ok {f : Flags} {source : String} {r : Regex}
    (h : compileUnder f source = .ok r) :
    ∃ p e g, Pattern.parse source = .ok p ∧ f.expr p = .ok (e, g) ∧ ∀ b, r.isMatch b = true ↔
      ∃ i j, i ≤ b.length ∧ e.Matches b.toArray i j := by
  obtain ⟨p, hp, h⟩ := (Results.bind_eq_ok_iff _ _ _).mp h
  obtain ⟨⟨e, g⟩, he, h⟩ := (Results.bind_eq_ok_iff _ _ _).mp h
  dsimp only at h
  by_cases hsize : maxSize < e.size
  · rw [if_pos hsize] at h
    cases h
  · rw [if_neg hsize] at h
    cases h
    exact ⟨p, e, g, hp, he, isMatch_ofExpr source e⟩

theorem compileUnder_eq_ok {f : Flags} {source : String} {p : Pattern} {e : Expr} {g : Flags}
    (hp : Pattern.parse source = .ok p) (he : f.expr p = .ok (e, g)) (hsize : e.size ≤ maxSize) :
    compileUnder f source = .ok ⟨source, .ofExpr e⟩ := by
  refine (Results.bind_eq_ok_iff _ _ _).mpr ⟨p, hp, (Results.bind_eq_ok_iff _ _ _).mpr ⟨_, he, ?_⟩⟩
  exact if_neg (Nat.not_lt.mpr hsize)

theorem matchesUnder_iff {f : Flags} {source : String} {p : Pattern} {e : Expr} {g : Flags}
    (hp : Pattern.parse source = .ok p) (he : f.expr p = .ok (e, g)) (b : Bytes) (i j : Nat) :
    MatchesUnder f source b i j ↔ e.Matches b.toArray i j := by
  constructor
  · rintro ⟨p', e', g', hp', he', hmatches⟩
    cases hp.symm.trans hp'
    cases he.symm.trans he'
    exact hmatches
  · exact fun hmatches => ⟨p, e, g, hp, he, hmatches⟩

end Fingerprinting.Regex
