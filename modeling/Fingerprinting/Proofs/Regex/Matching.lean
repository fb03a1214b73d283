/-
# What expressions match

`Expr.Matches` says which parts of a byte string an expression matches, by its shape alone: nothing
is said of the order in which branches are tried.  The instructions laid down for an expression
agree with it.  From their first instruction on, a run reaches the end exactly if the expression
matches a part that begins there and a run from the instruction after them reaches the end from
where that part ends.

* `Implements` says so of one way to lay down instructions;
* `Expr.lay_implements` shows it of all expressions, one lemma for each way to put layouts together;
* `Program.accepts_ofExpr_iff` draws the conclusion for whole programs.
-/
import Fingerprinting.Regex.Search

namespace Fingerprinting.Regex

/-! ## Expressions -/

/-- A number of rounds, each going on where the one before ended. -/
inductive Rounds (M : Nat → Nat → Prop) : Nat → Nat → Nat → Prop
  | none {i : Nat} : Rounds M 0 i i
  | more {n i k j : Nat} : M i k → Rounds M n k j → Rounds M (n + 1) i j

/-- Whether an expression matches the bytes from position `i` up to position `j`. -/
def Expr.Matches (hay : Array UInt8) : Expr → Nat → Nat → Prop
  | .empty, i, j => j = i
  | .char set, i, j => ∃ c, charAt hay i = some (c, j) ∧ set.mem c.toNat = true
  | .byte set, i, j => ∃ b, hay[i]? = some b ∧ set.mem b.toNat = true ∧ j = i + 1
  | .look l, i, j => l.holds hay i = true ∧ j = i
  | .iterate least most _ body, i, j =>
      ∃ n, least ≤ n ∧ (∀ m, most = some m → n ≤ max least m) ∧ Rounds (body.Matches hay) n i j
  | .group _ body, i, j => body.Matches hay i j
  | .cat a b, i, j => ∃ k, a.Matches hay i k ∧ b.Matches hay k j
  | .alt a b, i, j => a.Matches hay i j ∨ b.Matches hay i j

/-! ## Runs -/

/-- Where an instruction goes from position `i`: to an instruction at a position. -/
def Instr.Goes (hay : Array UInt8) (i : Nat) : Instr → Nat → Nat → Prop
  | .done, _, _ => False
  | .char set next, pc, j => pc = next ∧ ∃ c, charAt hay i = some (c, j) ∧ set.mem c.toNat = true
  | .byte set next, pc, j =>
      pc = next ∧ ∃ b, hay[i]? = some b ∧ set.mem b.toNat = true ∧ j = i + 1
  | .look l next, pc, j => pc = next ∧ l.holds hay i = true ∧ j = i
  | .choice first second, pc, j => (pc = first ∨ pc = second) ∧ j = i
  | .note _ next, pc, j => pc = next ∧ j = i

/-- Whether some run from an instruction at a position ends well within a number of steps. -/
inductive Accepts (code : Array Instr) (hay : Array UInt8) : Nat → Nat → Nat → Prop
  | done {n pc i : Nat} : code[pc]? = some .done → Accepts code hay n pc i
  | step {n pc i next j : Nat} {t : Instr} : code[pc]? = some t → t.Goes hay i next j →
      Accepts code hay n next j → Accepts code hay (n + 1) pc i

variable {code : Array Instr} {hay : Array UInt8} {n pc i j : Nat}

theorem accepts_iff_of_ne_done {t : Instr} (ht : code[pc]? = some t) (hdone : t ≠ .done) :
    Accepts code hay n pc i ↔
      ∃ m, n = m + 1 ∧ ∃ next j, t.Goes hay i next j ∧ Accepts code hay m next j := by
  constructor
  · intro h
    cases h with
    | done h => exact absurd (Option.some.inj (ht.symm.trans h)) hdone
    | step h hgoes haccepts =>
        cases Option.some.inj (ht.symm.trans h)
        exact ⟨_, rfl, _, _, hgoes, haccepts⟩
  · rintro ⟨m, rfl, next, j, hgoes, haccepts⟩
    exact .step ht hgoes haccepts

/-- The choice of a loop goes both ways. -/
theorem goes_stayOrLeave {greedy : Bool} {stay leave : Nat} :
    (stayOrLeave greedy stay leave).Goes hay i pc j ↔ (pc = stay ∨ pc = leave) ∧ j = i := by
  cases greedy
  · exact and_congr_left' or_comm
  · exact Iff.rfl

theorem stayOrLeave_ne_done {greedy : Bool} {stay leave : Nat} :
    stayOrLeave greedy stay leave ≠ .done := by
  cases greedy <;> exact Instr.noConfusion

/-- A run through the choice of a loop stays or leaves. -/
theorem accepts_stayOrLeave {greedy : Bool} {stay leave : Nat}
    (ht : code[pc]? = some (stayOrLeave greedy stay leave)) :
    Accepts code hay n pc i ↔
      ∃ m, n = m + 1 ∧ (Accepts code hay m stay i ∨ Accepts code hay m leave i) := by
  rw [accepts_iff_of_ne_done ht stayOrLeave_ne_done]
  simp only [goes_stayOrLeave]
  constructor
  · rintro ⟨m, rfl, next, j, ⟨rfl | rfl, rfl⟩, h⟩
    · exact ⟨m, rfl, .inl h⟩
    · exact ⟨m, rfl, .inr h⟩
  · rintro ⟨m, rfl, h | h⟩
    · exact ⟨m, rfl, stay, i, ⟨.inl rfl, rfl⟩, h⟩
    · exact ⟨m, rfl, leave, i, ⟨.inr rfl, rfl⟩, h⟩

theorem Accepts.mono {m : Nat} (h : Accepts code hay n pc i) (hle : n ≤ m) :
    Accepts code hay m pc i := by
  induction h generalizing m with
  | done h => exact .done h
  | step ht hgoes _ ih =>
      obtain ⟨m, rfl⟩ := Nat.exists_eq_add_of_le' (Nat.le_trans (Nat.le_add_left 1 _) hle)
      exact .step ht hgoes (ih (Nat.le_of_succ_le_succ hle))

/-! ## Layouts -/

/-- Whether a program holds the instructions of `code` from number `a` on. -/
def Holds (program code : Array Instr) (a : Nat) : Prop :=
  ∀ k, a ≤ k → k < code.size → program[k]? = code[k]?

theorem Holds.from {program code : Array Instr} {a b : Nat} (h : Holds program code a)
    (hab : a ≤ b) : Holds program code b :=
  fun k hk hlt => h k (Nat.le_trans hab hk) hlt

/-- Whether `after` goes on from `before`: it has the same instructions and may have more. -/
def Extends (after before : Array Instr) : Prop :=
  before.size ≤ after.size ∧ ∀ k, k < before.size → after[k]? = before[k]?

theorem Extends.rfl {code : Array Instr} : Extends code code :=
  ⟨Nat.le_refl _, fun _ _ => Eq.refl _⟩

theorem Extends.trans {a b c : Array Instr} (hab : Extends a b) (hbc : Extends b c) :
    Extends a c :=
  ⟨Nat.le_trans hbc.1 hab.1,
    fun k hk => (hab.2 k (Nat.lt_of_lt_of_le hk hbc.1)).trans (hbc.2 k hk)⟩

theorem extends_push (code : Array Instr) (t : Instr) : Extends (code.push t) code := by
  refine ⟨by rw [Array.size_push]; exact Nat.le_succ _, fun k hk => ?_⟩
  rw [Array.getElem?_push, if_neg (Nat.ne_of_lt hk)]

/-- A program that holds what goes on from `code` holds `code`. -/
theorem Holds.of_extends {program after code : Array Instr} {a : Nat} (h : Holds program after a)
    (hextends : Extends after code) : Holds program code a :=
  fun k hk hlt => (h k hk (Nat.lt_of_lt_of_le hlt hextends.1)).trans (hextends.2 k hlt)

/-- The instruction laid down last is in the program. -/
theorem Holds.last {program code : Array Instr} {a : Nat} {t : Instr}
    (h : Holds program (code.push t) a) (ha : a ≤ code.size) : program[code.size]? = some t := by
  rw [h code.size ha (by rw [Array.size_push]; exact Nat.lt_succ_self _), Array.getElem?_push,
    if_pos (Eq.refl _)]

/-- Whether a layout lays down instructions for what `M` matches: it leaves the instructions before
them alone, and in a program that holds them a run from the first of them matches a part of the
bytes and goes on at the next instruction. -/
structure Implements (hay : Array UInt8) (layout : Layout) (M : Nat → Nat → Prop) : Prop where
  extends_ : ∀ code next, Extends (layout code next).1 code
  sound : ∀ {code next program n i}, Holds program (layout code next).1 code.size →
    Accepts program hay n (layout code next).2 i → ∃ j, M i j ∧ Accepts program hay n next j
  complete : ∀ {code next program n i j}, Holds program (layout code next).1 code.size → M i j →
    Accepts program hay n next j → ∃ m, Accepts program hay m (layout code next).2 i

namespace Implements

variable {layout first second : Layout} {M A B : Nat → Nat → Prop}

theorem congr {M' : Nat → Nat → Prop} (h : Implements hay layout M) (hM : ∀ i j, M i j ↔ M' i j) :
    Implements hay layout M' :=
  (funext fun i => funext fun j => propext (hM i j) : M = M') ▸ h

/-- Nothing is laid down for the empty expression. -/
theorem nothing : Implements hay (fun code next => (code, next)) fun i j => j = i where
  extends_ _ _ := .rfl
  sound _ h := ⟨_, rfl, h⟩
  complete _ h haccepts := ⟨_, h ▸ haccepts⟩

/-- One instruction that has one place to go. -/
theorem one {t : Nat → Instr} (hgoes : ∀ next i pc j, (t next).Goes hay i pc j ↔ pc = next ∧ M i j)
    (hdone : ∀ next, t next ≠ .done) : Implements hay (fun code next => push code (t next)) M where
  extends_ code next := extends_push code (t next)
  sound := by
    intro code next program n i hholds h
    have ht : program[code.size]? = some (t next) := hholds.last (Nat.le_refl _)
    obtain ⟨m, rfl, pc, j, hto, haccepts⟩ := (accepts_iff_of_ne_done ht (hdone next)).mp h
    obtain ⟨rfl, hM⟩ := (hgoes next i pc j).mp hto
    exact ⟨j, hM, haccepts.mono (Nat.le_succ m)⟩
  complete := by
    intro code next program n i j hholds hM h
    have ht : program[code.size]? = some (t next) := hholds.last (Nat.le_refl _)
    exact ⟨n + 1, .step ht ((hgoes next i next j).mpr ⟨rfl, hM⟩) h⟩

/-- One layout in front of another. -/
theorem seq (ha : Implements hay first A) (hb : Implements hay second B) :
    Implements hay (fun code next => first (second code next).1 (second code next).2)
      fun i j => ∃ k, A i k ∧ B k j where
  extends_ code next := (ha.extends_ _ _).trans (hb.extends_ code next)
  sound := by
    intro code next program n i hholds h
    have hsecond := hholds.of_extends (ha.extends_ _ _)
    have hfirst := hholds.from (hb.extends_ code next).1
    obtain ⟨k, hA, h⟩ := ha.sound hfirst h
    obtain ⟨j, hB, h⟩ := hb.sound hsecond h
    exact ⟨j, ⟨k, hA, hB⟩, h⟩
  complete := by
    rintro code next program n i j hholds ⟨k, hA, hB⟩ h
    have hsecond := hholds.of_extends (ha.extends_ _ _)
    have hfirst := hholds.from (hb.extends_ code next).1
    obtain ⟨m, h⟩ := hb.complete hsecond hB h
    exact ha.complete hfirst hA h

/-- The choice between two layouts. -/
theorem choice (ha : Implements hay first A) (hb : Implements hay second B) :
    Implements hay
      (fun code next =>
        push (first (second code next).1 next).1
          (.choice (first (second code next).1 next).2 (second code next).2))
      fun i j => A i j ∨ B i j where
  extends_ code next :=
    (extends_push _ _).trans ((ha.extends_ _ _).trans (hb.extends_ code next))
  sound := by
    intro code next program n i hholds h
    have hcode := ((ha.extends_ (second code next).1 next).trans (hb.extends_ code next)).1
    have hfirst := hholds.of_extends (extends_push _ _)
    have ht := hholds.last hcode
    obtain ⟨m, rfl, pc, k, ⟨hpc, rfl⟩, h⟩ := (accepts_iff_of_ne_done ht Instr.noConfusion).mp h
    rcases hpc with rfl | rfl
    · obtain ⟨j, hA, h⟩ := ha.sound (hfirst.from (hb.extends_ code next).1) h
      exact ⟨j, .inl hA, h.mono (Nat.le_succ m)⟩
    · obtain ⟨j, hB, h⟩ := hb.sound (hfirst.of_extends (ha.extends_ _ _)) h
      exact ⟨j, .inr hB, h.mono (Nat.le_succ m)⟩
  complete := by
    intro code next program n i j hholds hM h
    have hcode := ((ha.extends_ (second code next).1 next).trans (hb.extends_ code next)).1
    have hfirst := hholds.of_extends (extends_push _ _)
    have ht := hholds.last hcode
    rcases hM with hA | hB
    · obtain ⟨m, h⟩ := ha.complete (hfirst.from (hb.extends_ code next).1) hA h
      exact ⟨m + 1, .step ht ⟨.inl rfl, rfl⟩ h⟩
    · obtain ⟨m, h⟩ := hb.complete (hfirst.of_extends (ha.extends_ _ _)) hB h
      exact ⟨m + 1, .step ht ⟨.inr rfl, rfl⟩ h⟩

/-- A layout with the choice to leave it out. -/
theorem orLeave (h : Implements hay layout M) (greedy : Bool) :
    Implements hay
      (fun code next => push (layout code next).1 (stayOrLeave greedy (layout code next).2 next))
      fun i j => M i j ∨ j = i where
  extends_ code next := (extends_push _ _).trans (h.extends_ code next)
  sound := by
    intro code next program n i hholds haccepts
    have ht := hholds.last (h.extends_ code next).1
    obtain ⟨m, rfl, hstay | hleave⟩ := (accepts_stayOrLeave ht).mp haccepts
    · obtain ⟨j, hM, hnext⟩ := h.sound (hholds.of_extends (extends_push _ _)) hstay
      exact ⟨j, .inl hM, hnext.mono (Nat.le_succ m)⟩
    · exact ⟨i, .inr rfl, hleave.mono (Nat.le_succ m)⟩
  complete := by
    intro code next program n i j hholds hM haccepts
    have ht := hholds.last (h.extends_ code next).1
    rcases hM with hM | rfl
    · obtain ⟨m, hstay⟩ := h.complete (hholds.of_extends (extends_push _ _)) hM haccepts
      exact ⟨m + 1, (accepts_stayOrLeave ht).mpr ⟨m, rfl, .inl hstay⟩⟩
    · exact ⟨n + 1, (accepts_stayOrLeave ht).mpr ⟨n, rfl, .inr haccepts⟩⟩

/-! ### Loops -/

/-- The instruction that a loop reserves and fills in later is its choice, and its body is in place.
-/
theorem loop_holds {body : Layout} (h : Implements hay body M) {code program : Array Instr}
    {t : Instr}
    (hholds : Holds program ((body (code.push .done) code.size).1.setIfInBounds code.size t)
      code.size) :
    program[code.size]? = some t ∧
      Holds program (body (code.push .done) code.size).1 (code.push .done).size := by
  have hsize := (h.extends_ (code.push .done) code.size).1
  rw [Array.size_push] at hsize
  constructor
  · rw [hholds code.size (Nat.le_refl _) (by rw [Array.size_setIfInBounds]; exact hsize),
      Array.getElem?_setIfInBounds_self_of_lt hsize]
  · intro k hk hlt
    rw [Array.size_push] at hk
    rw [hholds k (Nat.le_of_succ_le hk) (by rw [Array.size_setIfInBounds]; exact hlt),
      Array.getElem?_setIfInBounds_ne (Nat.ne_of_lt hk)]

/-- A loop leaves the instructions before it alone. -/
theorem loop_extends {body : Layout} (h : Implements hay body M) (code : Array Instr) (t : Instr) :
    Extends ((body (code.push .done) code.size).1.setIfInBounds code.size t) code := by
  have hbody := (h.extends_ (code.push .done) code.size).trans (extends_push code .done)
  refine ⟨by rw [Array.size_setIfInBounds]; exact hbody.1, fun k hk => ?_⟩
  rw [Array.getElem?_setIfInBounds_ne (Nat.ne_of_gt hk), hbody.2 k hk]

/-- A run from the choice of a loop takes some rounds and leaves. -/
theorem rounds_of_accepts {body : Layout} (h : Implements hay body M)
    {code program : Array Instr} {greedy : Bool} {next : Nat}
    (ht : program[code.size]? =
      some (stayOrLeave greedy (body (code.push .done) code.size).2 next))
    (hbody : Holds program (body (code.push .done) code.size).1 (code.push .done).size)
    (haccepts : Accepts program hay n code.size i) :
    ∃ j, (∃ r, Rounds M r i j) ∧ Accepts program hay n next j := by
  -- A round need not take a byte, so the induction is on the steps of the run.
  induction n using Nat.strongRecOn generalizing i with
  | _ n ih =>
      obtain ⟨m, rfl, hstay | hleave⟩ := (accepts_stayOrLeave ht).mp haccepts
      · obtain ⟨k, hM, hagain⟩ := h.sound hbody hstay
        obtain ⟨j, ⟨r, hrounds⟩, hnext⟩ := ih m (Nat.lt_succ_self m) hagain
        exact ⟨j, ⟨r + 1, .more hM hrounds⟩, hnext.mono (Nat.le_succ m)⟩
      · exact ⟨i, ⟨0, .none⟩, hleave.mono (Nat.le_succ m)⟩

/-- Rounds are a run from the choice of a loop. -/
theorem accepts_of_rounds {body : Layout} (h : Implements hay body M)
    {code program : Array Instr} {greedy : Bool} {next r : Nat}
    (ht : program[code.size]? =
      some (stayOrLeave greedy (body (code.push .done) code.size).2 next))
    (hbody : Holds program (body (code.push .done) code.size).1 (code.push .done).size)
    (hrounds : Rounds M r i j) (haccepts : Accepts program hay n next j) :
    ∃ m, Accepts program hay m code.size i := by
  induction hrounds with
  | none => exact ⟨n + 1, (accepts_stayOrLeave ht).mpr ⟨n, rfl, .inr haccepts⟩⟩
  | more hM _ ih =>
      obtain ⟨m, hagain⟩ := ih haccepts
      obtain ⟨m, hstay⟩ := h.complete hbody hM hagain
      exact ⟨m + 1, (accepts_stayOrLeave ht).mpr ⟨m, rfl, .inl hstay⟩⟩

/-- A loop that is entered takes a round and more. -/
theorem loop {body : Layout} (h : Implements hay body M) (greedy : Bool) :
    Implements hay (layLoop greedy body) fun i j => ∃ r, 0 < r ∧ Rounds M r i j where
  extends_ code next := loop_extends h code _
  sound := by
    intro code next program n i hholds haccepts
    obtain ⟨ht, hbody⟩ := loop_holds h hholds
    obtain ⟨k, hM, hagain⟩ := h.sound hbody haccepts
    obtain ⟨j, ⟨r, hrounds⟩, hnext⟩ := rounds_of_accepts h ht hbody hagain
    exact ⟨j, ⟨r + 1, Nat.succ_pos r, .more hM hrounds⟩, hnext⟩
  complete := by
    rintro code next program n i j hholds ⟨r, hr, hrounds⟩ haccepts
    obtain ⟨ht, hbody⟩ := loop_holds h hholds
    cases hrounds with
    | none => exact absurd hr (Nat.lt_irrefl 0)
    | more hM hrounds =>
        obtain ⟨m, hagain⟩ := accepts_of_rounds h ht hbody hrounds haccepts
        exact h.complete hbody hM hagain

theorem rounds_pos_or_iff :
    (∃ r, 0 < r ∧ Rounds M r i j) ∨ j = i ↔ ∃ r, Rounds M r i j := by
  constructor
  · rintro (⟨r, -, h⟩ | rfl)
    · exact ⟨r, h⟩
    · exact ⟨0, .none⟩
  · rintro ⟨r, h⟩
    cases h with
    | none => exact .inr rfl
    | more hM h => exact .inl ⟨_, Nat.succ_pos _, .more hM h⟩

/-- A loop that may be left out takes any number of rounds. -/
theorem star {body : Layout} (h : Implements hay body M) (greedy consumes : Bool) :
    Implements hay (layStar greedy consumes body) fun i j => ∃ r, Rounds M r i j := by
  cases consumes with
  | true =>
      refine ⟨fun code next => loop_extends h code _, ?_, ?_⟩
      · intro code next program n i hholds haccepts
        obtain ⟨ht, hbody⟩ := loop_holds h hholds
        exact rounds_of_accepts h ht hbody haccepts
      · rintro code next program n i j hholds ⟨r, hrounds⟩ haccepts
        obtain ⟨ht, hbody⟩ := loop_holds h hholds
        exact accepts_of_rounds h ht hbody hrounds haccepts
  -- The choice to skip the loop is an instruction of its own, in front of the loop.
  | false => exact ((h.loop greedy).orLeave greedy).congr fun _ _ => rounds_pos_or_iff

/-! ### Counted repetitions -/

/-- A body taken a number of times in sequence. -/
theorem times {body : Layout} (h : Implements hay body M) (n : Nat) :
    Implements hay (layTimes body n) (Rounds M n) := by
  induction n with
  | zero =>
      refine nothing.congr fun i j => ⟨fun hij => hij ▸ .none, fun h => ?_⟩
      cases h
      rfl
  | succ n ih =>
      refine (h.seq ih).congr fun i j => ⟨fun ⟨k, hM, hrounds⟩ => .more hM hrounds, fun h => ?_⟩
      cases h with
      | more hM hrounds => exact ⟨_, hM, hrounds⟩

/-- A body taken at most a number of times. -/
theorem optional {body : Layout} (h : Implements hay body M) (greedy : Bool) (n : Nat) :
    Implements hay (fun code next => layOptional greedy body next n code next)
      fun i j => ∃ r, r ≤ n ∧ Rounds M r i j := by
  induction n with
  | zero =>
      refine nothing.congr fun i j => ⟨fun hij => ⟨0, Nat.le_refl 0, hij ▸ .none⟩, ?_⟩
      rintro ⟨r, hr, h⟩
      cases Nat.le_zero.mp hr
      cases h
      rfl
  | succ n ih =>
      refine ((h.seq ih).orLeave greedy).congr fun i j => ⟨?_, ?_⟩
      · rintro (⟨k, hM, r, hr, hrounds⟩ | rfl)
        · exact ⟨r + 1, Nat.succ_le_succ hr, .more hM hrounds⟩
        · exact ⟨0, Nat.zero_le _, .none⟩
      · rintro ⟨r, hr, hrounds⟩
        cases hrounds with
        | none => exact .inr rfl
        | more hM hrounds => exact .inl ⟨_, hM, _, Nat.le_of_succ_le_succ hr, hrounds⟩

end Implements

/-! ## Rounds -/

theorem Rounds.append {M : Nat → Nat → Prop} {m k : Nat} (h : Rounds M m i k)
    (hnext : Rounds M n k j) : Rounds M (m + n) i j := by
  induction h with
  | none => rwa [Nat.zero_add]
  | more hM _ ih => exact Nat.succ_add .. ▸ .more hM (ih hnext)

theorem Rounds.split {M : Nat → Nat → Prop} {m : Nat} (h : Rounds M (m + n) i j) :
    ∃ k, Rounds M m i k ∧ Rounds M n k j := by
  induction m generalizing i with
  | zero => exact ⟨i, .none, Nat.zero_add n ▸ h⟩
  | succ m ih =>
      rw [Nat.succ_add] at h
      cases h with
      | more hM h =>
          obtain ⟨k, hm, hn⟩ := ih h
          exact ⟨k, .more hM hm, hn⟩

/-- Rounds with a number in some range are the least number of rounds and some more. -/
theorem exists_rounds_add_iff {M : Nat → Nat → Prop} {least : Nat} {p : Nat → Prop} :
    (∃ k, Rounds M least i k ∧ ∃ r, p r ∧ Rounds M r k j) ↔
      ∃ n, least ≤ n ∧ p (n - least) ∧ Rounds M n i j := by
  constructor
  · rintro ⟨k, hleast, r, hr, hmore⟩
    exact ⟨least + r, Nat.le_add_right _ _, by rwa [Nat.add_sub_cancel_left], hleast.append hmore⟩
  · rintro ⟨n, hle, hn, h⟩
    rw [← Nat.add_sub_of_le hle] at h
    obtain ⟨k, hleast, hmore⟩ := h.split
    exact ⟨k, hleast, n - least, hn, hmore⟩

/-! ## Programs -/

/-- The instructions laid down for an expression do what it matches. -/
theorem Expr.lay_implements (hay : Array UInt8) (e : Expr) :
    Implements hay e.lay (e.Matches hay) := by
  induction e with
  | empty => exact .nothing
  | char set => exact .one (fun _ _ _ _ => Iff.rfl) fun _ => Instr.noConfusion
  | byte set => exact .one (fun _ _ _ _ => Iff.rfl) fun _ => Instr.noConfusion
  | look l => exact .one (fun _ _ _ _ => Iff.rfl) fun _ => Instr.noConfusion
  | group index body ih =>
      have note (slot : Nat) : Implements hay (fun code next => push code (.note slot next))
          fun i j => j = i :=
        .one (fun _ _ _ _ => Iff.rfl) fun _ => Instr.noConfusion
      refine ((note (2 * index)).seq (ih.seq (note (2 * index + 1)))).congr fun i j => ?_
      simp only [exists_eq_left, exists_eq_right', Expr.Matches]
  | cat a b iha ihb => exact iha.seq ihb
  | alt a b iha ihb => exact iha.choice ihb
  | iterate least most greedy body ih =>
      cases most with
      | some most =>
          refine ((ih.times least).seq (ih.optional greedy (most - least))).congr fun i j => ?_
          rw [exists_rounds_add_iff]
          simp only [Expr.Matches, Option.some.injEq, forall_eq']
          refine exists_congr fun n => and_congr_right fun hle => and_congr_left' ?_
          omega
      | none =>
          cases least with
          | zero =>
              refine (ih.star greedy body.consumes).congr fun i j => ?_
              simp only [Expr.Matches, Nat.zero_le, true_and, reduceCtorEq, false_implies,
                implies_true]
          | succ least =>
              refine ((ih.times least).seq (ih.loop greedy)).congr fun i j => ?_
              rw [exists_rounds_add_iff]
              simp only [Expr.Matches, reduceCtorEq, false_implies, implies_true, true_and]
              refine exists_congr fun n => ?_
              rw [← and_assoc]
              exact and_congr_left' (by omega)

/-- A program has a run from its first instruction at a position exactly if its expression matches
a part of the bytes that begins there. -/
theorem Program.accepts_ofExpr_iff (e : Expr) (hay : Array UInt8) (i : Nat) :
    (∃ n, Accepts (Program.ofExpr e).code hay n (Program.ofExpr e).start i) ↔
      ∃ j, e.Matches hay i j := by
  have hlay := (Expr.group 0 e).lay_implements hay
  have hholds : Holds (Program.ofExpr e).code ((Expr.group 0 e).lay #[.done] 0).1
      (#[Instr.done] : Array Instr).size := fun _ _ _ => rfl
  constructor
  · rintro ⟨n, h⟩
    obtain ⟨j, hmatches, -⟩ := hlay.sound hholds h
    exact ⟨j, hmatches⟩
  · rintro ⟨j, hmatches⟩
    have hend : (Program.ofExpr e).code[0]? = some .done :=
      (hlay.extends_ #[.done] 0).2 0 Nat.one_pos
    exact hlay.complete hholds hmatches (.done (n := 0) hend)

end Fingerprinting.Regex
