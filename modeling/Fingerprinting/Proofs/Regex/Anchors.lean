/-
# Anchors inside and around a group

A pattern may have its anchors at its own start and end, or around a group that holds the rest of
it.  Around a group they bind the group as a whole; at the ends of the pattern each of them belongs
to the branch it is written in, and has the flags in force there.

* `expr_around` says what a group between anchors matches;
* `matches_iff_of_reaches` says that with the anchors inside a pattern matches the same from end to
  end;
* `reaches_of_matches` says when it matches nothing else.
-/
import Fingerprinting.Proofs.Regex.Matching
import Fingerprinting.Proofs.Regex.Wrapping

namespace Fingerprinting.Regex

variable {f g g' : Flags} {e e' : Expr} {hay : Array UInt8} {i j : Nat}

/-! ## Sequences and branches -/

theorem expr_cat_ok {a b : Pattern} (h : f.expr (.cat a b) = .ok (e, g)) :
    ∃ x m y, f.expr a = .ok (x, m) ∧ m.expr b = .ok (y, g) ∧ e = .cat x y := by
  obtain ⟨⟨x, m⟩, hx, h⟩ := (Results.bind_eq_ok_iff _ _ _).mp h
  obtain ⟨⟨y, g₁⟩, hy, h⟩ := (Results.bind_eq_ok_iff _ _ _).mp h
  cases h
  exact ⟨x, m, y, hx, hy, rfl⟩

theorem expr_alt_ok {a b : Pattern} (h : f.expr (.alt a b) = .ok (e, g)) :
    ∃ x m y, f.expr a = .ok (x, m) ∧ m.expr b = .ok (y, g) ∧ e = .alt x y := by
  obtain ⟨⟨x, m⟩, hx, h⟩ := (Results.bind_eq_ok_iff _ _ _).mp h
  obtain ⟨⟨y, g₁⟩, hy, h⟩ := (Results.bind_eq_ok_iff _ _ _).mp h
  cases h
  exact ⟨x, m, y, hx, hy, rfl⟩

/-- A sequence matches what its first item and the rest match one after the other. -/
theorem expr_ofSequence_cons {p : Pattern} {ps : List Pattern}
    (h : f.expr (.ofSequence (p :: ps)) = .ok (e, g)) :
    ∃ x m y, f.expr p = .ok (x, m) ∧ m.expr (.ofSequence ps) = .ok (y, g) ∧
      ∀ hay i j, e.Matches hay i j ↔ ∃ k, x.Matches hay i k ∧ y.Matches hay k j := by
  cases ps with
  | nil =>
      refine ⟨e, g, .empty, h, rfl, fun hay i j => ⟨fun he => ⟨j, he, rfl⟩, ?_⟩⟩
      rintro ⟨k, he, rfl⟩
      exact he
  | cons q ps =>
      obtain ⟨x, m, y, hx, hy, rfl⟩ := expr_cat_ok h
      exact ⟨x, m, y, hx, hy, fun hay i j => Iff.rfl⟩

/-- A first item and the rest of a sequence are a sequence. -/
theorem expr_ofSequence_of_cons {p : Pattern} {ps : List Pattern} {m : Flags} {x y : Expr}
    (hp : f.expr p = .ok (x, m)) (hps : m.expr (.ofSequence ps) = .ok (y, g)) :
    ∃ e, f.expr (.ofSequence (p :: ps)) = .ok (e, g) ∧
      ∀ hay i j, e.Matches hay i j ↔ ∃ k, x.Matches hay i k ∧ y.Matches hay k j := by
  cases ps with
  | nil =>
      cases hps
      refine ⟨x, hp, fun hay i j => ⟨fun hx => ⟨j, hx, rfl⟩, ?_⟩⟩
      rintro ⟨k, hx, rfl⟩
      exact hx
  | cons q ps =>
      refine ⟨.cat x y, ?_, fun hay i j => Iff.rfl⟩
      change (f.expr p >>= fun r => r.2.expr (.ofSequence (q :: ps)) >>= fun r' => _) = _
      rw [hp]
      change (m.expr (.ofSequence (q :: ps)) >>= fun r' => _) = _
      rw [hps]
      rfl

/-- A sequence matches what its two parts match one after the other. -/
theorem expr_ofSequence_append {ps qs : List Pattern}
    (h : f.expr (.ofSequence (ps ++ qs)) = .ok (e, g)) :
    ∃ x m y, f.expr (.ofSequence ps) = .ok (x, m) ∧ m.expr (.ofSequence qs) = .ok (y, g) ∧
      ∀ hay i j, e.Matches hay i j ↔ ∃ k, x.Matches hay i k ∧ y.Matches hay k j := by
  induction ps generalizing f e with
  | nil =>
      refine ⟨.empty, f, e, rfl, h, fun hay i j => ⟨fun he => ⟨i, rfl, he⟩, ?_⟩⟩
      rintro ⟨k, rfl, he⟩
      exact he
  | cons p ps ih =>
      obtain ⟨x, m, y, hx, hy, he⟩ := expr_ofSequence_cons h
      obtain ⟨x', m', z, hx', hz, hy'⟩ := ih hy
      obtain ⟨x'', hx'', hmatches⟩ := expr_ofSequence_of_cons hx hx'
      refine ⟨x'', m', z, hx'', hz, fun hay i j => (he hay i j).trans ?_⟩
      simp only [hy', hmatches]
      constructor
      · rintro ⟨k, hi, l, hk, hj⟩
        exact ⟨l, ⟨k, hi, hk⟩, hj⟩
      · rintro ⟨l, ⟨k, hi, hk⟩, hj⟩
        exact ⟨k, hi, l, hk, hj⟩

theorem ofBranches_cons {p : Pattern} {ps : List Pattern} (hps : ps ≠ []) :
    Pattern.ofBranches (p :: ps) = .alt p (.ofBranches ps) := by
  cases ps with
  | nil => exact absurd rfl hps
  | cons q ps => rfl

/-- Branches match the same when the last of them does. -/
theorem branches_congr {ps : List Pattern} {p p' : Pattern}
    (hlast : ∀ {m : Flags} {x n x' n'}, m.expr p = .ok (x, n) → m.expr p' = .ok (x', n') →
      (x'.Matches hay i j ↔ x.Matches hay i j))
    (h : f.expr (.ofBranches (ps ++ [p])) = .ok (e, g))
    (h' : f.expr (.ofBranches (ps ++ [p'])) = .ok (e', g')) :
    e'.Matches hay i j ↔ e.Matches hay i j := by
  induction ps generalizing f e e' with
  | nil => exact hlast h h'
  | cons q ps ih =>
      rw [List.cons_append, ofBranches_cons (by simp)] at h h'
      obtain ⟨x, m, y, hx, hy, rfl⟩ := expr_alt_ok h
      obtain ⟨x', m', y', hx', hy', rfl⟩ := expr_alt_ok h'
      cases hx.symm.trans hx'
      exact or_congr_right (ih hy hy')

/-! ## Anchors -/

/-- The end of the bytes is an end of a line in every mode. -/
theorem holds_lineEnd (f : Flags) (hay : Array UInt8) :
    (f.look .lineEnd).holds hay hay.size = true := by
  unfold Flags.look
  dsimp only
  split
  · exact beq_self_eq_true _
  · split
    · simp [Look.holds]
    · simp [Look.holds]

/-- Anchors of one kind match the empty text where they hold. -/
theorem expr_anchors {a : Anchor} {cs : List Char} (hcs : cs.length ≤ 1)
    (h : f.expr (.ofSequence (anchors a cs)) = .ok (e, g)) :
    g = f ∧ ∀ hay i j, e.Matches hay i j ↔
      j = i ∧ (cs ≠ [] → (f.look a).holds hay i = true) := by
  rcases cs with _ | ⟨c, _ | ⟨d, cs⟩⟩
  · cases h
    exact ⟨rfl, fun hay i j => ⟨fun he => ⟨he, fun hne => absurd rfl hne⟩, fun he => he.1⟩⟩
  · cases h
    exact ⟨rfl, fun hay i j => ⟨fun he => ⟨he.2, fun _ => he.1⟩,
      fun he => ⟨he.2 (List.cons_ne_nil _ _), he.1⟩⟩⟩
  · exact absurd hcs (by simp)

/-- Anchors for the start match there, unless multi-line mode is on. -/
theorem expr_lineStart (hf : f.multiLine = false) {cs : List Char} (hcs : cs.length ≤ 1)
    (h : f.expr (.ofSequence (anchors .lineStart cs)) = .ok (e, g)) :
    g = f ∧ ∀ hay i j, e.Matches hay i j ↔ j = i ∧ (cs ≠ [] → i = 0) := by
  obtain ⟨hg, he⟩ := expr_anchors hcs h
  have hlook : f.look .lineStart = .start := by simp only [Flags.look, hf, Bool.not_false, if_true]
  simpa only [hlook, Look.holds, beq_iff_eq] using And.intro hg he

/-- The condition of an anchor for the end. -/
theorem holds_lineEnd_iff (hf : f.multiLine = false) :
    (f.look .lineEnd).holds hay i = true ↔ i = hay.size := by
  have hlook : f.look .lineEnd = .finish := by simp only [Flags.look, hf, Bool.not_false, if_true]
  rw [hlook]
  exact beq_iff_eq

/-! ## Anchors around a group -/

/-- Whether a part of the bytes begins at their start and ends at their end, so far as there are
anchors for it. -/
def Reaches (start finish : List Char) (hay : Array UInt8) (i j : Nat) : Prop :=
  (start ≠ [] → i = 0) ∧ (finish ≠ [] → j = hay.size)

/-- A group between anchors matches what its contents match from end to end. -/
theorem expr_around (hf : f.multiLine = false) {start finish : List Char}
    (hstart : start.length ≤ 1) (hfinish : finish.length ≤ 1) {change : FlagChange} {body : Pattern}
    (h : f.expr (.ofSequence (anchors .lineStart start ++
      .group (.scope change) body :: anchors .lineEnd finish)) = .ok (e, g)) :
    ∃ a m, (f.apply change).expr body = .ok (a, m) ∧
      ∀ hay i j, e.Matches hay i j ↔ a.Matches hay i j ∧ Reaches start finish hay i j := by
  obtain ⟨x, f₁, y, hstarts, hrest, he⟩ := expr_ofSequence_append h
  obtain ⟨rfl, hx⟩ := expr_lineStart hf hstart hstarts
  obtain ⟨_, f₂, z, hgroup, hfinishes, hy⟩ := expr_ofSequence_cons hrest
  obtain ⟨⟨a, m⟩, hbody, hok⟩ := (Results.bind_eq_ok_iff _ _ _).mp hgroup
  cases hok
  obtain ⟨-, hz⟩ := expr_anchors hfinish hfinishes
  refine ⟨_, m, hbody, fun hay i j => (he hay i j).trans ?_⟩
  simp only [hx, hy, hz, holds_lineEnd_iff hf, Reaches]
  constructor
  · rintro ⟨_, ⟨rfl, hi⟩, _, ha, rfl, hj⟩
    exact ⟨ha, hi, hj⟩
  · rintro ⟨ha, hi, hj⟩
    exact ⟨i, ⟨rfl, hi⟩, j, ha, rfl, hj⟩

/-! ## Anchors inside -/

section

variable {start finish : List Char} {branches items branches' items' : List Pattern} {a : Expr}

theorem reverse_anchors (b : Anchor) (cs : List Char) : (anchors b cs).reverse = anchors b cs := by
  rw [anchors, List.map_const', List.reverse_replicate]

/-- A sequence with anchors for the start in front. -/
theorem expr_led (hf : f.multiLine = false) (hstart : start.length ≤ 1) {ps : List Pattern}
    (h : f.expr (.ofSequence (anchors .lineStart start ++ ps)) = .ok (e, g)) :
    ∃ a, f.expr (.ofSequence ps) = .ok (a, g) ∧
      ∀ hay i j, e.Matches hay i j ↔ (start ≠ [] → i = 0) ∧ a.Matches hay i j := by
  obtain ⟨x, m, a, hstarts, ha, he⟩ := expr_ofSequence_append h
  obtain ⟨rfl, hx⟩ := expr_lineStart hf hstart hstarts
  refine ⟨a, ha, fun hay i j => (he hay i j).trans ?_⟩
  simp only [hx]
  constructor
  · rintro ⟨_, ⟨rfl, hi⟩, hmatches⟩
    exact ⟨hi, hmatches⟩
  · rintro ⟨hi, hmatches⟩
    exact ⟨i, ⟨rfl, hi⟩, hmatches⟩

/-- A sequence with anchors for the end behind, in whatever mode is on there. -/
theorem expr_ended (hfinish : finish.length ≤ 1) {ps : List Pattern}
    (h : f.expr (.ofSequence (ps ++ anchors .lineEnd finish)) = .ok (e, g)) :
    ∃ a, f.expr (.ofSequence ps) = .ok (a, g) ∧
      ∀ hay i j, e.Matches hay i j ↔
        a.Matches hay i j ∧ (finish ≠ [] → (g.look .lineEnd).holds hay j = true) := by
  obtain ⟨a, m, z, ha, hfinishes, he⟩ := expr_ofSequence_append h
  obtain ⟨rfl, hz⟩ := expr_anchors hfinish hfinishes
  refine ⟨a, ha, fun hay i j => (he hay i j).trans ?_⟩
  simp only [hz]
  constructor
  · rintro ⟨_, hmatches, rfl, hj⟩
    exact ⟨hmatches, hj⟩
  · rintro ⟨hmatches, hj⟩
    exact ⟨j, hmatches, rfl, hj⟩

/-- A single branch between anchors. -/
theorem expr_single (hf : f.multiLine = false) (hstart : start.length ≤ 1)
    (hfinish : finish.length ≤ 1)
    (h : f.expr (contentsOf []
      (anchors .lineEnd finish ++ (items ++ anchors .lineStart start))) = .ok (e, g)) :
    ∃ a, f.expr (contentsOf [] items) = .ok (a, g) ∧
      ∀ hay i j, e.Matches hay i j ↔ (start ≠ [] → i = 0) ∧ a.Matches hay i j ∧
        (finish ≠ [] → (g.look .lineEnd).holds hay j = true) := by
  have hitems : contentsOf [] (anchors .lineEnd finish ++ (items ++ anchors .lineStart start)) =
      .ofSequence (anchors .lineStart start ++ (items.reverse ++ anchors .lineEnd finish)) := by
    rw [contentsOf, List.reverse_append, List.reverse_append, reverse_anchors, reverse_anchors,
      List.append_assoc]
    rfl
  rw [hitems] at h
  obtain ⟨b, hb, he⟩ := expr_led hf hstart h
  obtain ⟨a, ha, hb⟩ := expr_ended hfinish hb
  exact ⟨a, ha, fun hay i j => (he hay i j).trans (and_congr_right' (hb hay i j))⟩

/-- Several branches are an alternation, with the first branch on its left. -/
theorem contentsOf_concat (later : List Pattern) (p : Pattern) (items : List Pattern) :
    contentsOf (later ++ [p]) items =
      .alt p (.ofBranches (later.reverse ++ [.ofSequence items.reverse])) := by
  rw [contentsOf, List.reverse_cons, List.reverse_append, List.reverse_singleton,
    List.singleton_append, List.cons_append, ofBranches_cons (by simp)]

/-- From end to end, a pattern with anchors at its ends matches what the rest of it matches. -/
theorem matches_iff_of_reaches (hf : f.multiLine = false) (hstart : start.length ≤ 1)
    (hfinish : finish.length ≤ 1)
    (hleads : Leads (anchors .lineStart start) branches items branches' items')
    (ha : f.expr (contentsOf branches items) = .ok (a, g))
    (he : f.expr (contentsOf branches' (anchors .lineEnd finish ++ items')) = .ok (e, g'))
    (hends : Reaches start finish hay i j) : e.Matches hay i j ↔ a.Matches hay i j := by
  obtain ⟨hi, hj⟩ := hends
  have hfinal (m : Flags) (hne : finish ≠ []) : (m.look .lineEnd).holds hay j = true := by
    rw [hj hne]
    exact holds_lineEnd m hay
  rcases hleads with ⟨rfl, rfl, rfl⟩ | ⟨later, first, rfl, rfl, rfl⟩
  · obtain ⟨b, hb, he⟩ := expr_single hf hstart hfinish he
    cases ha.symm.trans hb
    exact (he hay i j).trans ((and_iff_right hi).trans (and_iff_left (hfinal _)))
  · -- The first branch has the anchors for the start and the last one those for the end.
    rw [contentsOf_concat, reverse_anchors] at he
    rw [contentsOf_concat] at ha
    obtain ⟨x, m, y, hx, hy, rfl⟩ := expr_alt_ok ha
    obtain ⟨x', m', y', hx', hy', rfl⟩ := expr_alt_ok he
    obtain ⟨b, hb, hled⟩ := expr_led hf hstart hx'
    cases hx.symm.trans hb
    rw [List.reverse_append, reverse_anchors] at hy'
    refine or_congr ((hled hay i j).trans (and_iff_right hi))
      (branches_congr (fun hlast hlast' => ?_) hy hy')
    obtain ⟨c, hc, hended⟩ := expr_ended hfinish hlast'
    cases hlast.symm.trans hc
    exact (hended hay i j).trans (and_iff_left (hfinal _))

/-- A pattern of one branch with anchors at its ends matches from end to end only, unless multi-line
mode is on at its end. -/
theorem reaches_of_matches (hf : f.multiLine = false) (hstart : start.length ≤ 1)
    (hfinish : finish.length ≤ 1)
    (hleads : Leads (anchors .lineStart start) branches items [] items')
    (he : f.expr (contentsOf [] (anchors .lineEnd finish ++ items')) = .ok (e, g))
    (hmode : finish ≠ [] → g.multiLine = false) (hmatches : e.Matches hay i j) :
    Reaches start finish hay i j := by
  rcases hleads with ⟨-, -, rfl⟩ | ⟨later, first, -, hempty, -⟩
  · obtain ⟨b, -, he⟩ := expr_single hf hstart hfinish he
    obtain ⟨hi, -, hj⟩ := (he hay i j).mp hmatches
    exact ⟨hi, fun hne => (holds_lineEnd_iff (hmode hne)).mp (hj hne)⟩
  · simp at hempty

/-- A pattern that is no alternation has one branch. -/
theorem eq_nil_of_ne_alt (h : ∀ p q, contentsOf branches items ≠ .alt p q) : branches = [] := by
  rcases List.eq_nil_or_concat branches with hnil | ⟨later, p, rfl⟩
  · exact hnil
  · rw [List.concat_eq_append] at h
    exact absurd (contentsOf_concat later p items) (h _ _)

end

end Fingerprinting.Regex
