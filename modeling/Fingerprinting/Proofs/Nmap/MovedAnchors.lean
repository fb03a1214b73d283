/-
# Anchors moved out of the group for flags

Flags put a group around what stands between the anchors of a pattern: a circumflex at its start
stays in front of the group and a dollar sign at its end behind it.  In front of the group and
behind it they bind the whole of it.  In the pattern itself each belongs to its branch, and has the
flags in force there; so the expression may match less than the pattern, and never more.

* `parse_wrapped` says what is read of the expression and of the pattern;
* `matches_wrapped` and `moved_anchors` compare what they match;
* `moved_anchors_of_branches` is a pattern that loses a match.
-/
import Fingerprinting.Proofs.Nmap.PatternText
import Fingerprinting.Proofs.Regex.Anchors
import Fingerprinting.Proofs.Regex.Exploration
import Mathlib.Data.List.Permutation

namespace Fingerprinting.Nmap

open Regex
open Text (IsFree)

variable {s : Place} {bound : Nat} {rest : List Char} {p : Pattern}

/-- The flags that a rule asks for, in force for the whole of its pattern: Unicode mode is off and
case never counts. -/
def wholeFlags (flags : String) : Flags :=
  { Flags.initial with
    unicode := false
    caseInsensitive := true
    dotMatchesNewline := flags.toList.contains 's' }

/-- The change that turns on the flags with some letters. -/
def switched (letters : List Char) : FlagChange :=
  letters.filterMap fun c => (flag? c).map fun f => (f, true)

theorem isFlag_iff {c : Char} : MatchRule.isFlag c = true ↔ c = 'i' ∨ c = 's' := by
  simp [MatchRule.isFlag]

/-- A letter for a flag is read as that flag. -/
theorem readFlags_cons {c : Char} (hc : MatchRule.isFlag c = true) (change : FlagChange)
    (cs : List Char) :
    ∃ f, flag? c = some f ∧ readFlags change false false (c :: cs) =
      if change.any fun item => item.1 == f then .error .repeatedFlag
      else readFlags (change ++ [(f, true)]) false false cs := by
  rcases isFlag_iff.mp hc with rfl | rfl
  · exact ⟨.caseInsensitive, rfl, rfl⟩
  · exact ⟨.dotMatchesNewline, rfl, rfl⟩

theorem readFlags_letters {letters after : List Char} {change change₀ : FlagChange}
    (hletters : ∀ c ∈ letters, MatchRule.isFlag c = true)
    (h : readFlags change₀ false false (letters ++ ':' :: rest) = .ok (change, after)) :
    change = change₀ ++ switched letters ∧ after = ':' :: rest := by
  induction letters generalizing change₀ with
  | nil =>
      cases h
      exact ⟨(List.append_nil _).symm, rfl⟩
  | cons c letters ih =>
      obtain ⟨hc, hmore⟩ := List.forall_mem_cons.mp hletters
      obtain ⟨f, hf, hread⟩ := readFlags_cons hc change₀ (letters ++ ':' :: rest)
      rw [List.cons_append, hread] at h
      split at h
      · cases h
      · obtain ⟨hchange, hafter⟩ := ih hmore h
        refine ⟨?_, hafter⟩
        rw [hchange, switched, switched, List.filterMap_cons, hf, List.append_assoc]
        rfl

/-- The flags with those of some letters turned on. -/
theorem apply_switched (f : Flags) {letters : List Char}
    (hletters : ∀ c ∈ letters, MatchRule.isFlag c = true) :
    f.apply (switched letters) =
      { f with
        caseInsensitive := f.caseInsensitive || letters.contains 'i'
        dotMatchesNewline := f.dotMatchesNewline || letters.contains 's' } := by
  induction letters generalizing f with
  | nil => simp [switched, Flags.apply]
  | cons c letters ih =>
      obtain ⟨hc, hmore⟩ := List.forall_mem_cons.mp hletters
      rcases isFlag_iff.mp hc with rfl | rfl
      · refine (ih (f.put (.caseInsensitive, true)) hmore).trans ?_
        simp [Flags.put]
      · refine (ih (f.put (.dotMatchesNewline, true)) hmore).trans ?_
        simp [Flags.put]

theorem state?_switched {letters : List Char}
    (hletters : ∀ c ∈ letters, MatchRule.isFlag c = true) :
    FlagChange.state? (switched letters) .extended = none := by
  induction letters with
  | nil => rfl
  | cons c letters ih =>
      obtain ⟨hc, hmore⟩ := List.forall_mem_cons.mp hletters
      rcases isFlag_iff.mp hc with rfl | rfl
      · exact ih hmore
      · exact ih hmore

/-- Letters for flags open a group with these flags. -/
theorem readOpening_letters {letters after : List Char} {names : List String} {opening : Opening}
    (hletters : ∀ c ∈ letters, MatchRule.isFlag c = true)
    (h : readOpening false names ('?' :: (letters ++ ':' :: rest)) = .ok (opening, after)) :
    opening = .scope (switched letters) ∧ after = rest := by
  have hquestion : readOpening false names ('?' :: (letters ++ ':' :: rest)) =
      flagOpening (letters ++ ':' :: rest) := by
    rw [readOpening_eq]
    cases letters with
    | nil => rfl
    | cons c letters =>
        rcases isFlag_iff.mp (hletters c List.mem_cons_self) with rfl | rfl <;> rfl
  rw [hquestion] at h
  obtain ⟨⟨change, colon⟩, hflags, hscope⟩ := (Results.bind_eq_ok_iff _ _ _).mp h
  obtain ⟨rfl, rfl⟩ := readFlags_letters hletters hflags
  cases hscope
  exact ⟨rfl, rfl⟩

theorem run_scope {letters : List Char} (hletters : ∀ c ∈ letters, MatchRule.isFlag c = true)
    (hs : s.extended = false)
    (h : s.run bound ('(' :: '?' :: (letters ++ ':' :: rest)) = .ok p) :
    ∃ bound', (s.enter (.scope (switched letters))).run bound' rest = .ok p := by
  obtain ⟨bound, s₁, rest₁, hstep, rfl, hrun⟩ := run_of_cons (by rw [hs]; rfl) h
  obtain ⟨⟨opening, after⟩, hopening, hok⟩ := (Results.bind_eq_ok_iff _ _ _).mp hstep
  rw [hs] at hopening
  obtain ⟨rfl, rfl⟩ := readOpening_letters hletters hopening
  cases hok
  exact ⟨bound, hrun⟩

/-- Unicode mode is turned off. -/
theorem run_unicode_off (hs : s.extended = false)
    (h : s.run bound (['(', '?', '-', 'u', ')'] ++ rest) = .ok p) :
    ∃ bound', (s.enter (.flags [(.unicode, false)])).run bound' rest = .ok p := by
  obtain ⟨bound, s₁, rest₁, hstep, rfl, hrun⟩ := run_of_cons (by rw [hs]; rfl) h
  obtain ⟨⟨opening, after⟩, hopening, hok⟩ := (Results.bind_eq_ok_iff _ _ _).mp hstep
  rw [hs] at hopening
  cases hopening
  cases hok
  exact ⟨bound, hrun⟩

/-- What is read of a pattern in its group and of the pattern on its own: the branches and items
between the anchors are the same, up to what leads them. -/
theorem parse_wrapped {letters start body finish : List Char}
    (hletters : ∀ c ∈ letters, MatchRule.isFlag c = true)
    (hstart : start = [] ∨ start = ['^']) (hfinish : IsTail finish) {text plain : String}
    (htext : text.toList = ['(', '?', '-', 'u', ')'] ++
      (start ++ '(' :: '?' :: (letters ++ ':' :: (body ++ ')' :: finish))))
    (hplain : plain.toList = start ++ (body ++ finish)) {p p' : Pattern}
    (hp : Pattern.parse text = .ok p) (hp' : Pattern.parse plain = .ok p') :
    ∃ branches items branches' items',
      Leads (anchors .lineStart start) branches items branches' items' ∧
      p = .ofSequence (.flags [(.unicode, false)] :: (anchors .lineStart start ++
        .group (.scope (switched letters)) (contentsOf branches items) ::
          anchors .lineEnd finish)) ∧
      p' = contentsOf branches' (anchors .lineEnd finish ++ items') := by
  have hrun := parse_ok hp
  rw [htext] at hrun
  obtain ⟨_, hrun⟩ := run_unicode_off rfl hrun
  obtain ⟨_, hrun⟩ := run_start hstart hrun
  obtain ⟨_, hrun⟩ := run_scope hletters rfl hrun
  have hrun' := parse_ok hp'
  rw [hplain] at hrun'
  obtain ⟨_, hrun'⟩ := run_start hstart hrun'
  have hbeside : Beside (anchors .lineStart start)
      ⟨.scope (switched letters), [], anchors .lineStart start ++ [.flags [(.unicode, false)]],
        false⟩
      (Place.enter ⟨false, [], anchors .lineStart start ++ [.flags [(.unicode, false)]], [], 0, []⟩
        (.scope (switched letters)))
      ⟨false, [], anchors .lineStart start ++ [], [], 0, []⟩ := by
    refine ⟨?_, rfl, rfl, .inl ⟨rfl, rfl, .inl ⟨rfl, rfl, List.append_nil _⟩⟩⟩
    simp only [Place.enter, state?_switched hletters, Option.getD_none]
  obtain ⟨branches, items, branches', items', hleads, rfl, rfl⟩ :=
    run_beside hfinish hbeside hrun hrun'
  refine ⟨branches, items, branches', items', hleads, ?_, rfl⟩
  simp [contentsOf, reverse_anchors, Pattern.ofBranches]

/-! ## Anchors -/

/-- The circumflex that is moved in front of the group. -/
def movedStart (cs : List Char) : List Char := (splitStart cs).1

/-- The dollar sign that is moved behind the group. -/
def movedEnd (cs : List Char) : List Char := (splitEnd (splitStart cs).2).2

/-- What stands between the anchors that are moved. -/
def between (cs : List Char) : List Char := (splitEnd (splitStart cs).2).1

theorem anchors_append (cs : List Char) : movedStart cs ++ (between cs ++ movedEnd cs) = cs := by
  rw [movedStart, between, movedEnd, splitEnd_append, splitStart_append]

theorem length_movedStart_le (cs : List Char) : (movedStart cs).length ≤ 1 := by
  rcases splitStart_fst cs with h | h <;> simp [movedStart, h]

theorem length_movedEnd_le (cs : List Char) : (movedEnd cs).length ≤ 1 := by
  rcases splitEnd_snd (splitStart cs).2 with h | h <;> simp [movedEnd, h]

/-- The expression of a pattern that has flags. -/
theorem toList_wrapped {flags : String} (hflags : flags ≠ "") (cs : List Char) :
    ("(?-u)" ++ String.ofList (wrapped flags cs)).toList = ['(', '?', '-', 'u', ')'] ++
      (movedStart cs ++ '(' :: '?' :: (groupFlags flags.toList ++
        ':' :: (between cs ++ ')' :: movedEnd cs))) := by
  simp [wrapped, hflags, movedStart, movedEnd, between]

/-- Whether the anchors that are moved bind the whole of a pattern where they are written: none is
moved, or the pattern has one branch and is not in multi-line mode at a dollar sign that is moved.
-/
def AnchorsBind (flags : String) (cs : List Char) : Prop :=
  (movedStart cs = [] ∧ movedEnd cs = []) ∨
    ∃ p e g, Pattern.parse (String.ofList cs) = .ok p ∧ (wholeFlags flags).expr p = .ok (e, g) ∧
      (∀ a b, p ≠ .alt a b) ∧ (movedEnd cs ≠ [] → g.multiLine = false)

example : AnchorsBind "i" "^a$".toList := .inr ⟨_, _, _, rfl, rfl, nofun, fun _ => rfl⟩

theorem isFlag_of_mem_groupFlags {flags : List Char}
    (hflags : ∀ c ∈ flags, MatchRule.isFlag c = true) :
    ∀ c ∈ groupFlags flags, MatchRule.isFlag c = true := by
  intro c hc
  unfold groupFlags at hc
  split at hc
  · exact hflags c hc
  · rcases List.mem_append.mp hc with hc | hc
    · exact hflags c hc
    · rw [List.mem_singleton.mp hc]
      rfl

theorem apply_groupFlags {flags : String}
    (hflags : ∀ c ∈ flags.toList, MatchRule.isFlag c = true) :
    (Flags.initial.apply [(.unicode, false)]).apply (switched (groupFlags flags.toList)) =
      wholeFlags flags := by
  rw [apply_switched _ (isFlag_of_mem_groupFlags hflags), groupFlags, wholeFlags]
  split
  · rename_i hi
    simp only [hi]
    rfl
  · simp [Flags.initial, Flags.apply, Flags.put]

/-- The expression of a pattern that has flags matches what the pattern on its own matches from end
to end, so far as there are anchors.  That is all the pattern matches when the anchors bind it. -/
theorem matches_wrapped {flags : String} {cs : List Char} {p p₀ : Pattern} {e e₀ : Expr}
    {g g₀ : Flags} (hflags : flags ≠ "") (hletters : flags.toList.all MatchRule.isFlag = true)
    (hp : Pattern.parse ("(?-u)" ++ String.ofList (wrapped flags cs)) = .ok p)
    (he : Flags.initial.expr p = .ok (e, g)) (hp₀ : Pattern.parse (String.ofList cs) = .ok p₀)
    (he₀ : (wholeFlags flags).expr p₀ = .ok (e₀, g₀)) (hay : Array UInt8) (i j : Nat) :
    (e.Matches hay i j ↔ e₀.Matches hay i j ∧ Reaches (movedStart cs) (movedEnd cs) hay i j) ∧
      (AnchorsBind flags cs → e₀.Matches hay i j →
        Reaches (movedStart cs) (movedEnd cs) hay i j) := by
  have hstart := length_movedStart_le cs
  have hfinish := length_movedEnd_le cs
  obtain ⟨branches, items, branches', items', hleads, rfl, rfl⟩ :=
    parse_wrapped (isFlag_of_mem_groupFlags (List.all_eq_true.mp hletters)) (splitStart_fst cs)
      (splitEnd_snd _) (toList_wrapped hflags cs)
      (String.toList_ofList.trans (anchors_append cs).symm) hp hp₀
  obtain ⟨_, _, inner, hunicode, hinner, hmatches⟩ := expr_ofSequence_cons he
  cases hunicode
  obtain ⟨a, n, ha, haround⟩ := expr_around rfl hstart hfinish hinner
  rw [apply_groupFlags (List.all_eq_true.mp hletters)] at ha
  constructor
  · have hflag : e.Matches hay i j ↔ inner.Matches hay i j := by
      rw [hmatches]
      constructor
      · rintro ⟨_, rfl, h⟩
        exact h
      · exact fun h => ⟨i, rfl, h⟩
    rw [hflag, haround]
    exact and_congr_left fun hends =>
      (matches_iff_of_reaches rfl hstart hfinish hleads ha he₀ hends).symm
  · rintro (⟨hnostart, hnoend⟩ | ⟨p, e', g', hp', he', hbranch, hmode⟩) h
    · exact ⟨fun hne => absurd hnostart hne, fun hne => absurd hnoend hne⟩
    · cases hp₀.symm.trans hp'
      cases he₀.symm.trans he'
      cases eq_nil_of_ne_alt hbranch
      exact reaches_of_matches rfl hstart hfinish hleads he₀ hmode h

/-- The expression of a pattern that has flags matches a byte string exactly if the pattern on its
own, under the flags from its start, can match some part of it that begins at its start when a
circumflex is moved and ends at its end when a dollar sign is moved.  So it matches the same as the
pattern when the anchors bind it. -/
theorem moved_anchors {pattern flags : String} {r r₀ : Regex} (hflags : flags ≠ "")
    (hletters : flags.toList.all MatchRule.isFlag = true)
    (hnul : ∀ before after, pattern.toList = before ++ '\\' :: '0' :: after → IsFree '\\' before)
    (hr : Regex.compile (regexSource pattern flags) = .ok r)
    (hr₀ : Regex.compileUnder (wholeFlags flags)
      (String.ofList (spellEscapes pattern.toList)) = .ok r₀) :
    (∀ b, r.isMatch b = true ↔ ∃ i j, i ≤ b.length ∧
      Regex.MatchesUnder (wholeFlags flags) (String.ofList (spellEscapes pattern.toList)) b i j ∧
      Reaches (movedStart (spellEscapes pattern.toList)) (movedEnd (spellEscapes pattern.toList))
        b.toArray i j) ∧
    (∀ b, r₀.isMatch b = true ↔ ∃ i j, i ≤ b.length ∧
      Regex.MatchesUnder (wholeFlags flags) (String.ofList (spellEscapes pattern.toList)) b i j) ∧
    (AnchorsBind flags (spellEscapes pattern.toList) → ∀ b, r.isMatch b = r₀.isMatch b) := by
  rw [regexSource, (spellNul_eq_spellEscapes_iff _).mpr hnul, compile_eq_compileUnder] at hr
  generalize spellEscapes pattern.toList = cs at hr hr₀ ⊢
  obtain ⟨p, e, g, hp, he, hmatch⟩ := compileUnder_ok hr
  obtain ⟨p₀, e₀, g₀, hp₀, he₀, hmatch₀⟩ := compileUnder_ok hr₀
  have hboth (b : Bytes) := matches_wrapped hflags hletters hp he hp₀ he₀ b.toArray
  simp only [matchesUnder_iff hp₀ he₀]
  refine ⟨fun b => ?_, hmatch₀, fun hbind b => ?_⟩
  · simp only [hmatch, hboth]
  · rw [Bool.eq_iff_iff, hmatch, hmatch₀]
    simp only [hboth]
    exact exists_congr fun i => exists_congr fun j =>
      and_congr_right' (and_iff_left_of_imp ((hboth b i j).2 hbind))

/-- Each branch of a pattern has its own anchors, and the group for its flags gives it all of them.
-/
theorem moved_anchors_of_branches :
    ∃ r r₀, Regex.compile (regexSource "^a|b$" "i") = .ok r ∧
      Regex.compileUnder (wholeFlags "i") (String.ofList (spellEscapes "^a|b$".toList)) = .ok r₀ ∧
      r.isMatch [0x61, 0x78] = false ∧ r₀.isMatch [0x61, 0x78] = true := by
  have hparse : Pattern.parse (regexSource "^a|b$" "i") =
      .ok (.cat (.flags [(.unicode, false)]) (.cat (.anchor .lineStart) (.cat
        (.group (.scope [(.caseInsensitive, true)])
          (.alt (.literal (.plain 'a')) (.literal (.plain 'b'))))
        (.anchor .lineEnd)))) := rfl
  have hparse₀ : Pattern.parse (String.ofList (spellEscapes "^a|b$".toList)) =
      .ok (.alt (.cat (.anchor .lineStart) (.literal (.plain 'a')))
        (.cat (.literal (.plain 'b')) (.anchor .lineEnd))) := rfl
  have hr := (compile_eq_compileUnder _).trans (compileUnder_eq_ok hparse rfl (by cbv))
  have hr₀ := compileUnder_eq_ok (f := wholeFlags "i") hparse₀ rfl (by cbv)
  have hnul : ∀ before after, "^a|b$".toList = before ++ '\\' :: '0' :: after →
      IsFree '\\' before := by
    intro before after h
    have hmem : '\\' ∈ "^a|b$".toList := h ▸ by simp
    exact absurd hmem (by decide)
  obtain ⟨hmatch, hmatch₀, -⟩ := moved_anchors (by decide) (by decide) hnul hr hr₀
  simp only [matchesUnder_iff hparse₀ (f := wholeFlags "i") rfl] at hmatch hmatch₀
  refine ⟨_, _, hr, hr₀, Bool.eq_false_iff.mpr fun h => ?_, (hmatch₀ _).mpr ⟨0, 1, by decide, ?_⟩⟩
  · obtain ⟨i, j, -, hbranch, hi, hj⟩ := (hmatch _).mp h
    cases hi (by decide)
    cases hj (by decide)
    rcases hbranch with ⟨k, ⟨-, rfl⟩, -, -, -, hsize⟩ | ⟨k, ⟨-, -, -, rfl⟩, -, hsize⟩
    · cases hsize
    · cases hsize
  · exact .inl ⟨0, ⟨rfl, rfl⟩, 0x61, rfl, by cbv, rfl⟩

end Fingerprinting.Nmap
