/-
# The text of a pattern's expression

What becomes of the characters of a pattern when it is made into a regular expression.  NUL is
spelled in hexadecimal: every backslash before a zero gets `x0` after it, also one that is itself
escaped.  Flags put a group around what stands between the anchors.  All other characters stay as
they are.

* `spellNul_eq` says where NUL is spelled;
* `spellEscapes_eq_iff` says when that is where an escape asks for it;
* `wrapped_eq` and `wrapped_injective` say what flags add.
-/
import Fingerprinting.Nmap.MatchRule
import Fingerprinting.Proofs.Text.Marks

namespace Fingerprinting.Nmap

open Text (IsFree)

/-! ## NUL -/

/-- A pattern in which NUL is spelled in hexadecimal where `touched` holds of what stands before: a
backslash before a zero gets `x0` after it there, and every other character stays. -/
def spellWhere (touched : List Char → Bool) (before : List Char) : List Char → List Char
  | [] => []
  | c :: rest =>
      (if c = '\\' ∧ rest.head? = some '0' ∧ touched before then ['\\', 'x', '0'] else [c]) ++
        spellWhere touched (before ++ [c]) rest

/-- A pattern in which NUL is spelled in hexadecimal where an escape asks for it. -/
def spellEscapes (cs : List Char) : List Char := spellWhere (fun before => IsFree '\\' before) [] cs

/-- NUL is spelled wherever a backslash stands before a zero. -/
theorem spellNul_eq (before cs : List Char) :
    spellNul cs = spellWhere (fun _ => true) before cs := by
  induction cs using spellNul.induct generalizing before with
  | case1 rest ih =>
      rw [spellNul, spellWhere, spellWhere, if_pos ⟨rfl, rfl, rfl⟩,
        if_neg (fun h => absurd h.1 (by decide)), ih]
      rfl
  | case2 c rest hplain ih =>
      have hhere : ¬ (c = '\\' ∧ rest.head? = some '0' ∧ true = true) := by
        rintro ⟨hc, hzero, -⟩
        obtain ⟨rest, rfl⟩ := List.head?_eq_some_iff.mp hzero
        exact hplain rest hc rfl
      rw [spellNul, spellWhere, if_neg hhere, ih]
      · rfl
      · exact hplain
  | case3 => rfl

/-- A zero stays as it is. -/
theorem spellWhere_zero (touched : List Char → Bool) (before cs : List Char) :
    spellWhere touched before ('0' :: cs) = '0' :: spellWhere touched (before ++ ['0']) cs := by
  rw [spellWhere, if_neg fun h => absurd h.1 (by decide)]
  rfl

/-- A backslash before a zero is the first character or comes later. -/
theorem forall_zeros_cons_iff (holds : List Char → Prop) (c : Char) (cs : List Char) :
    (∀ first rest, c :: cs = first ++ '\\' :: '0' :: rest → holds first) ↔
      (c = '\\' ∧ cs.head? = some '0' → holds []) ∧
        ∀ first rest, cs = first ++ '\\' :: '0' :: rest → holds (c :: first) := by
  constructor
  · intro h
    constructor
    · rintro ⟨rfl, hzero⟩
      obtain ⟨rest, rfl⟩ := List.head?_eq_some_iff.mp hzero
      exact h [] rest rfl
    · rintro first rest rfl
      exact h (c :: first) rest rfl
  · rintro ⟨hfirst, hlater⟩ first rest heq
    cases first with
    | nil =>
        cases heq
        exact hfirst ⟨rfl, rfl⟩
    | cons d first =>
        cases heq
        exact hlater first rest rfl

/-- NUL is spelled where `touched` allows it exactly when that allows it wherever a backslash stands
before a zero. -/
theorem spellWhere_eq_iff (touched : List Char → Bool) (before cs : List Char) :
    spellWhere (fun _ => true) before cs = spellWhere touched before cs ↔
      ∀ first rest, cs = first ++ '\\' :: '0' :: rest → touched (before ++ first) = true := by
  induction cs generalizing before with
  | nil => simp [spellWhere]
  | cons c cs ih =>
      rw [forall_zeros_cons_iff fun first => touched (before ++ first) = true, List.append_nil,
        spellWhere, spellWhere]
      have hlater := ih (before ++ [c])
      simp only [List.append_assoc, List.singleton_append] at hlater
      by_cases hhere : c = '\\' ∧ cs.head? = some '0'
      · rw [if_pos ⟨hhere.1, hhere.2, rfl⟩]
        by_cases htouched : touched before = true
        · rw [if_pos ⟨hhere.1, hhere.2, htouched⟩, List.append_cancel_left_eq, hlater]
          exact ⟨fun h => ⟨fun _ => htouched, h⟩, fun h => h.2⟩
        · -- One text goes on with `x` after the backslash, the other with zero.
          obtain ⟨rest, hrest⟩ := List.head?_eq_some_iff.mp hhere.2
          rw [if_neg fun h => htouched h.2.2, hhere.1, hrest, spellWhere_zero touched]
          refine iff_of_false (fun h => ?_) fun h => htouched (h.1 ⟨rfl, rfl⟩)
          exact absurd (List.cons.inj (List.cons.inj h).2).1 (by decide)
      · rw [if_neg fun h => hhere ⟨h.1, h.2.1⟩, if_neg fun h => hhere ⟨h.1, h.2.1⟩,
          List.append_cancel_left_eq, hlater]
        exact ⟨fun h => ⟨fun hc => absurd hc hhere, h⟩, fun h => h.2⟩

/-- NUL is spelled just where an escape asks for it exactly when no backslash before a zero is
itself escaped. -/
theorem spellNul_eq_spellEscapes_iff (cs : List Char) :
    spellNul cs = spellEscapes cs ↔
      ∀ before after, cs = before ++ '\\' :: '0' :: after → IsFree '\\' before := by
  rw [spellNul_eq [], spellEscapes, spellWhere_eq_iff]
  simp only [List.nil_append, decide_eq_true_eq]

/-! ## Flags -/

theorem splitStart_append (cs : List Char) : (splitStart cs).1 ++ (splitStart cs).2 = cs := by
  unfold splitStart
  split <;> rfl

theorem splitStart_fst (cs : List Char) : (splitStart cs).1 = [] ∨ (splitStart cs).1 = ['^'] := by
  unfold splitStart
  split
  · exact .inr rfl
  · exact .inl rfl

theorem splitEnd_append (cs : List Char) : (splitEnd cs).1 ++ (splitEnd cs).2 = cs := by
  unfold splitEnd
  split
  · rename_i inner hinner
    split
    · exact List.append_nil cs
    · have hcs := congrArg List.reverse hinner
      rw [List.reverse_reverse, List.reverse_cons] at hcs
      exact hcs.symm
  · exact List.append_nil cs

theorem splitEnd_snd (cs : List Char) : (splitEnd cs).2 = [] ∨ (splitEnd cs).2 = ['$'] := by
  unfold splitEnd
  split
  · split
    · exact .inl rfl
    · exact .inr rfl
  · exact .inl rfl

/-- What flags add: a group between the anchors, which stay where they are. -/
theorem wrapped_eq (flags : String) (cs : List Char) :
    ∃ start body finish, cs = start ++ body ++ finish ∧
      (start = [] ∨ start = ['^']) ∧ (finish = [] ∨ finish = ['$']) ∧
      wrapped flags cs =
        if flags = "" then cs
        else start ++ ['(', '?'] ++ groupFlags flags.toList ++ [':'] ++ body ++ [')'] ++ finish := by
  refine ⟨(splitStart cs).1, (splitEnd (splitStart cs).2).1, (splitEnd (splitStart cs).2).2, ?_,
    splitStart_fst cs, splitEnd_snd _, rfl⟩
  rw [List.append_assoc, splitEnd_append, splitStart_append]

/-- Patterns that differ still differ with flags. -/
theorem wrapped_injective (flags : String) : Function.Injective (wrapped flags) := by
  intro cs ds h
  obtain ⟨start, body, finish, rfl, hstart, hfinish, hcs⟩ := wrapped_eq flags cs
  obtain ⟨start', body', finish', rfl, hstart', hfinish', hds⟩ := wrapped_eq flags ds
  rw [hcs, hds] at h
  split at h
  · exact h
  -- The first and the last character say which anchors there are.
  · have hfirst := congrArg List.head? h
    have hlast := congrArg List.getLast? h
    have hstarts : start = start' := by
      rcases hstart with rfl | rfl <;> rcases hstart' with rfl | rfl <;> simp at hfirst ⊢
    have hfinishes : finish = finish' := by
      rcases hfinish with rfl | rfl <;> rcases hfinish' with rfl | rfl <;>
        simp only [List.append_nil, List.getLast?_concat, Option.some.injEq] at hlast ⊢
      · exact absurd hlast (by decide)
      · exact absurd hlast (by decide)
    subst hstarts hfinishes
    simpa using h

/-! ## Expressions -/

/-- The expression of a pattern has a group for its flags and `x0` after every backslash before a
zero, and its other characters are those of the pattern.  So NUL is spelled just where an escape
asks for it exactly when no backslash before a zero is itself escaped. -/
theorem nul_spelling (pattern flags : String) :
    regexSource pattern flags =
      "(?-u)" ++ String.ofList (wrapped flags (spellWhere (fun _ => true) [] pattern.toList)) ∧
    (∀ cs, ∃ start body finish, cs = start ++ body ++ finish ∧
      wrapped flags cs =
        if flags = "" then cs
        else start ++ ['(', '?'] ++ groupFlags flags.toList ++ [':'] ++ body ++ [')'] ++ finish) ∧
    (regexSource pattern flags =
        "(?-u)" ++ String.ofList (wrapped flags (spellEscapes pattern.toList)) ↔
      ∀ before after, pattern.toList = before ++ '\\' :: '0' :: after → IsFree '\\' before) := by
  refine ⟨?_, ?_, ?_⟩
  · rw [regexSource, spellNul_eq []]
  · intro cs
    obtain ⟨start, body, finish, hcs, -, -, hwrapped⟩ := wrapped_eq flags cs
    exact ⟨start, body, finish, hcs, hwrapped⟩
  · rw [← spellNul_eq_spellEscapes_iff, regexSource]
    constructor
    · intro h
      have hchars := congrArg String.toList h
      rw [String.toList_append, String.toList_append, List.append_cancel_left_eq,
        String.toList_ofList, String.toList_ofList] at hchars
      exact wrapped_injective flags hchars
    · intro h
      rw [h]

/-- An escaped backslash before a zero is taken for an escape. -/
theorem nul_spelling_of_escaped_backslash :
    regexSource "\\\\0" "" ≠ "(?-u)" ++ String.ofList (wrapped "" (spellEscapes "\\\\0".toList)) :=
  fun h => absurd ((nul_spelling "\\\\0" "").2.2.mp h ['\\'] [] rfl) (by decide)

end Fingerprinting.Nmap
