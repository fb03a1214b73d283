/-
# Readers and what they leave

Every reader takes a part from the front of a text and leaves the rest.  What it takes does not
depend on a closing parenthesis further on: it takes the same part where the parenthesis is missing,
or nothing.  So a pattern reads the same inside a group and on its own.

* `Reads` is this property of a reader, and `ReadsAt` says so of one text;
* `skip_reads` shows it of filler;
* `ReadsAt.head`, `ReadsAt.bind`, `ReadsAt.skip` and others put readers together.
-/
import Fingerprinting.Proofs.Results
import Fingerprinting.Regex.Parser

namespace Fingerprinting.Regex

/-- What may follow the group that a pattern is put into: nothing, or a dollar sign. -/
def IsTail (tail : List Char) : Prop := tail = [] ∨ tail = ['$']

variable {α β : Type} {tail : List Char}

theorem IsTail.head?_ne (htail : IsTail tail) {d : Char} (hd : d ≠ '$') : tail.head? ≠ some d := by
  rcases htail with rfl | rfl
  · exact nofun
  · exact fun h => hd (Option.some.inj h).symm

theorem head?_ne_of_forall {c : Char} {cs : List Char} (h : ∀ rest, cs = c :: rest → False) :
    cs.head? ≠ some c := by
  intro hc
  obtain ⟨rest, hrest⟩ := List.head?_eq_some_iff.mp hc
  exact h rest hrest

/-! ## Filler -/

/-- What is left when filler is dropped does not begin with filler. -/
theorem dropFiller_eq_cons {inComment : Bool} {c : Char} {cs rest : List Char}
    (h : dropFiller inComment cs = c :: rest) : Text.isBlank c = false ∧ c ≠ '#' := by
  induction cs generalizing inComment with
  | nil => cases h
  | cons d cs ih =>
      unfold dropFiller at h
      split at h
      · exact ih h
      · split at h
        · exact ih h
        · rename_i hblank
          split at h
          · exact ih h
          · rename_i hhash
            cases h
            exact ⟨Bool.eq_false_iff.mpr hblank, hhash⟩

/-- A character that is no filler. -/
def IsSolid (extended : Bool) (c : Char) : Prop :=
  extended = true → Text.isBlank c = false ∧ c ≠ '#'

theorem IsSolid.skip_cons {extended : Bool} {c : Char} (h : IsSolid extended c) (cs : List Char) :
    skip extended (c :: cs) = c :: cs := by
  cases extended with
  | false => rfl
  | true =>
      obtain ⟨hblank, hhash⟩ := h rfl
      rw [skip, if_pos rfl, dropFiller, if_neg Bool.false_ne_true, hblank,
        if_neg Bool.false_ne_true, if_neg hhash]

theorem isSolid_of_skip {extended : Bool} {c : Char} {cs rest : List Char}
    (h : skip extended cs = c :: rest) : IsSolid extended c := by
  rintro rfl
  exact dropFiller_eq_cons h

theorem skip_skip (extended : Bool) (cs : List Char) :
    skip extended (skip extended cs) = skip extended cs := by
  cases h : skip extended cs with
  | nil => cases extended <;> rfl
  | cons c rest => exact (isSolid_of_skip h).skip_cons rest

/-- Filler that ends before the end of a text ends there whatever comes next. -/
theorem dropFiller_append (inComment : Bool) (cs : List Char) :
    ∃ w, cs = w ++ dropFiller inComment cs ∧
      (dropFiller inComment cs ≠ [] → ∀ u, dropFiller false u = u →
        dropFiller inComment (w ++ u) = u) := by
  induction cs generalizing inComment with
  | nil => exact ⟨[], rfl, fun h => absurd rfl h⟩
  | cons c cs ih =>
      have hmore (next : Bool)
          (hnext : ∀ u, dropFiller inComment (c :: u) = dropFiller next u) :
          ∃ w, c :: cs = w ++ dropFiller inComment (c :: cs) ∧
            (dropFiller inComment (c :: cs) ≠ [] → ∀ u, dropFiller false u = u →
              dropFiller inComment (w ++ u) = u) := by
        obtain ⟨w, hcs, hw⟩ := ih next
        rw [hnext]
        refine ⟨c :: w, congrArg (c :: ·) hcs, fun hne u hu => ?_⟩
        rw [List.cons_append, hnext]
        exact hw hne u hu
      by_cases hcomment : inComment = true
      · exact hmore (c != '\n') fun u => by rw [dropFiller, if_pos hcomment]
      by_cases hblank : Text.isBlank c = true
      · exact hmore false fun u => by rw [dropFiller, if_neg hcomment, if_pos hblank]
      by_cases hhash : c = '#'
      · exact hmore true fun u => by
          rw [dropFiller, if_neg hcomment, if_neg hblank, if_pos hhash]
      · rw [dropFiller, if_neg hcomment, if_neg hblank, if_neg hhash]
        exact ⟨[], rfl, fun _ u hu => Bool.eq_false_iff.mpr hcomment ▸ hu⟩

/-- Filler before a closing parenthesis ends where it does without the parenthesis, or takes all of
the text either way. -/
theorem dropFiller_beside (htail : IsTail tail) (inComment : Bool) (v : List Char) :
    (dropFiller inComment (v ++ ')' :: tail) = [] ∧ dropFiller inComment (v ++ tail) = []) ∨
      ∃ v', dropFiller inComment (v ++ ')' :: tail) = v' ++ ')' :: tail ∧
        dropFiller inComment (v ++ tail) = v' ++ tail := by
  induction v generalizing inComment with
  | nil =>
      cases inComment with
      | false => exact .inr ⟨[], rfl, by rcases htail with rfl | rfl <;> rfl⟩
      | true => exact .inl (by rcases htail with rfl | rfl <;> exact ⟨rfl, rfl⟩)
  | cons c v ih =>
      simp only [List.cons_append, dropFiller]
      split
      · exact ih _
      · split
        · exact ih _
        · split
          · exact ih _
          · exact .inr ⟨c :: v, rfl, rfl⟩

theorem skip_beside (htail : IsTail tail) (extended : Bool) (v : List Char) :
    (skip extended (v ++ ')' :: tail) = [] ∧ skip extended (v ++ tail) = []) ∨
      ∃ v', skip extended (v ++ ')' :: tail) = v' ++ ')' :: tail ∧
        skip extended (v ++ tail) = v' ++ tail := by
  cases extended with
  | true => exact dropFiller_beside htail false v
  | false => exact .inr ⟨v, rfl, rfl⟩

/-! ## Readers -/

/-- Whether what a reader takes at a text depends on the part that it takes only: another reader
takes the same part, or nothing, where the closing parenthesis before the tail is missing. -/
def ReadsAt (tail : List Char) (read other : List Char → Except PatternError (α × List Char))
    (cs : List Char) : Prop :=
  ∀ a rest, read cs = .ok (a, rest) → ∃ w, cs = w ++ rest ∧
    ∀ v r, rest = v ++ ')' :: tail → other (w ++ (v ++ tail)) = .ok r → r = (a, v ++ tail)

/-- Whether what a reader takes depends on the part that it takes only. -/
def Reads (tail : List Char) (read : List Char → Except PatternError (α × List Char)) : Prop :=
  ∀ cs, ReadsAt tail read read cs

section

variable {read other : List Char → Except PatternError (α × List Char)} {cs : List Char}

theorem ReadsAt.fail {e : PatternError} (h : read cs = .error e) : ReadsAt tail read other cs :=
  fun _ _ hok => nomatch h.symm.trans hok

theorem Reads.done (a : α) : Reads tail fun cs => .ok (a, cs) := by
  intro cs b rest h
  cases h
  refine ⟨[], rfl, fun v r hv hr => ?_⟩
  cases hr
  rfl

/-- A reader that refuses every text. -/
theorem Reads.refuse (e : PatternError) :
    Reads tail fun _ => (.error e : Except PatternError (α × List Char)) :=
  fun _ => .fail rfl

/-- A reader is looked at one character further on. -/
theorem ReadsAt.head {c : Char}
    (h : ReadsAt tail (fun u => read (c :: u)) (fun u => other (c :: u)) cs) :
    ReadsAt tail read other (c :: cs) := by
  intro a rest hok
  obtain ⟨w, rfl, hw⟩ := h a rest hok
  exact ⟨c :: w, rfl, hw⟩

/-- One reader after another. -/
theorem ReadsAt.bind {next next' : α × List Char → Except PatternError (β × List Char)}
    (h : ReadsAt tail read other cs)
    (hnext : ∀ a rest, read cs = .ok (a, rest) →
      ReadsAt tail (fun rest => next (a, rest)) (fun rest => next' (a, rest)) rest) :
    ReadsAt tail (fun cs => read cs >>= next) (fun cs => other cs >>= next') cs := by
  intro b rest hok
  obtain ⟨⟨a, mid⟩, hfirst, hsecond⟩ := (Results.bind_eq_ok_iff _ _ _).mp hok
  obtain ⟨w, hcs, hw⟩ := h a mid hfirst
  obtain ⟨w', hmid, hw'⟩ := hnext a mid hfirst b rest hsecond
  subst hmid hcs
  refine ⟨w ++ w', (List.append_assoc ..).symm, fun v r hv hr => ?_⟩
  obtain ⟨r', hother, hr⟩ := (Results.bind_eq_ok_iff _ _ _).mp hr
  have hsame := hw (w' ++ v) r' (by rw [hv, List.append_assoc])
    (by rw [← hother, List.append_assoc, List.append_assoc])
  rw [hsame, List.append_assoc] at hr
  exact hw' v r hv hr

/-- Something is made of what a reader took. -/
theorem ReadsAt.map (h : ReadsAt tail read other cs) (f : α → β) :
    ReadsAt tail (fun cs => read cs >>= fun r => .ok (f r.1, r.2))
      (fun cs => other cs >>= fun r => .ok (f r.1, r.2)) cs :=
  h.bind fun _ rest _ => Reads.done _ rest

theorem ReadsAt.of_fail {other' : List Char → Except PatternError (α × List Char)}
    (h : ReadsAt tail read other cs) (hfail : ∀ u, ∃ e, other' u = .error e) :
    ReadsAt tail read other' cs := by
  intro a rest hok
  obtain ⟨w, hcs, -⟩ := h a rest hok
  refine ⟨w, hcs, fun v r _ hr => ?_⟩
  obtain ⟨e, he⟩ := hfail (w ++ (v ++ tail))
  cases he.symm.trans hr

theorem skip_reads (htail : IsTail tail) (extended : Bool) :
    Reads tail fun cs => .ok ((), skip extended cs) := by
  rintro cs ⟨⟩ rest h
  cases h
  have hsuffix : ∃ w, cs = w ++ skip extended cs := by
    cases extended with
    | false => exact ⟨[], rfl⟩
    | true =>
        obtain ⟨w, hcs, -⟩ := dropFiller_append false cs
        exact ⟨w, hcs⟩
  obtain ⟨w, hcs⟩ := hsuffix
  refine ⟨w, hcs, fun v r hv hr => ?_⟩
  rw [hv, ← List.append_assoc] at hcs
  rw [hcs] at hv
  cases hr
  rcases skip_beside htail extended (w ++ v) with ⟨hnil, -⟩ | ⟨v', hv', hother⟩
  · exact absurd (hnil.symm.trans hv) (by simp)
  · cases List.append_cancel_right (hv.symm.trans hv')
    exact congrArg (Prod.mk ()) ((List.append_assoc w v tail) ▸ hother)

theorem length_skip_le (extended : Bool) (cs : List Char) :
    (skip extended cs).length ≤ cs.length := by
  obtain ⟨w, hcs, -⟩ := skip_reads (.inl rfl : IsTail []) extended cs () _ rfl
  exact List.IsSuffix.length_le ⟨w, hcs.symm⟩

/-- A reader that drops something first. -/
theorem ReadsAt.after {drop : List Char → List Char}
    (hdrop : Reads tail fun cs => .ok ((), drop cs)) (h : ReadsAt tail read other (drop cs)) :
    ReadsAt tail (fun cs => read (drop cs)) (fun cs => other (drop cs)) cs := by
  intro a rest hok
  obtain ⟨w, hcs, hw⟩ := hdrop cs () (drop cs) rfl
  obtain ⟨w', hdropped, hw'⟩ := h a rest hok
  refine ⟨w ++ w', by rw [List.append_assoc, ← hdropped, ← hcs], fun v r hv hr => hw' v r hv ?_⟩
  have hsame := hw (w' ++ v) _ (by rw [hdropped, hv, List.append_assoc]) rfl
  rw [List.append_assoc] at hsame hr
  rw [← (Prod.mk.inj hsame).2]
  exact hr

/-- Filler before a reader. -/
theorem ReadsAt.skip (htail : IsTail tail) {extended : Bool}
    (h : ReadsAt tail read other (Regex.skip extended cs)) :
    ReadsAt tail (fun cs => read (Regex.skip extended cs))
      (fun cs => other (Regex.skip extended cs)) cs :=
  .after (skip_reads htail extended) h

/-- A reader that takes nothing. -/
theorem ReadsAt.stay {a : α} (hread : read cs = .ok (a, cs))
    (hother : ∀ u r, u = tail ∨ u.head? = cs.head? → other u = .ok r → r = (a, u)) :
    ReadsAt tail read other cs := by
  intro b rest hok
  cases hread.symm.trans hok
  refine ⟨[], rfl, fun v r hv hr => hother _ r ?_ hr⟩
  cases v with
  | nil => exact .inl rfl
  | cons c v => exact .inr (hv ▸ rfl)

/-- At the end of a text there is no closing parenthesis that could be missing. -/
theorem ReadsAt.of_nil {read' other' : List Char → Except PatternError (α × List Char)}
    (h : ReadsAt tail read other []) (hread : read' [] = read []) :
    ReadsAt tail read' other' [] := by
  intro a rest hok
  obtain ⟨w, hcs, -⟩ := h a rest (hread.symm.trans hok)
  refine ⟨w, hcs, fun v r hv _ => ?_⟩
  rw [hv] at hcs
  simp at hcs

/-- Other readers need only be compared at texts without the parenthesis. -/
theorem ReadsAt.of_other {other' : List Char → Except PatternError (α × List Char)}
    (h : ReadsAt tail read other' cs)
    (hother : ∀ p r, cs = p ++ ')' :: tail → other (p ++ tail) = .ok r →
      other' (p ++ tail) = .ok r) : ReadsAt tail read other cs := by
  intro a rest hok
  obtain ⟨w, hcs, hw⟩ := h a rest hok
  refine ⟨w, hcs, fun v r hv hr => hw v r hv ?_⟩
  rw [← List.append_assoc] at hr ⊢
  exact hother (w ++ v) r (by rw [hcs, hv, List.append_assoc]) hr

/-- Behind a character that is no parenthesis. -/
theorem ReadsAt.of_cons {c : Char} (hc : c ≠ ')')
    {read' other' : List Char → Except PatternError (α × List Char)}
    (h : ReadsAt tail read' other' (c :: cs)) (hread : read (c :: cs) = read' (c :: cs))
    (hother : ∀ p, cs = p ++ ')' :: tail → other (c :: (p ++ tail)) = other' (c :: (p ++ tail))) :
    ReadsAt tail read other (c :: cs) := by
  have hsame : ReadsAt tail read' other (c :: cs) := by
    refine h.of_other fun p r hp hr => ?_
    cases p with
    | nil => exact absurd (List.cons.inj hp).1 hc
    | cons d p =>
        obtain ⟨rfl, hcs⟩ := List.cons.inj hp
        exact (hother p hcs).symm.trans hr
  exact fun a rest hok => hsame a rest (hread.symm.trans hok)

/-- A reader does what another does at texts that begin alike: where the parenthesis is missing, a
text begins with the same character or is at its end. -/
theorem ReadsAt.alike {elsewhere : List Char → Except PatternError (α × List Char)}
    {p : Option Char → Prop} (hread : ∀ u : List Char, p u.head? → read u = elsewhere u)
    (hcs : p cs.head?) (hend : p tail.head?) (h : ReadsAt tail elsewhere elsewhere cs) :
    ReadsAt tail read read cs := by
  have hother : ReadsAt tail elsewhere read cs := by
    refine h.of_other fun v r hv hr => ?_
    rw [← hread _ ?_]
    · exact hr
    · cases v with
      | nil => exact hend
      | cons c v =>
          rw [hv] at hcs
          exact hcs
  exact fun a rest hok => hother a rest ((hread cs hcs).symm.trans hok)

/-- A reader that drops filler and then takes one character. -/
theorem ReadsAt.skip_cons (htail : IsTail tail) {extended : Bool} {c : Char} {rest : List Char}
    {more more' : List Char → Except PatternError (α × List Char)}
    (hskip : Regex.skip extended cs = c :: rest) (hread : read cs = more rest)
    (hother : ∀ u u', Regex.skip extended u = c :: u' → other u = more' u')
    (h : ReadsAt tail more more' rest) : ReadsAt tail read other cs := by
  intro a rest' hok
  obtain ⟨w, rfl, hw⟩ := h a rest' (hread ▸ hok)
  obtain ⟨w₀, hcs, hw₀⟩ := skip_reads htail extended cs () (c :: (w ++ rest')) (by
    simp only [hskip])
  refine ⟨w₀ ++ c :: w, by rw [hcs]; simp, fun v r hv hr => hw v r hv ?_⟩
  have hsame := hw₀ (c :: (w ++ v)) _ (by rw [hv]; simp) rfl
  rw [← hother _ (w ++ (v ++ tail)) (by simpa using congrArg Prod.snd hsame), ← hr]
  simp

/-- A reader that does one thing at a certain character and another elsewhere. -/
theorem Reads.orElse (htail : IsTail tail) {d : Char} (hd : d ≠ '$')
    {there elsewhere : List Char → Except PatternError (α × List Char)}
    (hthere : ∀ u, read (d :: u) = there u)
    (helsewhere : ∀ u, u.head? ≠ some d → read u = elsewhere u)
    (h : Reads tail there) (h' : Reads tail elsewhere) : Reads tail read := by
  intro cs
  by_cases hc : cs.head? = some d
  · obtain ⟨cs, rfl⟩ := List.head?_eq_some_iff.mp hc
    refine .head ?_
    rw [funext hthere]
    exact h cs
  · exact .alike (p := (· ≠ some d)) helsewhere hc (htail.head?_ne hd) (h' cs)

/-- A reader with a bound on its steps agrees with itself under other bounds. -/
theorem ReadsAt.bounded (others : Nat → List Char → Except PatternError (α × List Char))
    (h : ∀ bound, ReadsAt tail read (others bound) cs) (bound : List Char → Nat) :
    ReadsAt tail read (fun u => others (bound u) u) cs := by
  intro a rest hok
  obtain ⟨w, hcs, -⟩ := h 0 a rest hok
  refine ⟨w, hcs, fun v r hv hr => ?_⟩
  obtain ⟨w', hcs', hw'⟩ := h (bound (w ++ (v ++ tail))) a rest hok
  cases List.append_cancel_right (hcs.symm.trans hcs')
  exact hw' v r hv hr

/-- A reader that drops filler first need only be looked at where there is none. -/
theorem Reads.of_solid (htail : IsTail tail) (extended : Bool)
    (hskip : ∀ cs, read (Regex.skip extended cs) = read cs) (hnil : ∃ e, read [] = .error e)
    (hcons : ∀ c cs, IsSolid extended c → ReadsAt tail read read (c :: cs)) : Reads tail read := by
  have hsolid : ∀ cs, ReadsAt tail read read (Regex.skip extended cs) := by
    intro cs
    cases hcs : Regex.skip extended cs with
    | nil => exact .fail hnil.choose_spec
    | cons c rest => exact hcons c rest (isSolid_of_skip hcs)
  have hread : (fun cs => read (Regex.skip extended cs)) = read := funext hskip
  exact fun cs => hread ▸ (hsolid cs).skip htail

end

end Fingerprinting.Regex
