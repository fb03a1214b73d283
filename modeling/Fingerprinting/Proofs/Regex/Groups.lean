/-
# What repetitions and groups take

* `readCounts_reads` is about the counts of a repetition;
* `readOpening_reads` is about what follows an opening parenthesis.
-/
import Fingerprinting.Proofs.Regex.Reading
import Mathlib.Data.List.TakeWhile

namespace Fingerprinting.Regex

variable {α : Type} {tail : List Char}

/-! ## Repetitions -/

theorem takeGreed_of_ne {cs : List Char} (h : cs.head? ≠ some '?') : takeGreed cs = (true, cs) := by
  unfold takeGreed
  split
  · exact absurd rfl h
  · rfl

theorem takeGreed_reads (htail : IsTail tail) : Reads tail fun cs => .ok (takeGreed cs) :=
  .orElse htail (d := '?') (by decide) (fun _ => rfl) (fun _ hu => congrArg _ (takeGreed_of_ne hu))
    (Reads.done false) (Reads.done true)

theorem dropBlanks_reads (htail : IsTail tail) :
    Reads tail fun cs => .ok ((), cs.dropWhile Text.isBlank) := by
  have hstay (u : List Char) (h : ∀ c, u.head? = some c → Text.isBlank c = false) :
      u.dropWhile Text.isBlank = u := by
    cases u with
    | nil => rfl
    | cons c u => exact List.dropWhile_cons_of_neg (by rw [h c rfl]; exact Bool.false_ne_true)
  intro cs
  induction cs with
  | nil => exact (Reads.done () []).of_nil rfl
  | cons c cs ih =>
      by_cases hblank : Text.isBlank c = true
      · refine .head ?_
        simp only [List.dropWhile_cons_of_pos hblank]
        exact ih
      · refine .stay (by rw [List.dropWhile_cons_of_neg hblank]) fun u r hu hr => ?_
        rw [hstay u fun d hd => ?_] at hr
        · exact (Except.ok.inj hr).symm
        · rcases hu with rfl | hu
          · rcases htail with rfl | rfl <;> cases hd
            decide
          · cases hu.symm.trans hd
            exact Bool.eq_false_iff.mpr hblank

/-- The bound on the digits of a number does not matter when it exceeds the length of the text. -/
theorem readCount_digits_eq {extended : Bool} {bound bound' : Nat} {acc : Option Nat}
    {cs : List Char} (h : cs.length < bound) (h' : cs.length < bound') :
    readCount.digits extended bound acc cs = readCount.digits extended bound' acc cs := by
  induction bound generalizing bound' acc cs with
  | zero => exact absurd h (Nat.not_lt_zero _)
  | succ bound ih =>
      cases bound' with
      | zero => exact absurd h' (Nat.not_lt_zero _)
      | succ bound' =>
          cases cs with
          | nil => rfl
          | cons c cs =>
              have hlen := length_skip_le extended cs
              rw [List.length_cons] at h h'
              rw [readCount.digits, readCount.digits]
              split
              · exact ih (by omega) (by omega)
              · rfl

/-- Digits, as many as there are. -/
def readDigits (extended : Bool) (acc : Option Nat) (cs : List Char) :
    Except PatternError (Nat × List Char) :=
  readCount.digits extended (cs.length + 1) acc cs

theorem readDigits_cons {c : Char} {d : Nat} (hc : Text.digitValue? c = some d) (extended : Bool)
    (acc : Option Nat) (cs : List Char) :
    readDigits extended acc (c :: cs) =
      readDigits extended (some (acc.getD 0 * 10 + d)) (skip extended cs) := by
  rw [readDigits, readCount.digits, hc]
  exact readCount_digits_eq (by rw [List.length_cons]; exact Nat.lt_succ_of_le (length_skip_le ..))
    (Nat.lt_succ_self _)

theorem readDigits_end (extended : Bool) (acc : Option Nat) {cs : List Char}
    (h : ∀ c, cs.head? = some c → Text.digitValue? c = none) :
    readDigits extended acc cs = readCount.finish extended acc cs := by
  cases cs with
  | nil => rfl
  | cons c cs => rw [readDigits, readCount.digits, h c rfl]

theorem finish_reads (htail : IsTail tail) (extended : Bool) (acc : Option Nat) :
    Reads tail (readCount.finish extended acc) := by
  intro cs
  unfold readCount.finish
  cases acc with
  | none => exact .fail rfl
  | some n =>
      by_cases hn : n ≤ Text.max32
      · simp only [if_pos hn]
        have hskip : Reads tail fun u => .ok (n, skip extended u) :=
          fun u => (Reads.done n _).skip htail
        exact (hskip _).after (dropBlanks_reads htail)
      · exact .fail (if_neg hn)

theorem readDigits_reads (htail : IsTail tail) (extended : Bool) (acc : Option Nat) :
    Reads tail (readDigits extended acc) := by
  have hend : ∀ c, tail.head? = some c → Text.digitValue? c = none := by
    intro c hc
    rcases htail with rfl | rfl <;> cases hc
    rfl
  intro cs
  induction hlen : cs.length using Nat.strongRecOn generalizing acc cs with
  | _ n ih =>
      by_cases hdigit : ∀ c, cs.head? = some c → Text.digitValue? c = none
      · exact .alike (p := fun head => ∀ c, head = some c → Text.digitValue? c = none)
          (fun u hu => readDigits_end extended acc hu) hdigit hend
          (finish_reads htail extended acc cs)
      · push Not at hdigit
        obtain ⟨c, hc, hd⟩ := hdigit
        obtain ⟨cs, rfl⟩ := List.head?_eq_some_iff.mp hc
        obtain ⟨d, hd⟩ := Option.ne_none_iff_exists'.mp hd
        have hlt : (skip extended cs).length < n := by
          rw [← hlen]
          exact Nat.lt_succ_of_le (length_skip_le ..)
        refine .head ?_
        simp only [readDigits_cons hd]
        exact (ih _ hlt _ _ rfl).skip htail

theorem readCount_eq (extended : Bool) (cs : List Char) :
    readCount extended cs = readDigits extended none (cs.dropWhile Text.isBlank) :=
  readCount_digits_eq (Nat.lt_succ_of_le (List.dropWhile_sublist _).length_le)
    (Nat.lt_succ_self _)

theorem readCount_reads (htail : IsTail tail) (extended : Bool) :
    Reads tail (readCount extended) := by
  intro cs
  have hdigits := readDigits_reads htail extended none (cs.dropWhile Text.isBlank)
  rw [funext (readCount_eq extended)]
  exact hdigits.after (dropBlanks_reads htail)

/-- What closes the counts of a repetition. -/
def closeCounts (counts : Nat × Option Nat) (allowed : Bool) :
    List Char → Except PatternError ((Nat × Option Nat) × List Char)
  | '\x7d' :: rest => if allowed then .ok (counts, rest) else .error .repetitionCount
  | _ => .error .repetitionCount

/-- The greater count of a repetition, and what closes it. -/
def readMost (extended : Bool) (least : Nat) (cs : List Char) :
    Except PatternError ((Nat × Option Nat) × List Char) :=
  readCount extended cs >>= fun r => closeCounts (least, some r.1) (least ≤ r.1) r.2

/-- What follows the comma of a repetition. -/
def afterComma (extended : Bool) (least : Nat) :
    List Char → Except PatternError ((Nat × Option Nat) × List Char)
  | '\x7d' :: rest => .ok ((least, none), rest)
  | cs => readMost extended least cs

/-- What follows the first count of a repetition. -/
def afterLeast (extended : Bool) (least : Nat) :
    List Char → Except PatternError ((Nat × Option Nat) × List Char)
  | ',' :: rest => afterComma extended least (skip extended rest)
  | cs => closeCounts (least, some least) true cs

theorem readMost_eq (extended : Bool) (least : Nat) (cs : List Char) :
    readMost extended least cs = readCount extended cs >>= fun r =>
      match r.2 with
      | '\x7d' :: rest =>
          if least ≤ r.1 then .ok ((least, some r.1), rest) else .error .repetitionCount
      | _ => .error .repetitionCount := by
  refine congrArg _ (funext fun r => ?_)
  unfold closeCounts
  split
  · simp only [decide_eq_true_eq]
  · rfl

theorem closeCounts_of_ne {counts : Nat × Option Nat} {allowed : Bool} {cs : List Char}
    (h : cs.head? ≠ some '\x7d') : closeCounts counts allowed cs = .error .repetitionCount := by
  unfold closeCounts
  split
  · exact absurd rfl h
  · rfl

theorem afterComma_of_ne {extended : Bool} {least : Nat} {cs : List Char}
    (h : cs.head? ≠ some '\x7d') : afterComma extended least cs = readMost extended least cs := by
  unfold afterComma
  split
  · exact absurd rfl h
  · rfl

theorem afterLeast_of_ne {extended : Bool} {least : Nat} {cs : List Char}
    (h : cs.head? ≠ some ',') :
    afterLeast extended least cs = closeCounts (least, some least) true cs := by
  unfold afterLeast
  split
  · exact absurd rfl h
  · rfl

theorem readCounts_eq (extended : Bool) (cs : List Char) :
    readCounts extended cs =
      readCount extended (skip extended cs) >>= fun r => afterLeast extended r.1 r.2 := by
  unfold readCounts
  refine congrArg _ (funext fun r => ?_)
  obtain ⟨least, rest⟩ := r
  dsimp only
  split
  · rfl
  · rename_i rest
    change _ = afterComma extended least (skip extended rest)
    generalize skip extended rest = cs
    split
    · rfl
    · rename_i hclose
      rw [afterComma_of_ne (head?_ne_of_forall hclose)]
      exact (readMost_eq ..).symm
  · rename_i hclose hcomma
    rw [afterLeast_of_ne (head?_ne_of_forall hcomma), closeCounts_of_ne (head?_ne_of_forall hclose)]

theorem closeCounts_reads (counts : Nat × Option Nat) (allowed : Bool) :
    Reads tail (closeCounts counts allowed) := by
  intro cs
  by_cases hclose : cs.head? = some '\x7d'
  · obtain ⟨rest, rfl⟩ := List.head?_eq_some_iff.mp hclose
    refine .head ?_
    cases allowed with
    | true => exact Reads.done counts rest
    | false => exact .fail rfl
  · exact .fail (closeCounts_of_ne hclose)

theorem readMost_reads (htail : IsTail tail) (extended : Bool) (least : Nat) :
    Reads tail (readMost extended least) :=
  fun cs => (readCount_reads htail extended cs).bind fun most rest _ =>
    closeCounts_reads (least, some most) _ rest

theorem afterComma_reads (htail : IsTail tail) (extended : Bool) (least : Nat) :
    Reads tail (afterComma extended least) :=
  .orElse htail (d := '\x7d') (by decide) (fun _ => rfl) (fun _ => afterComma_of_ne)
    (Reads.done (least, none)) (readMost_reads htail extended least)

theorem afterLeast_reads (htail : IsTail tail) (extended : Bool) (least : Nat) :
    Reads tail (afterLeast extended least) :=
  .orElse htail (d := ',') (by decide) (fun _ => rfl) (fun _ => afterLeast_of_ne)
    (fun _ => (afterComma_reads htail extended least _).skip htail)
    (closeCounts_reads (least, some least) true)

theorem readCounts_reads (htail : IsTail tail) (extended : Bool) :
    Reads tail (readCounts extended) := by
  intro cs
  rw [funext (readCounts_eq extended)]
  exact ((readCount_reads htail extended _).skip htail).bind
    fun least rest _ => afterLeast_reads htail extended least rest

/-! ## Groups -/

theorem readFlags_reads (htail : IsTail tail) (change : FlagChange) (negated dangling : Bool) :
    Reads tail (readFlags change negated dangling) := by
  intro cs
  induction cs generalizing change negated dangling with
  | nil => exact .fail rfl
  | cons c cs ih =>
      by_cases hend : (c = ':' || c = ')') = true
      · cases dangling with
        | true => exact .fail (by rw [readFlags, if_pos hend]; rfl)
        | false =>
            refine .stay (a := change) (by rw [readFlags, if_pos hend]; rfl) fun u r hu hr => ?_
            rcases hu with rfl | hu
            · rcases htail with rfl | rfl <;> cases hr
            · obtain ⟨u, rfl⟩ := List.head?_eq_some_iff.mp hu
              rw [readFlags, if_pos hend] at hr
              exact (Except.ok.inj hr).symm
      refine .head ?_
      simp only [readFlags, if_neg hend]
      by_cases hhyphen : c = '-'
      · simp only [if_pos hhyphen]
        cases negated with
        | true => exact .fail rfl
        | false => exact ih change true true
      · simp only [if_neg hhyphen]
        cases flag? c with
        | none => exact .fail rfl
        | some f =>
            dsimp only
            split
            · exact .fail rfl
            · exact ih _ _ _

/-- A name up to a closing angle bracket is taken or refused whatever comes next. -/
theorem readGroupName_append (used : List String) {name : List Char} (h : '>' ∉ name) :
    (∃ e, ∀ u, readGroupName used (name ++ '>' :: u) = .error e) ∨
      ∃ n, ∀ u, readGroupName used (name ++ '>' :: u) = .ok (n, u) := by
  have hname : ∀ c ∈ name, (c != '>') = true := by
    intro c hc
    exact bne_iff_ne.mpr fun heq => h (heq ▸ hc)
  have hsplit (u : List Char) :
      (name ++ '>' :: u).takeWhile (· != '>') = name ∧
        (name ++ '>' :: u).dropWhile (· != '>') = '>' :: u := by
    rw [List.takeWhile_append_of_pos hname, List.dropWhile_append_of_pos hname,
      List.takeWhile_cons_of_neg (by decide), List.dropWhile_cons_of_neg (by decide),
      List.append_nil]
    exact ⟨rfl, rfl⟩
  cases name with
  | nil => exact .inl ⟨.groupName, fun u => rfl⟩
  | cons c more =>
      by_cases hallowed : (isNameChar true c && more.all (isNameChar false) &&
          !used.contains (String.ofList (c :: more))) = true
      · refine .inr ⟨String.ofList (c :: more), fun u => ?_⟩
        rw [readGroupName, (hsplit u).1, (hsplit u).2]
        exact if_pos hallowed
      · refine .inl ⟨.groupName, fun u => ?_⟩
        rw [readGroupName, (hsplit u).1, (hsplit u).2]
        exact if_neg hallowed

theorem readGroupName_reads (used : List String) : Reads tail (readGroupName used) := by
  intro cs
  by_cases hclose : '>' ∈ cs
  · obtain ⟨name, rest, rfl, hname⟩ := List.eq_append_cons_of_mem hclose
    rcases readGroupName_append used hname with ⟨e, he⟩ | ⟨n, hn⟩
    · exact .fail (he rest)
    · intro n' rest' h
      cases h.symm.trans (hn rest)
      refine ⟨name ++ ['>'], by simp, fun v r _ hr => ?_⟩
      rw [List.append_assoc, List.singleton_append, hn] at hr
      exact (Except.ok.inj hr).symm
  · have hnone : cs.dropWhile (· != '>') = [] := by
      refine List.dropWhile_eq_nil_iff.mpr fun c hc => bne_iff_ne.mpr fun heq => hclose (heq ▸ hc)
    exact .fail (e := .groupName) (by rw [readGroupName, hnone])

/-- A group with a name, after its opening angle bracket. -/
def namedOpening (used : List String) (cs : List Char) :
    Except PatternError (Opening × List Char) :=
  readGroupName used cs >>= fun r => .ok (.capture (some r.1), r.2)

/-- What follows the flags of a group. -/
def afterFlags (change : FlagChange) : List Char → Except PatternError (Opening × List Char)
  | ':' :: rest => .ok (.scope change, rest)
  | _ :: rest => if change.isEmpty then .error .nothingToRepeat else .ok (.flags change, rest)
  | [] => .error .unexpectedEnd

/-- A group with flags, after its question mark. -/
def flagOpening (cs : List Char) : Except PatternError (Opening × List Char) :=
  readFlags [] false false cs >>= fun r => afterFlags r.1 r.2

/-- What follows a question mark and an angle bracket. -/
def afterAngle (used : List String) (cs : List Char) : Except PatternError (Opening × List Char) :=
  if cs.head? = some '=' then .error .lookAround
  else if cs.head? = some '!' then .error .lookAround
  else namedOpening used cs

/-- What follows a question mark and the letter that may stand before a name. -/
def afterNameLetter (used : List String) (cs : List Char) :
    Except PatternError (Opening × List Char) :=
  if cs.head? = some '<' then namedOpening used cs.tail else .error .unknownFlag

/-- What follows the question mark of a group. -/
def afterQuestion (used : List String) (cs : List Char) :
    Except PatternError (Opening × List Char) :=
  if cs.head? = some '=' then .error .lookAround
  else if cs.head? = some '!' then .error .lookAround
  else if cs.head? = some '<' then afterAngle used cs.tail
  else if cs.head? = some 'P' then afterNameLetter used cs.tail
  else flagOpening cs

/-- What follows an opening parenthesis. -/
def afterParenthesis (used : List String) (cs : List Char) :
    Except PatternError (Opening × List Char) :=
  if cs.head? = some '?' then afterQuestion used cs.tail else .ok (.capture none, cs)

theorem readOpening_eq (extended : Bool) (used : List String) (cs : List Char) :
    readOpening extended used cs = afterParenthesis used (skip extended cs) := by
  unfold readOpening
  generalize skip extended cs = cs
  split
  · rfl
  · rfl
  · rfl
  · rfl
  · rfl
  · rename_i rest hequal hmark
    change _ = afterAngle used rest
    rw [afterAngle, if_neg (head?_ne_of_forall hequal), if_neg (head?_ne_of_forall hmark)]
    rfl
  · rename_i rest hequal hmark _ _ hname hangle
    change _ = afterQuestion used rest
    rw [afterQuestion, if_neg (head?_ne_of_forall hequal), if_neg (head?_ne_of_forall hmark),
      if_neg (head?_ne_of_forall hangle)]
    split
    · rename_i hletter
      obtain ⟨rest, rfl⟩ := List.head?_eq_some_iff.mp hletter
      exact (if_neg (head?_ne_of_forall fun u hu => hname u (hu ▸ rfl))).symm
    · refine congrArg _ (funext fun r => ?_)
      rfl
  · rename_i hmark
    exact (if_neg (head?_ne_of_forall hmark)).symm

theorem namedOpening_reads (used : List String) : Reads tail (namedOpening used) :=
  fun cs => (readGroupName_reads used cs).map fun name => Opening.capture (some name)

theorem flagOpening_reads (htail : IsTail tail) : Reads tail flagOpening := by
  refine fun cs => (readFlags_reads htail [] false false cs).bind fun change rest _ => ?_
  cases rest with
  | nil => exact .fail rfl
  | cons c rest =>
      refine .head ?_
      by_cases hscope : c = ':'
      · subst hscope
        exact Reads.done (Opening.scope change) rest
      · have hflags (u : List Char) : afterFlags change (c :: u) =
            if change.isEmpty then .error .nothingToRepeat else .ok (.flags change, u) := by
          rw [afterFlags]
          exact hscope
        simp only [hflags]
        split
        · exact .fail rfl
        · exact Reads.done (Opening.flags change) rest

theorem afterAngle_reads (htail : IsTail tail) (used : List String) :
    Reads tail (afterAngle used) :=
  .orElse htail (d := '=') (by decide) (fun _ => rfl) (fun _ hu => if_neg hu)
    (.refuse .lookAround)
    (.orElse htail (d := '!') (by decide) (fun _ => rfl) (fun _ hu => if_neg hu)
      (.refuse .lookAround) (namedOpening_reads used))

theorem afterNameLetter_reads (htail : IsTail tail) (used : List String) :
    Reads tail (afterNameLetter used) :=
  .orElse htail (d := '<') (by decide) (fun _ => rfl) (fun _ hu => if_neg hu)
    (namedOpening_reads used) (.refuse .unknownFlag)

theorem afterQuestion_reads (htail : IsTail tail) (used : List String) :
    Reads tail (afterQuestion used) :=
  .orElse htail (d := '=') (by decide) (fun _ => rfl) (fun _ hu => if_neg hu)
    (.refuse .lookAround)
    (.orElse htail (d := '!') (by decide) (fun _ => rfl) (fun _ hu => if_neg hu)
      (.refuse .lookAround)
      (.orElse htail (d := '<') (by decide) (fun _ => rfl) (fun _ hu => if_neg hu)
        (afterAngle_reads htail used)
        (.orElse htail (d := 'P') (by decide) (fun _ => rfl) (fun _ hu => if_neg hu)
          (afterNameLetter_reads htail used) (flagOpening_reads htail))))

theorem readOpening_reads (htail : IsTail tail) (extended : Bool) (used : List String) :
    Reads tail (readOpening extended used) := by
  have hparenthesis : Reads tail (afterParenthesis used) :=
    .orElse htail (d := '?') (by decide) (fun _ => rfl) (fun _ hu => if_neg hu)
      (afterQuestion_reads htail used) (Reads.done _)
  rw [funext (readOpening_eq extended used)]
  exact fun cs => (hparenthesis _).skip htail

end Fingerprinting.Regex
