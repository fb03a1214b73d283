/-
# What escapes take

An escape is read by its letter, and by what may follow in braces.  None of its readers looks beyond
the part that it takes, save for the brace after a word boundary.

* `reads_skipInBraces` is about everything that stands in braces;
* `readEscape_reads` is about all escapes.
-/
import Fingerprinting.Proofs.Regex.Reading

namespace Fingerprinting.Regex

variable {α : Type} {tail : List Char}

/-! ## Braces -/

theorem dropAll_brace {bound : Nat} {cs rest : List Char}
    (h : dropFiller false cs = '\x7d' :: rest) :
    skipInBraces.dropAll (bound + 1) cs = '\x7d' :: rest := by
  rw [skipInBraces.dropAll, h]
  rfl

theorem dropAll_cons {bound : Nat} {c : Char} {cs rest : List Char}
    (h : dropFiller false cs = c :: rest) (hc : c ≠ '\x7d') :
    skipInBraces.dropAll (bound + 1) cs = c :: skipInBraces.dropAll bound rest := by
  rw [skipInBraces.dropAll, h]
  split
  · rename_i heq
    cases heq
  · rename_i heq
    cases heq
    exact absurd rfl hc
  · rename_i heq
    cases heq
    rfl

/-- What is left of a text by dropping filler up to a closing brace has no closing brace, or goes on
after the first as the text does. -/
theorem dropAll_cases (bound : Nat) (cs : List Char) (hbound : cs.length ≤ bound) :
    '\x7d' ∉ skipInBraces.dropAll bound cs ∨
      ∃ w a rest, cs = w ++ '\x7d' :: rest ∧ '\x7d' ∉ a ∧
        ∀ u bound', (w ++ '\x7d' :: u).length ≤ bound' →
          skipInBraces.dropAll bound' (w ++ '\x7d' :: u) = a ++ '\x7d' :: u := by
  induction bound generalizing cs with
  | zero =>
      rw [List.eq_nil_of_length_eq_zero (Nat.le_zero.mp hbound)]
      exact .inl List.not_mem_nil
  | succ bound ih =>
      obtain ⟨w, hcs, hw⟩ := dropFiller_append false cs
      cases hrest : dropFiller false cs with
      | nil =>
          rw [skipInBraces.dropAll, hrest]
          exact .inl List.not_mem_nil
      | cons c rest =>
          rw [hrest] at hcs hw
          have hdrop (u : List Char) : dropFiller false (w ++ c :: u) = c :: u :=
            hw (List.cons_ne_nil c rest) (c :: u)
              ((isSolid_of_skip (show skip true cs = c :: rest from hrest)).skip_cons u)
          by_cases hc : c = '\x7d'
          · subst hc
            refine .inr ⟨w, [], rest, hcs, List.not_mem_nil, fun u bound' hu => ?_⟩
            cases bound' with
            | zero => simp at hu
            | succ bound' => exact dropAll_brace (hdrop u)
          · rw [dropAll_cons hrest hc]
            have hlen : rest.length ≤ bound := by
              rw [hcs, List.length_append, List.length_cons] at hbound
              omega
            rcases ih rest hlen with hnone | ⟨w', a, rest', rfl, ha, hw'⟩
            · exact .inl (List.not_mem_cons_of_ne_of_not_mem (Ne.symm hc) hnone)
            · refine .inr ⟨w ++ c :: w', c :: a, rest', by rw [hcs]; simp,
                List.not_mem_cons_of_ne_of_not_mem (Ne.symm hc) ha, fun u bound' hu => ?_⟩
              rw [List.append_assoc, List.cons_append] at hu ⊢
              rw [List.length_append, List.length_cons] at hu
              cases bound' with
              | zero => simp at hu
              | succ bound' =>
                  rw [dropAll_cons (hdrop _) hc, hw' u bound' (by omega), List.cons_append]

theorem skipInBraces_cases (extended : Bool) (cs : List Char) :
    '\x7d' ∉ skipInBraces extended cs ∨
      ∃ w a rest, cs = w ++ '\x7d' :: rest ∧ '\x7d' ∉ a ∧
        ∀ u, skipInBraces extended (w ++ '\x7d' :: u) = a ++ '\x7d' :: u := by
  cases extended with
  | true =>
      rcases dropAll_cases cs.length cs (Nat.le_refl _) with hnone | ⟨w, a, rest, hcs, ha, hw⟩
      · exact .inl hnone
      · exact .inr ⟨w, a, rest, hcs, ha, fun u => hw u _ (Nat.le_refl _)⟩
  | false =>
      by_cases hmem : '\x7d' ∈ cs
      · obtain ⟨w, rest, hcs, hw⟩ := List.eq_append_cons_of_mem hmem
        exact .inr ⟨w, w, rest, hcs, hw, fun u => rfl⟩
      · exact .inl hmem

/-- A reader that needs a closing brace and takes what stands before the first one only. -/
theorem reads_skipInBraces (extended : Bool)
    (read : List Char → Except PatternError (α × List Char))
    (hnone : ∀ cs, '\x7d' ∉ cs → ∃ e, read cs = .error e)
    (hsome : ∀ a, '\x7d' ∉ a →
      (∃ e, ∀ u, read (a ++ '\x7d' :: u) = .error e) ∨
        ∃ b, ∀ u, read (a ++ '\x7d' :: u) = .ok (b, u)) :
    Reads tail fun cs => read (skipInBraces extended cs) := by
  intro cs
  rcases skipInBraces_cases extended cs with hmem | ⟨w, a, rest, rfl, ha, hw⟩
  · exact .fail (hnone _ hmem).choose_spec
  · rcases hsome a ha with ⟨e, he⟩ | ⟨b, hb⟩
    · exact .fail ((congrArg read (hw rest)).trans (he rest))
    · intro b' rest' h
      cases h.symm.trans ((congrArg read (hw rest)).trans (hb rest))
      refine ⟨w ++ ['\x7d'], by simp, fun v r _ hr => ?_⟩
      rw [List.append_assoc, List.singleton_append] at hr
      exact Except.ok.inj (hr.symm.trans ((congrArg read (hw _)).trans (hb _)))

/-! ## Escapes -/

/-- A hexadecimal digit is taken, and after it what the other digits take. -/
theorem readHexDigits_succ_reads (htail : IsTail tail) {extended : Bool} {count : Nat}
    (h : ∀ acc, Reads tail (readHexDigits extended count acc)) (acc : Nat) (c : Char) :
    Reads tail fun u => readHexDigits extended (count + 1) acc (c :: u) := by
  intro cs
  cases hdigit : Text.hexDigitValue? c with
  | none =>
      simp only [readHexDigits, hdigit]
      exact .fail rfl
  | some d =>
      cases count with
      | zero =>
          simp only [readHexDigits, hdigit]
          exact (Reads.done _ _).skip htail
      | succ count =>
          simp only [readHexDigits, hdigit]
          exact (h _ _).skip htail

theorem readHexDigits_reads (htail : IsTail tail) (extended : Bool) (count acc : Nat) :
    Reads tail (readHexDigits extended count acc) := by
  induction count generalizing acc with
  | zero => exact .done acc
  | succ count ih =>
      intro cs
      cases cs with
      | nil => exact .fail rfl
      | cons c cs => exact .head (readHexDigits_succ_reads htail ih acc c cs)

theorem readHexBraced_cons {c : Char} (hc : c ≠ '\x7d') (acc : Option Nat) (cs : List Char) :
    readHexBraced acc (c :: cs) =
      match Text.hexDigitValue? c with
      | some d => readHexBraced (some (acc.getD 0 * 16 + d)) cs
      | none => .error .hexadecimalEscape := by
  rw [readHexBraced.eq_def]
  split
  · rename_i heq
    cases heq
  · rename_i heq
    exact absurd (List.cons.inj heq).1 hc
  · rename_i heq
    cases heq
    rfl

theorem readHexBraced_of_not_mem (acc : Option Nat) {cs : List Char} (h : '\x7d' ∉ cs) :
    ∃ e, readHexBraced acc cs = .error e := by
  induction cs generalizing acc with
  | nil => exact ⟨_, rfl⟩
  | cons c cs ih =>
      rw [readHexBraced_cons (List.ne_of_not_mem_cons h).symm]
      cases Text.hexDigitValue? c with
      | none => exact ⟨_, rfl⟩
      | some d => exact ih _ (List.not_mem_of_not_mem_cons h)

theorem readHexBraced_append (acc : Option Nat) {a : List Char} (h : '\x7d' ∉ a) :
    (∃ e, ∀ u, readHexBraced acc (a ++ '\x7d' :: u) = .error e) ∨
      ∃ n, ∀ u, readHexBraced acc (a ++ '\x7d' :: u) = .ok (n, u) := by
  induction a generalizing acc with
  | nil =>
      cases acc with
      | none => exact .inl ⟨_, fun u => rfl⟩
      | some n => exact .inr ⟨n, fun u => rfl⟩
  | cons c a ih =>
      simp only [List.cons_append, readHexBraced_cons (List.ne_of_not_mem_cons h).symm]
      cases Text.hexDigitValue? c with
      | none => exact .inl ⟨_, fun u => rfl⟩
      | some d => exact ih _ (List.not_mem_of_not_mem_cons h)

theorem readHexEscape_reads (htail : IsTail tail) (extended : Bool) (digits : Nat) :
    Reads tail (readHexEscape extended (digits + 1)) := by
  refine .of_solid htail extended (fun cs => by simp only [readHexEscape, skip_skip])
    ⟨.unexpectedEnd, by cases extended <;> rfl⟩ fun c cs hc => .head ?_
  by_cases hbrace : c = '\x7b'
  · subst hbrace
    simp only [readHexEscape, hc.skip_cons]
    refine ReadsAt.bind (reads_skipInBraces extended (readHexBraced none)
      (fun _ => readHexBraced_of_not_mem none) (fun _ => readHexBraced_append none) cs)
      fun n rest _ => ?_
    dsimp only
    cases charOfNumber? n with
    | none => exact .fail rfl
    | some c => exact (Reads.done _ _).skip htail
  · simp only [readHexEscape, hc.skip_cons, List.cons.injEq, hbrace, false_and, imp_self,
      implies_true]
    refine ReadsAt.bind (readHexDigits_succ_reads htail (readHexDigits_reads htail extended digits)
      0 c cs) fun n rest _ => ?_
    dsimp only
    cases charOfNumber? n with
    | none => exact .fail rfl
    | some c => exact Reads.done _ rest

theorem cutAt_of_not_mem {c : Char} {cs : List Char} (h : c ∉ cs) : cutAt [c] cs = none := by
  induction cs with
  | nil => rfl
  | cons d cs ih =>
      rw [cutAt, Text.stripStart, if_neg, ih (List.not_mem_of_not_mem_cons h)]
      · rfl
      · simpa using List.ne_of_not_mem_cons h

theorem cutAt_append {c : Char} {a : List Char} (h : c ∉ a) (u : List Char) :
    cutAt [c] (a ++ c :: u) = some (a, u) := by
  induction a with
  | nil => simp [cutAt, Text.stripStart]
  | cons d a ih =>
      rw [List.cons_append, cutAt, Text.stripStart, if_neg, ih (List.not_mem_of_not_mem_cons h)]
      · rfl
      · simpa using List.ne_of_not_mem_cons h

/-- A property with its name in braces, after the opening one. -/
def bracedProperty (negated : Bool) (cs : List Char) : Except PatternError (Atom × List Char) :=
  match cutAt ['\x7d'] cs with
  | some (name, rest) => .ok (.property (propertyNamed negated name), rest)
  | none => .error .unexpectedEnd

theorem readProperty_reads (htail : IsTail tail) (extended negated : Bool) :
    Reads tail (readProperty extended negated) := by
  refine .of_solid htail extended (fun cs => by simp only [readProperty, skip_skip])
    ⟨.unexpectedEnd, by cases extended <;> rfl⟩ fun c cs hc => .head ?_
  by_cases hbrace : c = '\x7b'
  · subst hbrace
    simp only [readProperty, hc.skip_cons]
    refine reads_skipInBraces extended (bracedProperty negated) (fun ds hds => ?_)
      (fun a ha => .inr ?_) cs
    · exact ⟨.unexpectedEnd, by rw [bracedProperty, cutAt_of_not_mem hds]⟩
    · exact ⟨_, fun u => by rw [bracedProperty, cutAt_append ha]⟩
  by_cases hescape : c = '\\'
  · subst hescape
    simp only [readProperty, hc.skip_cons]
    exact .fail rfl
  · simp only [readProperty, hc.skip_cons]
    exact (Reads.done _ _).skip htail

/-- Whether a character may stand in the name of a word boundary. -/
def IsBoundaryNameChar (c : Char) : Prop := (c.isAlpha || c = '-') = true

theorem readBoundaryName_cons {c : Char} (hc : IsBoundaryNameChar c) (extended : Bool)
    (bound : Nat) (name cs : List Char) :
    readBoundaryName extended (bound + 1) name (c :: cs) =
      readBoundaryName extended bound (c :: name) (skip extended cs) := by
  rw [readBoundaryName]
  exact if_pos hc

/-- A character of a name is taken, and after it what the rest of the name takes. -/
theorem readBoundaryName_succ_reads (htail : IsTail tail) {extended : Bool} {bound : Nat}
    (h : ∀ bound' name cs, ReadsAt tail (readBoundaryName extended bound name)
      (readBoundaryName extended bound' name) cs) (bound' : Nat) (name : List Char) (c : Char)
    (cs : List Char) :
    ReadsAt tail (fun u => readBoundaryName extended (bound + 1) name (c :: u))
      (fun u => readBoundaryName extended bound' name (c :: u)) cs := by
  by_cases hc : IsBoundaryNameChar c
  · have hmore := (h (bound' - 1) (c :: name) (skip extended cs)).skip htail
    simp only [readBoundaryName_cons hc]
    cases bound' with
    | zero => exact hmore.of_fail fun u => ⟨_, rfl⟩
    | succ bound' =>
        simp only [readBoundaryName_cons hc]
        exact hmore
  · have hother (bound : Nat) (u : List Char) :
        readBoundaryName extended (bound + 1) name (c :: u) =
          if c = '\x7d' then .ok (name.reverse, u) else .error .wordBoundaryName := by
      rw [readBoundaryName]
      exact if_neg hc
    have hend : ReadsAt tail (fun u => .ok (name.reverse, u)) (fun u => .ok (name.reverse, u)) cs :=
      Reads.done _ cs
    by_cases hclose : c = '\x7d'
    · simp only [hother, if_pos hclose]
      cases bound' with
      | zero => exact hend.of_fail fun u => ⟨_, rfl⟩
      | succ bound' =>
          simp only [hother, if_pos hclose]
          exact hend
    · exact .fail ((hother bound cs).trans (if_neg hclose))

theorem readBoundaryName_reads (htail : IsTail tail) (extended : Bool) (bound bound' : Nat)
    (name cs : List Char) :
    ReadsAt tail (readBoundaryName extended bound name) (readBoundaryName extended bound' name)
      cs := by
  induction bound generalizing bound' name cs with
  | zero => exact .fail rfl
  | succ bound ih =>
      cases cs with
      | nil => exact .fail rfl
      | cons c cs => exact .head (readBoundaryName_succ_reads htail ih bound' name c cs)

/-- The word boundary with a name in braces. -/
def boundaryNamed? (name : String) : Option Anchor :=
  match name with
  | "start" => some .wordStart
  | "end" => some .wordEnd
  | "start-half" => some .wordStartHalf
  | "end-half" => some .wordEndHalf
  | _ => none

/-- A word boundary from the first character of its name on. -/
def namedBoundary (extended : Bool) (c : Char) (rest : List Char) :
    Except PatternError (Atom × List Char) :=
  readBoundaryName extended (rest.length + 1) [] (c :: rest) >>= fun r =>
    match boundaryNamed? (String.ofList r.1) with
    | some a => .ok (.anchor a, r.2)
    | none => .error .wordBoundaryName

theorem namedBoundary_reads (htail : IsTail tail) (extended : Bool) (c : Char) :
    Reads tail (namedBoundary extended c) := by
  intro cs
  refine ReadsAt.bind (ReadsAt.bounded
    (fun bound u => readBoundaryName extended bound [] (c :: u)) (fun bound => ?_)
    fun u => u.length + 1) fun name rest _ => ?_
  · exact readBoundaryName_succ_reads htail
      (fun bound' => readBoundaryName_reads htail extended _ bound') bound [] c cs
  · dsimp only
    cases boundaryNamed? (String.ofList name) with
    | none => exact .fail rfl
    | some a => exact Reads.done _ rest

theorem readBoundary_named {extended : Bool} {c : Char} (hc : IsBoundaryNameChar c)
    {cs rest : List Char} (h : skip extended cs = c :: rest) :
    readBoundary extended ('\x7b' :: cs) = namedBoundary extended c rest := by
  rw [readBoundary, h]
  refine (if_pos hc).trans (congrArg _ (funext fun r => ?_))
  dsimp only [boundaryNamed?]
  generalize String.ofList r.1 = name
  split
  · rfl
  · rfl
  · rfl
  · rfl
  · simp only

/-- Whether a brace and the first character of a name begin a text. -/
def HasBoundaryName (extended : Bool) (cs : List Char) : Prop :=
  ∃ rest c rest', cs = '\x7b' :: rest ∧ skip extended rest = c :: rest' ∧ IsBoundaryNameChar c

/-- Without a name a word boundary takes nothing more, and it is refused at a brace that ends the
text. -/
theorem readBoundary_plain {extended : Bool} {cs : List Char} (h : ¬ HasBoundaryName extended cs) :
    (∃ rest, cs = '\x7b' :: rest ∧ skip extended rest = [] ∧
      readBoundary extended cs = .error .unexpectedEnd) ∨
    readBoundary extended cs = .ok (.anchor .wordBoundary, cs) := by
  unfold readBoundary
  split
  · rename_i rest
    cases hskip : skip extended rest with
    | nil => exact .inl ⟨rest, rfl, hskip, rfl⟩
    | cons c rest' => exact .inr (if_neg fun hc => h ⟨rest, c, rest', rfl, hskip, hc⟩)
  · exact .inr rfl

theorem readBoundary_reads (htail : IsTail tail) (extended : Bool) :
    Reads tail (readBoundary extended) := by
  intro cs
  by_cases hname : HasBoundaryName extended cs
  · obtain ⟨rest, c, rest', rfl, hskip, hc⟩ := hname
    exact .head (.skip_cons htail hskip (readBoundary_named hc hskip)
      (fun u u' hu => readBoundary_named hc hu) (namedBoundary_reads htail extended c rest'))
  rcases readBoundary_plain hname with ⟨-, -, -, herror⟩ | hplain
  · exact .fail herror
  intro a rest hok
  cases hplain.symm.trans hok
  refine ⟨[], rfl, fun v r hv hr => ?_⟩
  -- The brace before the parenthesis, if there is one, is followed by the same character.
  have hother : ¬ HasBoundaryName extended (v ++ tail) := by
    rintro ⟨rest, c, rest', hrest, hskip, hc⟩
    cases v with
    | nil => rcases htail with rfl | rfl <;> cases hrest
    | cons d v =>
        rw [List.cons_append] at hrest
        cases hrest
        rcases skip_beside htail extended v with ⟨hnil, -⟩ | ⟨v', hv', hsame⟩
        · rw [hv] at hplain
          simp [readBoundary, hnil] at hplain
        · rw [hsame] at hskip
          cases v' with
          | nil =>
              rcases htail with rfl | rfl
              · cases hskip
              · cases hskip
                exact absurd hc (by unfold IsBoundaryNameChar; decide)
          | cons d v' =>
              cases hskip
              exact hname ⟨_, _, _, hv, hv', hc⟩
  rcases readBoundary_plain hother with ⟨-, -, -, herror⟩ | hplain
  · cases herror.symm.trans hr
  · exact Except.ok.inj (hr.symm.trans hplain)

/-- What is read after the letter of an escape that means more than itself. -/
def afterEscapeLetter (extended : Bool) (c : Char) :
    List Char → Except PatternError (Atom × List Char) :=
  match c with
  | 'x' => readHexEscape extended 2
  | 'u' => readHexEscape extended 4
  | 'U' => readHexEscape extended 8
  | 'p' => readProperty extended false
  | 'P' => readProperty extended true
  | 'd' => fun rest => .ok (.letter .digit false, rest)
  | 'D' => fun rest => .ok (.letter .digit true, rest)
  | 's' => fun rest => .ok (.letter .space false, rest)
  | 'S' => fun rest => .ok (.letter .space true, rest)
  | 'w' => fun rest => .ok (.letter .word false, rest)
  | 'W' => fun rest => .ok (.letter .word true, rest)
  | 'a' => fun rest => .ok (.literal (.plain (Char.ofNat 0x07)), rest)
  | 'f' => fun rest => .ok (.literal (.plain (Char.ofNat 0x0C)), rest)
  | 't' => fun rest => .ok (.literal (.plain (Char.ofNat 0x09)), rest)
  | 'n' => fun rest => .ok (.literal (.plain (Char.ofNat 0x0A)), rest)
  | 'r' => fun rest => .ok (.literal (.plain (Char.ofNat 0x0D)), rest)
  | 'v' => fun rest => .ok (.literal (.plain (Char.ofNat 0x0B)), rest)
  | 'A' => fun rest => .ok (.anchor .textStart, rest)
  | 'z' => fun rest => .ok (.anchor .textEnd, rest)
  | 'b' => readBoundary extended
  | 'B' => fun rest => .ok (.anchor .notWordBoundary, rest)
  | '<' => fun rest => .ok (.anchor .wordStart, rest)
  | '>' => fun rest => .ok (.anchor .wordEnd, rest)
  | _ => fun _ => .error .unknownEscape

theorem readEscape_cons (extended : Bool) (c : Char) (cs : List Char) :
    readEscape extended (c :: cs) =
      if '0' ≤ c ∧ c ≤ '9' then .error .backreference
      else if isEscapable c then .ok (.literal (.plain c), cs)
      else afterEscapeLetter extended c cs := by
  rw [readEscape.eq_def]
  refine if_congr Iff.rfl rfl (if_congr Iff.rfl rfl ?_)
  dsimp only [afterEscapeLetter]
  split
  -- The last case is any other letter, known only by what it is not.
  case h_24 => simp only
  all_goals rfl

theorem afterEscapeLetter_reads (htail : IsTail tail) (extended : Bool) (c : Char) :
    Reads tail (afterEscapeLetter extended c) := by
  unfold afterEscapeLetter
  split
  all_goals first
    | exact Reads.done _
    | exact readHexEscape_reads htail extended _
    | exact readProperty_reads htail extended _
    | exact readBoundary_reads htail extended
    | exact fun cs => .fail rfl

theorem readEscape_reads (htail : IsTail tail) (extended : Bool) :
    Reads tail (readEscape extended) := by
  intro cs
  cases cs with
  | nil => exact .fail rfl
  | cons c cs =>
      refine .head ?_
      simp only [readEscape_cons]
      split
      · exact .fail rfl
      · split
        · exact Reads.done _ cs
        · exact afterEscapeLetter_reads htail extended c cs

end Fingerprinting.Regex
