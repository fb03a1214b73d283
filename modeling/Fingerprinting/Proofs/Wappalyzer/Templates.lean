/-
# What is read of the template of a version

A backslash and a digit refer to a group, and with a question mark after them they begin a choice,
which takes in the rest of the template.  A choice is read of the text that begins three bytes after
its backslash; `readFrom` goes through a template by bytes and fails where such a text would begin
inside a character.

* `readFrom_eq` says that reading in place never fails and gives what `parse` gives;
* `isNormal_parseFrom` says how literals and choices stand in a template and in its branches;
* `parseFrom_of_plain` reads a template without references;
* `spelling_parseFrom` prints the parts before the first choice, which gives the text before it;
* `template_readings` puts them together for all templates.
-/
import Fingerprinting.Wappalyzer.Pattern
import Fingerprinting.Proofs.Text.Numeral

namespace Fingerprinting.Wappalyzer.VersionTemplate

/-! ## References -/

/-- How a group is referred to. -/
def reference (n : Nat) : List Char := ['\\', n.digitChar]

/-- The group that a text refers to when it begins with a reference. -/
def reference? : List Char → Option Nat
  | '\\' :: d :: _ => Text.digitValue? d
  | _ => none

/-- Somewhere a digit follows a backslash. -/
def HasReference (cs : List Char) : Prop := ∃ d : Char, d.isDigit = true ∧ ['\\', d] <:+: cs

theorem reference?_append {n : Nat} (h : n < 10) (rest : List Char) :
    reference? (reference n ++ rest) = some n :=
  (Text.digitValue?_eq_some_iff _ n).mpr ⟨h, rfl⟩

theorem of_reference? {cs : List Char} {n : Nat} (h : reference? cs = some n) :
    n < 10 ∧ ∃ rest, cs = reference n ++ rest := by
  unfold reference? at h
  split at h
  · rename_i d rest
    obtain ⟨hn, rfl⟩ := (Text.digitValue?_eq_some_iff d n).mp h
    exact ⟨hn, rest, rfl⟩
  · cases h

theorem reference?_of_ne {c : Char} (h : c ≠ '\\') (rest : List Char) :
    reference? (c :: rest) = none := by
  unfold reference?
  split
  · rename_i heq
    exact absurd (List.cons.inj heq).1 h
  · rfl

/-- Digits are no backslashes. -/
theorem digitChar_ne : ∀ n < 10, Nat.digitChar n ≠ '\\' := by decide

/-- A reference stands at the beginning or after the first character. -/
theorem hasReference_cons_iff (c : Char) (rest : List Char) :
    HasReference (c :: rest) ↔ reference? (c :: rest) ≠ none ∨ HasReference rest := by
  constructor
  · rintro ⟨d, hd, hinfix⟩
    rcases List.infix_cons_iff.mp hinfix with ⟨more, heq⟩ | hinfix
    · refine .inl ?_
      rw [← heq]
      exact Option.isSome_iff_ne_none.mp ((Text.isSome_digitValue?_iff d).mpr hd)
    · exact .inr ⟨d, hd, hinfix⟩
  · rintro (hreference | ⟨d, hd, hinfix⟩)
    · obtain ⟨n, hn⟩ := Option.ne_none_iff_exists'.mp hreference
      obtain ⟨hlt, more, heq⟩ := of_reference? hn
      refine ⟨n.digitChar, ?_, heq ▸ (List.prefix_append (reference n) more).isInfix⟩
      rw [← Text.isSome_digitValue?_iff, (Text.digitValue?_eq_some_iff _ n).mpr ⟨hlt, rfl⟩]
      rfl
    · exact ⟨d, hd, List.infix_cons_iff.mpr (.inr hinfix)⟩

/-! ## Reading on -/

theorem parseFrom_nil (literal : List Char) : parseFrom literal [] = close literal [] := by
  rw [parseFrom]

/-- A character that begins no reference is added to the open literal. -/
theorem parseFrom_keep {c : Char} {rest : List Char} (h : reference? (c :: rest) = none)
    (literal : List Char) : parseFrom literal (c :: rest) = parseFrom (c :: literal) rest := by
  cases rest with
  | nil => simp [parseFrom]
  | cons d rest =>
      have hnone : (if c = '\\' then Text.digitValue? d else none) = none := by
        split
        · rename_i hc
          subst hc
          exact h
        · rfl
      rw [parseFrom, hnone]

/-- A reference closes the open literal. -/
theorem parseFrom_group {n : Nat} (hn : n < 10) {rest : List Char} (h : rest.head? ≠ some '?')
    (literal : List Char) :
    parseFrom literal (reference n ++ rest) = close literal (.group n :: parseFrom [] rest) := by
  have hvalue := (Text.digitValue?_eq_some_iff _ n).mpr ⟨hn, rfl⟩
  rw [reference, List.cons_append, List.cons_append, List.nil_append, parseFrom, if_pos rfl, hvalue]
  dsimp only
  split
  · exact absurd rfl h
  · rfl

/-- A choice takes in the rest of the template. -/
theorem parseFrom_choice {n : Nat} (hn : n < 10) (literal rest : List Char) :
    parseFrom literal (reference n ++ '?' :: rest) =
      close literal [.choice n (parseFrom [] (branches rest).1) (parseFrom [] (branches rest).2)] := by
  have hvalue := (Text.digitValue?_eq_some_iff _ n).mpr ⟨hn, rfl⟩
  rw [reference, List.cons_append, List.cons_append, List.nil_append, parseFrom, if_pos rfl, hvalue]
  rfl

/-- Induction along the reading of a template: at its end, at a character that stands for itself, at
a reference, and at a choice with its two texts. -/
@[elab_as_elim]
theorem reading {motive : List Char → Prop} (done : motive [])
    (keep : ∀ {c rest}, reference? (c :: rest) = none → motive rest → motive (c :: rest))
    (group : ∀ {n rest}, n < 10 → rest.head? ≠ some '?' → motive rest → motive (reference n ++ rest))
    (choice : ∀ {n rest}, n < 10 → motive (branches rest).1 → motive (branches rest).2 →
      motive (reference n ++ '?' :: rest))
    (cs : List Char) : motive cs := by
  match cs with
  | [] => exact done
  | c :: rest =>
      cases h : reference? (c :: rest) with
      | none => exact keep h (reading done keep group choice rest)
      | some n =>
          obtain ⟨hn, more, heq⟩ := of_reference? h
          rw [heq]
          by_cases hmark : more.head? = some '?'
          · obtain ⟨tail, rfl⟩ : ∃ tail, more = '?' :: tail := List.head?_eq_some_iff.mp hmark
            exact choice hn (reading done keep group choice _) (reading done keep group choice _)
          · exact group hn hmark (reading done keep group choice more)
termination_by cs.length
decreasing_by
  · exact Nat.lt_succ_self _
  · have := length_present_le tail
    simp only [heq, reference, List.length_append, List.length_cons]
    omega
  · have := length_absent_le tail
    simp only [heq, reference, List.length_append, List.length_cons]
    omega
  · simp only [heq, reference, List.length_append, List.length_cons]
    omega

/-! ## Reading in place -/

/-- The text from a byte on, if that byte begins a character or ends the text. -/
def fromByte? (s : String) (i : Nat) : Option String :=
  if h : String.Pos.Raw.IsValid s ⟨i⟩ then some (s.sliceFrom ⟨⟨i⟩, h⟩).copy else none

theorem fromByte?_append (before after : String) :
    fromByte? (before ++ after) before.utf8ByteSize = some after := by
  have hvalid : String.Pos.Raw.IsValid (before ++ after) ⟨before.utf8ByteSize⟩ :=
    String.Pos.Raw.isValid_iff_exists_append.mpr ⟨before, after, rfl, rfl⟩
  have hsplits : String.Pos.Splits ⟨⟨before.utf8ByteSize⟩, hvalid⟩ before after := ⟨rfl, rfl⟩
  rw [fromByte?, dif_pos hvalid, hsplits.copy_sliceFrom_eq]

/-- The text from a byte on is the text without its first bytes. -/
theorem of_fromByte? {s t : String} {i : Nat} (h : fromByte? s i = some t) :
    ∃ before, s = before ++ t ∧ before.utf8ByteSize = i := by
  unfold fromByte? at h
  split at h
  · rename_i hvalid
    obtain rfl := Option.some.inj h
    have hsplits := String.Pos.splits (s := s) ⟨⟨i⟩, hvalid⟩
    exact ⟨_, hsplits.eq_append, congrArg String.Pos.Raw.byteIdx hsplits.offset_eq_rawEndPos.symm⟩
  · cases h

/-- The texts of a choice are shorter than the template that it stands in. -/
theorem length_branches_lt {s slice : String} {i : Nat} (h : fromByte? s (i + 3) = some slice) :
    (String.ofList (branches slice.toList).1).length < s.length ∧
      (String.ofList (branches slice.toList).2).length < s.length := by
  obtain ⟨before, rfl, hsize⟩ := of_fromByte? h
  have hne : before.length ≠ 0 := by
    intro hzero
    obtain rfl := String.length_eq_zero_iff.mp hzero
    cases hsize
  have hpresent := length_present_le slice.toList
  have habsent := length_absent_le slice.toList
  rw [String.length_toList] at hpresent habsent
  rw [String.length_append, String.length_ofList, String.length_ofList]
  omega

/-- Read the rest of a template `s` in place: `cs` begins at the byte `i` of it, and `literal` is the
open literal in reverse.  The texts of a choice are read of the text from the third byte after its
backslash on. -/
def readFrom (s : String) (literal : List Char) (i : Nat) (cs : List Char) :
    Option VersionTemplate :=
  match cs with
  | [] => some (close literal [])
  | c :: rest =>
      match reference? (c :: rest), rest with
      | some n, d :: rest =>
          if rest.head? = some '?' then
            match _h : fromByte? s (i + 3) with
            | none => none
            | some slice =>
                let texts := branches slice.toList
                (readFrom (.ofList texts.1) [] 0 texts.1).bind fun present =>
                  (readFrom (.ofList texts.2) [] 0 texts.2).map fun absent =>
                    close literal [.choice n present absent]
          else
            (readFrom s [] (i + c.utf8Size + d.utf8Size) rest).map fun more =>
              close literal (.group n :: more)
      | _, rest => readFrom s (c :: literal) (i + c.utf8Size) rest
termination_by (s.length, cs.length)
decreasing_by
  · exact .left _ _ (length_branches_lt ‹fromByte? s (i + 3) = some slice›).1
  · exact .left _ _ (length_branches_lt ‹fromByte? s (i + 3) = some slice›).2
  · exact .right _ (Nat.lt_succ_of_lt (Nat.lt_succ_self _))
  · exact .right _ (Nat.lt_succ_self _)

/-- Read a template in place. -/
def readInPlace (s : String) : Option VersionTemplate := readFrom s [] 0 s.toList

theorem readFrom_keep {c : Char} {rest : List Char} (h : reference? (c :: rest) = none) (s : String)
    (literal : List Char) (i : Nat) :
    readFrom s literal i (c :: rest) = readFrom s (c :: literal) (i + c.utf8Size) rest := by
  rw [readFrom.eq_def]
  dsimp only
  rw [h]

/-- What follows a reference is two bytes further on. -/
theorem readFrom_group {n : Nat} (hn : n < 10) {rest : List Char} (h : rest.head? ≠ some '?')
    (s : String) (literal : List Char) (i : Nat) :
    readFrom s literal i (reference n ++ rest) =
      (readFrom s [] (i + 2) rest).map fun more => close literal (.group n :: more) := by
  have hsize : ∀ m < 10, m.digitChar.utf8Size = 1 := by decide
  have hreference := reference?_append hn rest
  simp only [reference, List.cons_append, List.nil_append] at hreference ⊢
  rw [readFrom.eq_def]
  dsimp only
  rw [hreference]
  dsimp only
  rw [if_neg h, hsize n hn]
  rfl

/-- A choice is read of the text three bytes further on, if it begins there. -/
theorem readFrom_choice {n : Nat} (hn : n < 10) {s slice : String} {i : Nat}
    (h : fromByte? s (i + 3) = some slice) (literal rest : List Char) :
    readFrom s literal i (reference n ++ '?' :: rest) =
      (readFrom (.ofList (branches slice.toList).1) [] 0 (branches slice.toList).1).bind
        fun present =>
          (readFrom (.ofList (branches slice.toList).2) [] 0 (branches slice.toList).2).map
            fun absent => close literal [.choice n present absent] := by
  have hreference := reference?_append hn ('?' :: rest)
  simp only [reference, List.cons_append, List.nil_append] at hreference ⊢
  rw [readFrom.eq_def]
  dsimp only
  rw [hreference]
  dsimp only
  rw [if_pos List.head?_cons]
  split
  · rename_i hnone
    rw [h] at hnone
    cases hnone
  · rename_i slice' hsome
    rw [h] at hsome
    obtain rfl := Option.some.inj hsome
    rfl

theorem utf8ByteSize_reference : ∀ n < 10, (String.ofList (reference n)).utf8ByteSize = 2 := by
  decide

/-- Reading in place never fails, and gives what reading gives. -/
theorem readFrom_eq (cs literal : List Char) (before : String) :
    readFrom (before ++ .ofList cs) literal before.utf8ByteSize cs =
      some (parseFrom literal cs) := by
  induction cs using reading generalizing literal before with
  | done => rw [readFrom, parseFrom_nil]
  | @keep c rest h ih =>
      have hpush : before ++ String.ofList (c :: rest) = before.push c ++ .ofList rest := by
        rw [← String.toList_inj]
        simp
      rw [readFrom_keep h, parseFrom_keep h, hpush, ← String.utf8ByteSize_push, ih]
  | @group n rest hn hmark ih =>
      have hmore := ih [] (before ++ .ofList (reference n))
      rw [String.utf8ByteSize_append, utf8ByteSize_reference n hn, String.append_assoc,
        ← String.ofList_append] at hmore
      rw [readFrom_group hn hmark, parseFrom_group hn hmark, hmore, Option.map_some]
  | @choice n rest hn hpresent habsent =>
      have hslice := fromByte?_append (before ++ .ofList (reference n) ++ "?") (.ofList rest)
      have hsize : (before ++ .ofList (reference n) ++ "?").utf8ByteSize =
          before.utf8ByteSize + 3 := by
        rw [String.utf8ByteSize_append, String.utf8ByteSize_append, utf8ByteSize_reference n hn]
        rfl
      have hsplit : before ++ .ofList (reference n) ++ "?" ++ .ofList rest =
          before ++ .ofList (reference n ++ '?' :: rest) := by
        rw [← String.toList_inj]
        simp
      rw [hsize, hsplit] at hslice
      have hpresent := hpresent [] ""
      have habsent := habsent [] ""
      rw [String.empty_append, String.utf8ByteSize_empty] at hpresent habsent
      rw [readFrom_choice hn hslice, parseFrom_choice hn, String.toList_ofList, hpresent, habsent,
        Option.bind_some, Option.map_some]

/-! ## Literals and choices -/

/-- No literal is empty or stands directly before another one, and a choice stands last; the branches
of the choice are such templates themselves. -/
inductive IsNormal : List VersionToken → Prop
  | nil : IsNormal []
  | literal {s : String} {rest : List VersionToken} (ne_empty : s ≠ "")
      (apart : ∀ s' more, rest ≠ .literal s' :: more) (h : IsNormal rest) :
      IsNormal (.literal s :: rest)
  | group {n : Nat} {rest : List VersionToken} (h : IsNormal rest) : IsNormal (.group n :: rest)
  | choice {n : Nat} {present absent : List VersionToken} (hpresent : IsNormal present)
      (habsent : IsNormal absent) : IsNormal [.choice n present absent]

/-- A literal that is closed before anything but a literal. -/
theorem IsNormal.close {t : List VersionToken} (h : IsNormal t)
    (apart : ∀ s more, t ≠ .literal s :: more) (literal : List Char) :
    IsNormal (close literal t) := by
  cases literal with
  | nil => exact h
  | cons c literal =>
      refine .literal (fun hempty => ?_) apart h
      rw [← String.toList_inj, String.toList_ofList, String.toList_empty] at hempty
      exact List.reverse_ne_nil_iff.mpr (List.cons_ne_nil c literal) hempty

/-- Reading closes a literal at a reference or at the end only, and ends at a choice. -/
theorem isNormal_parseFrom (literal cs : List Char) : IsNormal (parseFrom literal cs) := by
  induction cs using reading generalizing literal with
  | done =>
      rw [parseFrom_nil]
      exact IsNormal.nil.close (fun _ _ h => nomatch h) literal
  | keep h ih =>
      rw [parseFrom_keep h]
      exact ih _
  | group hn hmark ih =>
      rw [parseFrom_group hn hmark]
      exact (IsNormal.group (ih [])).close (fun _ _ h => nomatch h) literal
  | choice hn hpresent habsent =>
      rw [parseFrom_choice hn]
      exact (IsNormal.choice (hpresent []) (habsent [])).close (fun _ _ h => nomatch h) literal

/-! ## Templates without references -/

/-- A template without references is one literal. -/
theorem parseFrom_of_plain {cs : List Char} (h : ¬ HasReference cs) (literal : List Char) :
    parseFrom literal cs = close (cs.reverse ++ literal) [] := by
  induction cs generalizing literal with
  | nil => exact parseFrom_nil literal
  | cons c rest ih =>
      rw [hasReference_cons_iff, not_or, not_not] at h
      rw [parseFrom_keep h.1, ih h.2, List.reverse_cons, List.append_assoc]
      rfl

theorem parse_of_plain {s : String} (h : ¬ HasReference s.toList) :
    parse s = close s.toList.reverse [] := by
  rw [parse, parseFrom_of_plain h, List.append_nil]

theorem literal?_close (literal : List Char) (t : List VersionToken) :
    literal? (close literal t) = (literal? t).map fun s => String.ofList literal.reverse ++ s := by
  cases literal with
  | nil => simp [close]
  | cons c literal => rfl

theorem renderTokens_close (group : Nat → String) (literal : List Char) (t : List VersionToken) :
    renderTokens group (close literal t) =
      String.ofList literal.reverse ++ renderTokens group t := by
  cases literal with
  | nil => simp [close]
  | cons c literal => simp [close, renderTokens, renderToken]

/-- A template with a reference is no text. -/
theorem literal?_parseFrom_of_hasReference {cs : List Char} (h : HasReference cs)
    (literal : List Char) : literal? (parseFrom literal cs) = none := by
  induction cs using reading generalizing literal with
  | done =>
      obtain ⟨d, -, hinfix⟩ := h
      exact absurd (List.infix_nil.mp hinfix) (List.cons_ne_nil _ _)
  | keep hkeep ih =>
      rw [parseFrom_keep hkeep]
      refine ih ?_ _
      exact ((hasReference_cons_iff _ _).mp h).resolve_left fun hne => hne hkeep
  | group hn hmark _ =>
      rw [parseFrom_group hn hmark, literal?_close]
      rfl
  | choice hn _ _ =>
      rw [parseFrom_choice hn, literal?_close]
      rfl

/-! ## The text before a choice -/

/-- The text of the parts before the first choice. -/
def spelling : List VersionToken → List Char
  | [] => []
  | .literal s :: rest => s.toList ++ spelling rest
  | .group n :: rest => reference n ++ spelling rest
  | .choice _ _ _ :: _ => []

/-- A text begins with a backslash, a digit and a question mark. -/
def opensChoice : List Char → Bool
  | '\\' :: d :: '?' :: _ => d.isDigit
  | _ => false

/-- The part of a text before the first backslash that a digit and a question mark follow. -/
def beforeChoice : List Char → List Char
  | [] => []
  | c :: rest => if opensChoice (c :: rest) then [] else c :: beforeChoice rest

/-- Some part is a choice. -/
def HasChoice (t : List VersionToken) : Prop := ∃ n present absent, .choice n present absent ∈ t

theorem opensChoice_of_reference?_eq_none {cs : List Char} (h : reference? cs = none) :
    opensChoice cs = false := by
  unfold opensChoice
  split
  · rename_i d rest
    cases hdigit : d.isDigit with
    | false => rfl
    | true =>
        have hsome := (Text.isSome_digitValue?_iff d).mpr hdigit
        have hnone : Text.digitValue? d = none := h
        rw [hnone] at hsome
        cases hsome
  · rfl

theorem beforeChoice_keep {c : Char} {rest : List Char} (h : reference? (c :: rest) = none) :
    beforeChoice (c :: rest) = c :: beforeChoice rest := by
  rw [beforeChoice, opensChoice_of_reference?_eq_none h, if_neg Bool.false_ne_true]

theorem beforeChoice_group {n : Nat} (hn : n < 10) {rest : List Char} (h : rest.head? ≠ some '?') :
    beforeChoice (reference n ++ rest) = reference n ++ beforeChoice rest := by
  have hplain : opensChoice (reference n ++ rest) = false := by
    cases rest with
    | nil => rfl
    | cons c rest =>
        unfold opensChoice
        split
        · rename_i heq
          cases heq
          exact absurd rfl h
        · rfl
  have hdigit : beforeChoice (n.digitChar :: rest) = n.digitChar :: beforeChoice rest :=
    beforeChoice_keep (reference?_of_ne (digitChar_ne n hn) rest)
  simp only [reference, List.cons_append, List.nil_append] at hplain ⊢
  rw [beforeChoice, hplain, if_neg Bool.false_ne_true, hdigit]

theorem beforeChoice_choice {n : Nat} (hn : n < 10) (rest : List Char) :
    beforeChoice (reference n ++ '?' :: rest) = [] := by
  have hopens : opensChoice (reference n ++ '?' :: rest) = true := by
    have hall : ∀ m < 10, (Nat.digitChar m).isDigit = true := by decide
    exact hall n hn
  simp only [reference, List.cons_append, List.nil_append] at hopens ⊢
  rw [beforeChoice, hopens, if_pos rfl]

theorem spelling_close (literal : List Char) (t : List VersionToken) :
    spelling (close literal t) = literal.reverse ++ spelling t := by
  cases literal with
  | nil => rfl
  | cons c literal => simp [close, spelling]

/-- The parts before the first choice spell the text before it. -/
theorem spelling_parseFrom (literal cs : List Char) :
    spelling (parseFrom literal cs) = literal.reverse ++ beforeChoice cs := by
  induction cs using reading generalizing literal with
  | done =>
      rw [parseFrom_nil, spelling_close]
      rfl
  | keep h ih =>
      rw [parseFrom_keep h, ih, beforeChoice_keep h, List.reverse_cons, List.append_assoc]
      rfl
  | group hn hmark ih =>
      rw [parseFrom_group hn hmark, spelling_close, spelling, ih, beforeChoice_group hn hmark]
      rfl
  | choice hn _ _ =>
      rw [parseFrom_choice hn, spelling_close, beforeChoice_choice hn]
      rfl

theorem hasChoice_close (literal : List Char) (t : List VersionToken) :
    HasChoice (close literal t) ↔ HasChoice t := by
  cases literal with
  | nil => rfl
  | cons c literal => simp [close, HasChoice]

/-- A choice is read exactly where some text stands after the part before it. -/
theorem hasChoice_parseFrom_iff (literal cs : List Char) :
    HasChoice (parseFrom literal cs) ↔ beforeChoice cs ≠ cs := by
  induction cs using reading generalizing literal with
  | done =>
      rw [parseFrom_nil, hasChoice_close]
      simp [HasChoice, beforeChoice]
  | keep h ih =>
      rw [parseFrom_keep h, ih, beforeChoice_keep h, ne_eq, ne_eq, List.cons_inj_right]
  | group hn hmark ih =>
      have hgroup (n : Nat) (t : List VersionToken) : HasChoice (.group n :: t) ↔ HasChoice t := by
        simp [HasChoice]
      rw [parseFrom_group hn hmark, hasChoice_close, hgroup, ih, beforeChoice_group hn hmark, ne_eq,
        ne_eq, List.append_cancel_left_eq]
  | choice hn _ _ =>
      rw [parseFrom_choice hn, hasChoice_close, beforeChoice_choice hn]
      simp [HasChoice, reference]

/-! ## Templates -/

/-- Every template is read, with every text of a choice beginning at a boundary between characters.
Of what is read no literal is empty or beside another one and a choice stands last, and so it is in
the branches of the choice.  A template without a backslash before a digit is a text, itself, and
renders to itself without the blanks around it, whatever the groups took.  Any other is no text; its
parts before the first choice spell the text before the first backslash, digit and question mark, and
there is a choice exactly when something follows that text. -/
theorem template_readings (s : String) :
    readInPlace s = some (parse s) ∧ IsNormal (parse s) ∧
      (¬ HasReference s.toList ∧ (parse s).literal? = some s ∧
          (∀ group : Nat → String, (parse s).render group = Text.trim s) ∨
        HasReference s.toList ∧ (parse s).literal? = none ∧
          spelling (parse s) = beforeChoice s.toList ∧
          (HasChoice (parse s) ↔ beforeChoice s.toList ≠ s.toList)) := by
  refine ⟨?_, isNormal_parseFrom [] s.toList, ?_⟩
  · have hread := readFrom_eq s.toList [] ""
    rwa [String.empty_append, String.utf8ByteSize_empty, String.ofList_toList] at hread
  · by_cases hreference : HasReference s.toList
    · right
      exact ⟨hreference, literal?_parseFrom_of_hasReference hreference [],
        spelling_parseFrom [] s.toList, hasChoice_parseFrom_iff [] s.toList⟩
    · left
      refine ⟨hreference, ?_, fun group => ?_⟩
      · rw [parse_of_plain hreference, literal?_close]
        simp [literal?]
      · rw [parse_of_plain hreference, render, renderTokens_close]
        simp [renderTokens]

example : beforeChoice "v\\1.\\2?a:b".toList = "v\\1.".toList := by decide

end Fingerprinting.Wappalyzer.VersionTemplate
