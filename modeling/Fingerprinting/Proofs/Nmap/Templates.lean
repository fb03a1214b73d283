/-
# Templates are filled in in one pass

A dollar sign and a digit refer to a group, and so do a dollar sign, a `P` and a digit in
parentheses.  A template is read from the left: where a reference stands, it is one, and every other
character stands for itself.  `Pass` says what a text becomes when its references are replaced on the
way, without any parts in between.

* `pass_iff` says that filling in the parts of a template is one such pass over its text;
* `isNormal_parseFrom` says that literals are as long as they can be;
* `parse_print_parse` reads a template again from its parts, every reference in its short form;
* `filled_in_one_pass` puts the three together for all templates and matches.
-/
import Fingerprinting.Nmap.Template
import Fingerprinting.Proofs.Text.Numeral

namespace Fingerprinting.Nmap.Template

/-! ## References -/

/-- A text refers to the group with some number. -/
inductive Refers (n : Nat) : List Char → Prop
  | bare (h : n < 10) : Refers n ['$', n.digitChar]
  | wrapped (h : n < 10) : Refers n ['$', 'P', '(', n.digitChar, ')']

/-- A text begins with a reference. -/
def Opens (cs : List Char) : Prop := ∃ n ref, Refers n ref ∧ ref <+: cs

/-- Digits are neither dollar signs nor letters. -/
theorem digitChar_ne : ∀ n < 10, Nat.digitChar n ≠ '$' ∧ Nat.digitChar n ≠ 'P' := by decide

/-- A reference has one dollar sign, its first character. -/
theorem Refers.exists_tail {n : Nat} {ref : List Char} (h : Refers n ref) :
    n < 10 ∧ ∃ tail, ref = '$' :: tail ∧ '$' ∉ tail := by
  cases h with
  | bare h =>
      refine ⟨h, _, rfl, ?_⟩
      simp [(digitChar_ne n h).1.symm]
  | wrapped h =>
      refine ⟨h, _, rfl, ?_⟩
      simp [(digitChar_ne n h).1.symm]

theorem reference?_digit {n : Nat} (h : n < 10) (rest : List Char) :
    reference? (n.digitChar :: rest) = some (n, 1) := by
  have hvalue := (Text.digitValue?_eq_some_iff _ n).mpr ⟨h, rfl⟩
  unfold reference?
  split
  · rename_i heq
    exact absurd (List.cons.inj heq).1 (digitChar_ne n h).2
  · rename_i heq
    obtain ⟨rfl, rfl⟩ := List.cons.inj heq
    rw [hvalue]
    rfl
  · rename_i heq
    cases heq

theorem reference?_wrapped {n : Nat} (h : n < 10) (rest : List Char) :
    reference? ('P' :: '(' :: n.digitChar :: ')' :: rest) = some (n, 4) := by
  rw [reference?, (Text.digitValue?_eq_some_iff _ n).mpr ⟨h, rfl⟩]
  rfl

/-- What is found after a dollar sign makes it a reference. -/
theorem opens_of_reference? {cs : List Char} {found : Nat × Nat} (h : reference? cs = some found) :
    Opens ('$' :: cs) := by
  unfold reference? at h
  split at h
  · obtain ⟨n, hvalue, -⟩ := Option.map_eq_some_iff.mp h
    obtain ⟨hn, rfl⟩ := (Text.digitValue?_eq_some_iff _ n).mp hvalue
    exact ⟨n, _, .wrapped hn, _, rfl⟩
  · obtain ⟨n, hvalue, -⟩ := Option.map_eq_some_iff.mp h
    obtain ⟨hn, rfl⟩ := (Text.digitValue?_eq_some_iff _ n).mp hvalue
    exact ⟨n, _, .bare hn, _, rfl⟩
  · cases h

/-! ## Reading on -/

/-- A reference closes the open literal. -/
theorem Refers.parseFrom_append {n : Nat} {ref : List Char} (h : Refers n ref)
    (literal rest : List Char) :
    parseFrom literal 0 (ref ++ rest) = close literal (.group n :: parseFrom [] 0 rest) := by
  cases h with
  | bare h =>
      rw [List.cons_append, List.cons_append, List.nil_append, parseFrom, if_pos rfl,
        reference?_digit h]
      rfl
  | wrapped h =>
      simp only [List.cons_append, List.nil_append]
      rw [parseFrom, if_pos rfl, reference?_wrapped h]
      rfl

/-- A character that begins no reference is added to the open literal. -/
theorem parseFrom_of_not_opens {c : Char} {rest : List Char} (h : ¬ Opens (c :: rest))
    (literal : List Char) :
    parseFrom literal 0 (c :: rest) = parseFrom (c :: literal) 0 rest := by
  have hnone : (if c = '$' then reference? rest else none) = none := by
    split
    · rename_i hc
      subst hc
      cases hfound : reference? rest with
      | none => rfl
      | some found => exact absurd (opens_of_reference? hfound) h
    · rfl
  rw [parseFrom, hnone]

/-- Induction along the reading of a template: at its end, at a reference, and at any other
character. -/
@[elab_as_elim]
theorem reading {motive : List Char → Prop} (done : motive [])
    (refer : ∀ {n ref rest}, Refers n ref → motive rest → motive (ref ++ rest))
    (keep : ∀ {c rest}, ¬ Opens (c :: rest) → motive rest → motive (c :: rest))
    (cs : List Char) : motive cs := by
  match cs with
  | [] => exact done
  | c :: rest =>
      by_cases h : Opens (c :: rest)
      · obtain ⟨n, ref, href, more, heq⟩ := h
        rw [← heq]
        exact refer href (reading done refer keep more)
      · exact keep h (reading done refer keep rest)
termination_by cs.length
decreasing_by
  · obtain ⟨-, tail, rfl, -⟩ := href.exists_tail
    rw [← heq, List.cons_append, List.length_cons, List.length_append]
    omega
  · exact Nat.lt_succ_self _

/-! ## One pass -/

/-- What a text becomes when it is gone through once from the left: a text is put for every
reference, and every other character is kept. -/
inductive Pass (text : Nat → String) : List Char → List Char → Prop
  | done : Pass text [] []
  | refer {n : Nat} {ref cs out : List Char} (h : Refers n ref) (more : Pass text cs out) :
      Pass text (ref ++ cs) ((text n).toList ++ out)
  | keep {c : Char} {cs out : List Char} (h : ¬ Opens (c :: cs)) (more : Pass text cs out) :
      Pass text (c :: cs) (c :: out)

/-- Every text can be gone through. -/
theorem exists_pass (text : Nat → String) (cs : List Char) : ∃ out, Pass text cs out := by
  induction cs using reading with
  | done => exact ⟨[], .done⟩
  | refer h ih =>
      obtain ⟨out, hout⟩ := ih
      exact ⟨_, .refer h hout⟩
  | keep h ih =>
      obtain ⟨out, hout⟩ := ih
      exact ⟨_, .keep h hout⟩

/-- The characters of the parts of a template, with texts put for the groups. -/
def filled (text : Nat → String) (t : Template) : List Char :=
  t.flatMap fun p => (tokenText text p).toList

theorem filled_group (text : Nat → String) (n : Nat) (t : Template) :
    filled text (.group n :: t) = (text n).toList ++ filled text t := rfl

theorem filled_close (text : Nat → String) (literal : List Char) (t : Template) :
    filled text (close literal t) = literal.reverse ++ filled text t := by
  cases literal with
  | nil => rfl
  | cons c literal => simp [close, filled, tokenText]

/-- The parts that are read of a text are filled in as the text is in one pass. -/
theorem Pass.filled_eq {text : Nat → String} {cs out : List Char} (h : Pass text cs out)
    (literal : List Char) :
    filled text (parseFrom literal 0 cs) = literal.reverse ++ out := by
  induction h generalizing literal with
  | done => exact filled_close text literal []
  | refer h _ ih =>
      rw [h.parseFrom_append, filled_close, filled_group, ih, List.reverse_nil, List.nil_append]
  | keep h _ ih =>
      rw [parseFrom_of_not_opens h, ih, List.reverse_cons, List.append_assoc]
      rfl

/-- One pass over a text has one result, the parts of the template filled in. -/
theorem pass_iff (text : Nat → String) (cs out : List Char) :
    Pass text cs out ↔ out = filled text (parseFrom [] 0 cs) := by
  constructor
  · intro h
    exact (h.filled_eq []).symm
  · rintro rfl
    obtain ⟨out, hout⟩ := exists_pass text cs
    rwa [hout.filled_eq [], List.reverse_nil, List.nil_append]

/-! ## Literals -/

/-- No literal is empty, and none stands directly before another one. -/
structure IsNormal (t : Template) : Prop where
  ne_empty : .literal "" ∉ t
  apart : ∀ before a b after, t ≠ before ++ .literal a :: .literal b :: after

theorem isNormal_nil : IsNormal [] where
  ne_empty := List.not_mem_nil
  apart before _ _ _ h := List.append_ne_nil_of_right_ne_nil before (List.cons_ne_nil _ _) h.symm

theorem IsNormal.group {t : Template} (h : IsNormal t) (n : Nat) : IsNormal (.group n :: t) where
  ne_empty hmem := by
    rcases List.mem_cons.mp hmem with heq | hmem
    · cases heq
    · exact h.ne_empty hmem
  apart before a b after heq := by
    cases before with
    | nil => cases heq
    | cons p before => exact h.apart before a b after (List.cons.inj heq).2

/-- A literal that is closed before anything but a literal. -/
theorem IsNormal.close {t : Template} (h : IsNormal t) (hhead : ∀ a after, t ≠ .literal a :: after)
    (literal : List Char) : IsNormal (close literal t) := by
  cases literal with
  | nil => exact h
  | cons c literal =>
      refine ⟨fun hmem => ?_, fun before a b after heq => ?_⟩
      · rcases List.mem_cons.mp hmem with heq | hmem
        · have hempty : "" = String.ofList (c :: literal).reverse := TemplateToken.literal.inj heq
          rw [← String.toList_inj, String.toList_empty, String.toList_ofList] at hempty
          exact List.reverse_ne_nil_iff.mpr (List.cons_ne_nil c literal) hempty.symm
        · exact h.ne_empty hmem
      · cases before with
        | nil => exact hhead b after (List.cons.inj heq).2
        | cons p before => exact h.apart before a b after (List.cons.inj heq).2

/-- Reading closes a literal at a reference or at the end only. -/
theorem isNormal_parseFrom (literal cs : List Char) : IsNormal (parseFrom literal 0 cs) := by
  induction cs using reading generalizing literal with
  | done => exact isNormal_nil.close (fun _ _ h => nomatch h) literal
  | refer h ih =>
      rw [h.parseFrom_append]
      exact ((ih []).group _).close (fun _ _ heq => nomatch heq) literal
  | keep h ih =>
      rw [parseFrom_of_not_opens h]
      exact ih _

/-! ## Printing -/

/-- A reference in its short form. -/
def bare (n : Nat) : String := String.ofList ['$', n.digitChar]

/-- A template as a text, with every reference in its short form. -/
def print (t : Template) : String := String.ofList (filled bare t)

/-- A character other than the dollar sign stands in the printed text where it stood before. -/
theorem Pass.leads {cs out : List Char} (h : Pass bare cs out) {lead : List Char}
    (hlead : '$' ∉ lead) (hout : lead <+: out) : lead <+: cs := by
  induction lead generalizing cs out with
  | nil => exact List.nil_prefix
  | cons x lead ih =>
      obtain ⟨hx, hrest⟩ := not_or.mp (mt List.mem_cons.mpr hlead)
      cases h with
      | done => exact absurd (List.prefix_nil.mp hout) (List.cons_ne_nil x lead)
      | refer _ _ =>
          rw [bare, String.toList_ofList, List.cons_append, List.cons_prefix_cons] at hout
          exact absurd hout.1.symm hx
      | keep _ more =>
          obtain ⟨rfl, htail⟩ := List.cons_prefix_cons.mp hout
          exact (List.prefix_cons_inj x).mpr (ih more hrest htail)

/-- Printing does not make references of what was none. -/
theorem Pass.not_opens {c : Char} {cs out : List Char} (hpass : Pass bare cs out)
    (h : ¬ Opens (c :: cs)) : ¬ Opens (c :: out) := by
  rintro ⟨n, ref, href, hbegins⟩
  obtain ⟨-, tail, rfl, htail⟩ := href.exists_tail
  obtain ⟨rfl, hout⟩ := List.cons_prefix_cons.mp hbegins
  exact h ⟨n, _, href, (List.prefix_cons_inj '$').mpr (hpass.leads htail hout)⟩

/-- What is printed is read as what was read before. -/
theorem Pass.parseFrom_eq {cs out : List Char} (h : Pass bare cs out) (literal : List Char) :
    parseFrom literal 0 out = parseFrom literal 0 cs := by
  induction h generalizing literal with
  | done => rfl
  | @refer n _ _ _ h _ ih =>
      have hbare : Refers n (bare n).toList := by
        rw [bare, String.toList_ofList]
        exact .bare h.exists_tail.1
      rw [hbare.parseFrom_append, h.parseFrom_append, ih]
  | keep h more ih =>
      rw [parseFrom_of_not_opens (more.not_opens h), parseFrom_of_not_opens h, ih]

/-- A template is the same when it is read again from its parts. -/
theorem parse_print_parse (s : String) : parse (print (parse s)) = parse s := by
  have hpass := (pass_iff bare s.toList _).mpr rfl
  rw [print, parse, parse, String.toList_ofList]
  exact hpass.parseFrom_eq []

/-! ## Templates -/

/-- For every template and every match, rendering gives what one pass over the text of the template
gives, without carriage returns and line feeds: the lossy text of a group, or nothing when the group
took no part, is put for each reference, and every other character is kept.  The pass has one result.
Literals are never empty and never beside each other, and the parts are read again from the text that
has them with every reference in its short form. -/
theorem filled_in_one_pass (s : String) :
    (∀ c : Regex.Captures, ∃ out : List Char,
        (∀ out', Pass (fun n => ((c.group? n).map Utf8.lossy).getD "") s.toList out' ↔ out' = out) ∧
          (parse s).render c.text = String.ofList (out.filter fun x => x ≠ '\r' ∧ x ≠ '\n')) ∧
      (.literal "" ∉ parse s ∧
        ∀ before a b after, parse s ≠ before ++ .literal a :: .literal b :: after) ∧
      parse (print (parse s)) = parse s := by
  refine ⟨fun c => ⟨filled c.text (parse s), fun out' => ?_, ?_⟩, ?_, parse_print_parse s⟩
  · have htext : (fun n => ((c.group? n).map Utf8.lossy).getD "") = c.text := by
      funext n
      unfold Regex.Captures.text
      cases c.group? n <;> rfl
    rw [htext]
    exact pass_iff c.text s.toList out'
  · have hkept : (fun x => !isLineBreak x) = fun x : Char => decide (x ≠ '\r' ∧ x ≠ '\n') := by
      funext x
      by_cases hfeed : x = '\n' <;> by_cases hreturn : x = '\r' <;> simp [isLineBreak, *]
    rw [render, hkept]
    rfl
  · exact ⟨(isNormal_parseFrom [] s.toList).ne_empty, (isNormal_parseFrom [] s.toList).apart⟩

example : parse "$P(1)0 $x" = [.group 1, .literal "0 $x"] ∧ print (parse "$P(1)0 $x") = "$10 $x" := by
  decide

end Fingerprinting.Nmap.Template
