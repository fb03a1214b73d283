/-
# A pattern in a group

The reader of patterns goes through a pattern in a group as it goes through the pattern on its own,
up to the parenthesis that closes the group.  An item may stand before the group, where on its own
the pattern begins with it; and an anchor may stand behind the group, where on its own the pattern
ends with it.

* `Token` is what one step of the reader takes, and `Place.act` what it does about it;
* `Beside` relates where the reader stands inside the group and on its own, and `Beside.act` says
  that a step keeps it;
* `run_beside` says what has been read in the end.
-/
import Fingerprinting.Proofs.Regex.Classes
import Fingerprinting.Proofs.Regex.Groups

namespace Fingerprinting.Regex

variable {tail : List Char}

/-! ## Tokens -/

/-- What one step of the reader of patterns takes. -/
inductive Token where
  | opening (o : Opening)
  | close
  | branch
  | item (p : Pattern)
  | repetition (least : Nat) (most : Option Nat) (greedy : Bool)

/-- A repetition with its greed. -/
def readGreed (least : Nat) (most : Option Nat) (cs : List Char) :
    Except PatternError (Token × List Char) :=
  .ok (.repetition least most (takeGreed cs).1, (takeGreed cs).2)

/-- The token that begins with a character. -/
def readToken (extended : Bool) (names : List String) (c : Char) :
    List Char → Except PatternError (Token × List Char) :=
  match c with
  | '(' => fun rest => readOpening extended names rest >>= fun r => .ok (.opening r.1, r.2)
  | ')' => fun rest => .ok (.close, rest)
  | '|' => fun rest => .ok (.branch, rest)
  | '[' => fun rest => readClass extended rest >>= fun r => .ok (.item r.1, r.2)
  | '?' => readGreed 0 (some 1)
  | '*' => readGreed 0 none
  | '+' => readGreed 1 none
  | '\x7b' => fun rest =>
      readCounts extended rest >>= fun r => readGreed r.1.1 r.1.2 (skip extended r.2)
  | '\\' => fun rest => readEscape extended rest >>= fun r => .ok (.item r.1.toPattern, r.2)
  | '.' => fun rest => .ok (.item .dot, rest)
  | '^' => fun rest => .ok (.item (.anchor .lineStart), rest)
  | '$' => fun rest => .ok (.item (.anchor .lineEnd), rest)
  | c => fun rest => .ok (.item (.literal (.plain c)), rest)

/-- What the reader does about a token. -/
def Place.act (s : Place) : Token → Except PatternError Place
  | .opening o => .ok (s.enter o)
  | .close => s.leave
  | .branch => .ok s.branch
  | .item p => .ok (s.add p)
  | .repetition least most greedy => s.iterate least most greedy

theorem readGreed_reads (htail : IsTail tail) (least : Nat) (most : Option Nat) :
    Reads tail (readGreed least most) :=
  fun cs => (takeGreed_reads htail cs).map fun greedy => Token.repetition least most greedy

theorem readToken_reads (htail : IsTail tail) (extended : Bool) (names : List String) (c : Char) :
    Reads tail (readToken extended names c) := by
  unfold readToken
  split
  · exact fun cs => (readOpening_reads htail extended names cs).map Token.opening
  · exact Reads.done _
  · exact Reads.done _
  · exact fun cs => (readClass_reads htail extended cs).map Token.item
  · exact readGreed_reads htail 0 (some 1)
  · exact readGreed_reads htail 0 none
  · exact readGreed_reads htail 1 none
  · exact fun cs => (readCounts_reads htail extended cs).bind fun counts rest _ =>
      (readGreed_reads htail counts.1 counts.2 _).skip htail
  · exact fun cs => (readEscape_reads htail extended cs).map fun a => Token.item a.toPattern
  · exact Reads.done _
  · exact Reads.done _
  · exact Reads.done _
  · exact Reads.done _

theorem repeated_ok {s s' : Place} {least : Nat} {most : Option Nat} {cs rest : List Char}
    (h : Place.step.repeated s least most cs = .ok (s', rest)) :
    ∃ t, readGreed least most cs = .ok (t, rest) ∧ s.act t = .ok s' := by
  obtain ⟨s₁, hiterate, hok⟩ := (Results.bind_eq_ok_iff _ _ _).mp h
  cases hok
  exact ⟨_, rfl, hiterate⟩

/-- A step takes a token and acts on it. -/
theorem step_ok {s s' : Place} {c : Char} {cs rest : List Char}
    (h : s.step c cs = .ok (s', rest)) :
    ∃ t, readToken s.extended s.names c cs = .ok (t, rest) ∧ s.act t = .ok s' := by
  unfold Place.step at h
  split at h
  · obtain ⟨⟨opening, after⟩, hopening, hok⟩ := (Results.bind_eq_ok_iff _ _ _).mp h
    cases hok
    exact ⟨.opening opening, (Results.bind_eq_ok_iff _ _ _).mpr ⟨_, hopening, rfl⟩, rfl⟩
  · obtain ⟨s₁, hleave, hok⟩ := (Results.bind_eq_ok_iff _ _ _).mp h
    cases hok
    exact ⟨.close, rfl, hleave⟩
  · cases h
    exact ⟨.branch, rfl, rfl⟩
  · obtain ⟨⟨p, after⟩, hclass, hok⟩ := (Results.bind_eq_ok_iff _ _ _).mp h
    cases hok
    exact ⟨.item p, (Results.bind_eq_ok_iff _ _ _).mpr ⟨_, hclass, rfl⟩, rfl⟩
  · exact repeated_ok h
  · exact repeated_ok h
  · exact repeated_ok h
  · split at h
    · cases h
    · obtain ⟨⟨⟨least, most⟩, after⟩, hcounts, hok⟩ := (Results.bind_eq_ok_iff _ _ _).mp h
      obtain ⟨t, hgreed, hact⟩ := repeated_ok hok
      exact ⟨t, (Results.bind_eq_ok_iff _ _ _).mpr ⟨_, hcounts, hgreed⟩, hact⟩
  · obtain ⟨⟨a, after⟩, hescape, hok⟩ := (Results.bind_eq_ok_iff _ _ _).mp h
    cases hok
    exact ⟨.item a.toPattern, (Results.bind_eq_ok_iff _ _ _).mpr ⟨_, hescape, rfl⟩, rfl⟩
  · cases h
    exact ⟨.item .dot, rfl, rfl⟩
  · cases h
    exact ⟨.item (.anchor .lineStart), rfl, rfl⟩
  · cases h
    exact ⟨.item (.anchor .lineEnd), rfl, rfl⟩
  · cases h
    exact ⟨.item (.literal (.plain c)), by simp only [readToken], rfl⟩

/-- Only a closing parenthesis closes a group. -/
theorem readToken_ne_close {extended : Bool} {names : List String} {c : Char} (hc : c ≠ ')')
    {cs rest : List Char} {t : Token} (h : readToken extended names c cs = .ok (t, rest)) :
    t ≠ .close := by
  rintro rfl
  unfold readToken at h
  split at h
  · obtain ⟨r, -, hok⟩ := (Results.bind_eq_ok_iff _ _ _).mp h
    cases hok
  · exact hc rfl
  · cases h
  · obtain ⟨r, -, hok⟩ := (Results.bind_eq_ok_iff _ _ _).mp h
    cases hok
  · cases h
  · cases h
  · cases h
  · obtain ⟨r, -, hok⟩ := (Results.bind_eq_ok_iff _ _ _).mp h
    cases hok
  · obtain ⟨r, -, hok⟩ := (Results.bind_eq_ok_iff _ _ _).mp h
    cases hok
  · cases h
  · cases h
  · cases h
  · cases h

/-! ## Places -/

/-- A repetition replaces the last item. -/
theorem iterate_ok {s s₁ : Place} {least : Nat} {most : Option Nat} {greedy : Bool}
    (h : s.iterate least most greedy = .ok s₁) :
    ∃ p items, s.items = p :: items ∧
      s₁ = { s with items := .iterate least most greedy p :: items } := by
  unfold Place.iterate at h
  split at h
  · cases h
  · cases h
  · cases h
  · rename_i p items _ _ hitems
    cases h
    exact ⟨p, items, hitems, rfl⟩

/-- A group goes on while the token does not close it. -/
theorem act_groups_ne_nil {s s' : Place} {t : Token} (ht : t ≠ .close) (hs : s.groups ≠ [])
    (h : s.act t = .ok s') : s'.groups ≠ [] := by
  cases t with
  | close => exact absurd rfl ht
  | opening o =>
      cases h
      cases o with
      | flags change => exact hs
      | scope change => exact List.cons_ne_nil _ _
      | capture name => exact List.cons_ne_nil _ _
  | branch =>
      cases h
      exact hs
  | item p =>
      cases h
      exact hs
  | repetition least most greedy =>
      obtain ⟨p, items, -, rfl⟩ := iterate_ok h
      exact hs

/-- The branches and items of a group, in reverse, where its first branch begins with `lead` and
where it does not. -/
def Leads (lead branches items branches' items' : List Pattern) : Prop :=
  (branches = [] ∧ branches' = [] ∧ items' = items ++ lead) ∨
    ∃ later first, branches = later ++ [.ofSequence first] ∧
      branches' = later ++ [.ofSequence (lead.reverse ++ first)] ∧ items' = items

theorem Leads.push {lead branches items branches' items' : List Pattern}
    (h : Leads lead branches items branches' items') (p : Pattern) :
    Leads lead branches (p :: items) branches' (p :: items') := by
  rcases h with ⟨hb, hb', rfl⟩ | ⟨later, first, hb, hb', rfl⟩
  · exact .inl ⟨hb, hb', rfl⟩
  · exact .inr ⟨later, first, hb, hb', rfl⟩

theorem Leads.branch {lead branches items branches' items' : List Pattern}
    (h : Leads lead branches items branches' items') :
    Leads lead (.ofSequence items.reverse :: branches) []
      (.ofSequence items'.reverse :: branches') [] := by
  rcases h with ⟨rfl, rfl, rfl⟩ | ⟨later, first, rfl, rfl, rfl⟩
  · exact .inr ⟨[], items.reverse, rfl, by rw [List.reverse_append]; rfl, rfl⟩
  · exact .inr ⟨.ofSequence items'.reverse :: later, first, rfl, rfl, rfl⟩

/-- The groups, branches and items of a reader inside a group, and of one that reads the same on
its own: the groups opened since are the same, and the branches and items around them differ by what
leads them. -/
def Enclosed (lead : List Pattern) (outer : OpenGroup) (s s' : Place) : Prop :=
  (s.groups = [outer] ∧ s'.groups = [] ∧ Leads lead s.branches s.items s'.branches s'.items) ∨
    ∃ inner g g', s.groups = inner ++ [g, outer] ∧ s'.groups = inner ++ [g'] ∧
      g'.kind = g.kind ∧ g'.extended = g.extended ∧
      Leads lead g.branches g.items g'.branches g'.items ∧
      s'.branches = s.branches ∧ s'.items = s.items

/-- Where the reader stands inside a group, and where it stands when it reads the same on its own.
-/
structure Beside (lead : List Pattern) (outer : OpenGroup) (s s' : Place) : Prop where
  extended_eq : s'.extended = s.extended
  captures_eq : s'.captures = s.captures
  names_eq : s'.names = s.names
  enclosed : Enclosed lead outer s s'

variable {lead : List Pattern} {outer : OpenGroup} {s s' s₁ s₁' : Place}

theorem Enclosed.groups_ne_nil (h : Enclosed lead outer s s') : s.groups ≠ [] := by
  rcases h with ⟨hs, -⟩ | ⟨inner, g, g', hs, -⟩
  · exact hs ▸ List.cons_ne_nil _ _
  · exact hs ▸ List.append_ne_nil_of_right_ne_nil _ (List.cons_ne_nil _ _)

/-- An item is added on both sides. -/
theorem Enclosed.push (h : Enclosed lead outer s s') (p : Pattern) :
    Enclosed lead outer { s with items := p :: s.items } { s' with items := p :: s'.items } := by
  rcases h with ⟨hg, hg', hleads⟩ | ⟨inner, g, g', hg, hg', hk, he, hleads, hb, hi⟩
  · exact .inl ⟨hg, hg', hleads.push p⟩
  · exact .inr ⟨inner, g, g', hg, hg', hk, he, hleads, hb, congrArg (p :: ·) hi⟩

theorem Enclosed.branch (h : Enclosed lead outer s s') :
    Enclosed lead outer s.branch s'.branch := by
  rcases h with ⟨hg, hg', hleads⟩ | ⟨inner, g, g', hg, hg', hk, he, hleads, hb, hi⟩
  · exact .inl ⟨hg, hg', hleads.branch⟩
  · refine .inr ⟨inner, g, g', hg, hg', hk, he, hleads, ?_, rfl⟩
    simp only [Place.branch, hb, hi]

/-- A group is opened on both sides. -/
theorem Enclosed.open (h : Enclosed lead outer s s') (hextended : s'.extended = s.extended)
    (kind : GroupKind) :
    Enclosed lead outer
      { s with
        branches := [], items := []
        groups := ⟨kind, s.branches, s.items, s.extended⟩ :: s.groups }
      { s' with
        branches := [], items := []
        groups := ⟨kind, s'.branches, s'.items, s'.extended⟩ :: s'.groups } := by
  rcases h with ⟨hg, hg', hleads⟩ | ⟨inner, g, g', hg, hg', hk, he, hleads, hb, hi⟩
  · exact .inr ⟨[], ⟨kind, s.branches, s.items, s.extended⟩,
      ⟨kind, s'.branches, s'.items, s'.extended⟩, congrArg _ hg, congrArg _ hg', rfl, hextended,
      hleads, rfl, rfl⟩
  · refine .inr ⟨⟨kind, s.branches, s.items, s.extended⟩ :: inner, g, g', congrArg _ hg, ?_, hk, he,
      hleads, rfl, rfl⟩
    simp only [hb, hi, hextended, hg', List.cons_append]

/-- The contents of a group depend on its branches and items. -/
theorem contents_congr (hb : s'.branches = s.branches) (hi : s'.items = s.items) :
    s'.contents = s.contents := by
  rw [Place.contents, Place.contents, hb, hi]

/-- The last item is changed on both sides. -/
theorem Enclosed.modify (h : Enclosed lead outer s s') {p p' : Pattern}
    {items items' : List Pattern} (hs : s.items = p :: items) (hs' : s'.items = p' :: items') (f : Pattern → Pattern) :
    Enclosed lead outer { s with items := f p :: items } { s' with items := f p' :: items' } := by
  rcases h with ⟨hg, hg', hleads⟩ | ⟨inner, g, g', hg, hg', hk, he, hleads, hb, hi⟩
  · rw [hs, hs'] at hleads
    rcases hleads with ⟨hb, hb', hi⟩ | ⟨later, first, hb, hb', hi⟩
    · cases hi
      exact .inl ⟨hg, hg', .inl ⟨hb, hb', rfl⟩⟩
    · cases hi
      exact .inl ⟨hg, hg', .inr ⟨later, first, hb, hb', rfl⟩⟩
  · rw [hs, hs'] at hi
    cases hi
    exact .inr ⟨inner, g, g', hg, hg', hk, he, hleads, hb, rfl⟩

/-- A group is closed on both sides, unless it is the one around the pattern. -/
theorem Beside.leave (h : Beside lead outer s s') (hs : s.leave = .ok s₁)
    (hs' : s'.leave = .ok s₁') : Beside lead outer s₁ s₁' := by
  obtain ⟨-, hcaptures, hnames, henclosed⟩ := h
  rcases henclosed with ⟨-, hg', -⟩ | ⟨inner, g, g', hg, hg', hk, he, hleads, hb, hi⟩
  · rw [Place.leave, hg'] at hs'
    cases hs'
  · have hcontents := contents_congr hb hi
    cases inner with
    | nil =>
        rw [Place.leave, hg] at hs
        rw [Place.leave, hg'] at hs'
        cases hs
        cases hs'
        refine ⟨he, hcaptures, hnames, .inl ⟨rfl, rfl, ?_⟩⟩
        simp only [hk, hcontents]
        exact hleads.push _
    | cons top inner =>
        rw [Place.leave, hg] at hs
        rw [Place.leave, hg'] at hs'
        cases hs
        cases hs'
        exact ⟨rfl, hcaptures, hnames, .inr ⟨inner, g, g', rfl, rfl, hk, he, hleads, rfl,
          by rw [hcontents]⟩⟩

/-- A step keeps the two places beside each other. -/
theorem Beside.act {t : Token} (h : Beside lead outer s s') (hs : s.act t = .ok s₁)
    (hs' : s'.act t = .ok s₁') : Beside lead outer s₁ s₁' := by
  obtain ⟨hextended, hcaptures, hnames, henclosed⟩ := h
  cases t with
  | opening o =>
      cases hs
      cases hs'
      cases o with
      | flags change =>
          exact ⟨by simp only [Place.enter, hextended], hcaptures, hnames,
            henclosed.push (.flags change)⟩
      | scope change =>
          exact ⟨by simp only [Place.enter, hextended], hcaptures, hnames,
            henclosed.open hextended (.scope change)⟩
      | capture name =>
          have hopen := henclosed.open hextended (.capture (s.captures + 1))
          refine ⟨hextended, by simp only [Place.enter, hcaptures],
            by simp only [Place.enter, hnames], ?_⟩
          simp only [Place.enter, hcaptures]
          exact hopen
  | close => exact Beside.leave ⟨hextended, hcaptures, hnames, henclosed⟩ hs hs'
  | branch =>
      cases hs
      cases hs'
      exact ⟨hextended, hcaptures, hnames, henclosed.branch⟩
  | item p =>
      cases hs
      cases hs'
      exact ⟨hextended, hcaptures, hnames, henclosed.push p⟩
  | repetition least most greedy =>
      obtain ⟨p, items, hitems, rfl⟩ := iterate_ok hs
      obtain ⟨p', items', hitems', rfl⟩ := iterate_ok hs'
      exact ⟨hextended, hcaptures, hnames, henclosed.modify hitems hitems' _⟩

/-! ## Runs -/

/-- The pattern of some branches and of the items of the last one, both in reverse. -/
def contentsOf (branches items : List Pattern) : Pattern :=
  .ofBranches ((.ofSequence items.reverse :: branches).reverse)

/-- The items that characters for an anchor stand for. -/
def anchors (a : Anchor) (cs : List Char) : List Pattern := cs.map fun _ => .anchor a

theorem IsTail.of_suffix {rest : List Char} (htail : IsTail tail) (h : rest <:+ tail) :
    IsTail rest := by
  rcases htail with rfl | rfl
  · exact .inl (List.suffix_nil.mp h)
  · rcases List.suffix_cons_iff.mp h with rfl | h
    · exact .inr rfl
    · exact .inl (List.suffix_nil.mp h)

theorem run_of_nil {bound : Nat} {cs : List Char} {p : Pattern} (hcs : skip s.extended cs = [])
    (h : s.run bound cs = .ok p) : s.groups = [] ∧ p = s.contents := by
  have hend : (if s.groups.isEmpty then .ok s.contents else .error .groupUnclosed) =
      (.ok p : Except PatternError Pattern) := by
    rw [Place.run.eq_def, hcs] at h
    cases bound <;> exact h
  by_cases hempty : s.groups.isEmpty = true
  · rw [if_pos hempty] at hend
    exact ⟨List.isEmpty_iff.mp hempty, (Except.ok.inj hend).symm⟩
  · rw [if_neg hempty] at hend
    cases hend

theorem run_of_cons {bound : Nat} {c : Char} {cs rest : List Char} {p : Pattern}
    (hcs : skip s.extended cs = c :: rest) (h : s.run bound cs = .ok p) :
    ∃ bound₁ s₁ rest₁, s.step c rest = .ok (s₁, rest₁) ∧ bound = bound₁ + 1 ∧
      s₁.run bound₁ rest₁ = .ok p := by
  unfold Place.run at h
  rw [hcs] at h
  split at h
  · rename_i heq
    cases heq
  · cases h
  · rename_i heq
    cases heq
    obtain ⟨⟨s₁, rest₁⟩, hstep, hrun⟩ := (Results.bind_eq_ok_iff _ _ _).mp h
    exact ⟨_, s₁, rest₁, hstep, rfl, hrun⟩

theorem IsTail.skip (htail : IsTail tail) (extended : Bool) : Regex.skip extended tail = tail := by
  rcases htail with rfl | rfl <;> cases extended <;> rfl

/-- What follows the group is read to the end when no group is open. -/
theorem run_tail (htail : IsTail tail) {bound : Nat} {cs : List Char} {p : Pattern}
    (hcs : skip s.extended cs = tail) (h : s.run bound cs = .ok p) :
    s.groups = [] ∧ p = contentsOf s.branches (anchors .lineEnd tail ++ s.items) := by
  rcases htail with rfl | rfl
  · exact run_of_nil hcs h
  · obtain ⟨bound, s₁, rest, hstep, rfl, hrun⟩ := run_of_cons hcs h
    cases hstep
    exact run_of_nil (IsTail.skip (.inl rfl) _) hrun

/-- While the group is open, what has been taken ends before the parenthesis that closes it: behind
that nothing would close the group. -/
theorem exists_rest_of_run (htail : IsTail tail) {bound : Nat} {v w rest : List Char} {p : Pattern}
    (hw : v ++ ')' :: tail = w ++ rest) (hgroups : s.groups ≠ []) (hrun : s.run bound rest = .ok p) :
    ∃ v₁, v = w ++ v₁ ∧ rest = v₁ ++ ')' :: tail := by
  rcases List.append_eq_append_iff.mp hw with ⟨w', rfl, hrest⟩ | ⟨v₁, rfl, hrest⟩
  · cases w' with
    | nil => exact ⟨[], by rw [List.append_nil, List.append_nil], hrest.symm⟩
    | cons d w' =>
        have hsuffix : rest <:+ tail := ⟨w', (List.cons.inj hrest).2.symm⟩
        have hend := htail.of_suffix hsuffix
        exact absurd (run_tail hend (hend.skip _) hrun).1 hgroups
  · exact ⟨v₁, rfl, hrest⟩

/-- Anchors for the start are read as such. -/
theorem run_start {start rest : List Char} {bound : Nat} {p : Pattern}
    (hstart : start = [] ∨ start = ['^']) (h : s.run bound (start ++ rest) = .ok p) :
    ∃ bound', Place.run bound' { s with items := anchors .lineStart start ++ s.items } rest =
      .ok p := by
  rcases hstart with rfl | rfl
  · exact ⟨bound, h⟩
  · obtain ⟨bound, s₁, rest₁, hstep, rfl, hrun⟩ := run_of_cons (by cases s.extended <;> rfl) h
    cases hstep
    exact ⟨bound, hrun⟩

/-- A reader inside a group and one that reads the same on its own come to the same branches and
items, up to what leads them. -/
theorem run_beside (htail : IsTail tail) {bound bound' : Nat} {v : List Char} {p p' : Pattern}
    (h : Beside lead outer s s') (hp : s.run bound (v ++ ')' :: tail) = .ok p)
    (hp' : s'.run bound' (v ++ tail) = .ok p') :
    ∃ branches items branches' items', Leads lead branches items branches' items' ∧
      p = contentsOf outer.branches
        (anchors .lineEnd tail ++ .group outer.kind (contentsOf branches items) :: outer.items) ∧
      p' = contentsOf branches' (anchors .lineEnd tail ++ items') := by
  -- Every step uses up one of the bound; `Beside` is what a step keeps.
  induction bound using Nat.strongRecOn generalizing s s' v bound' with
  | _ bound ih =>
      rcases skip_beside htail s.extended v with ⟨hcs, -⟩ | ⟨v', hcs, hcs'⟩
      · exact absurd (run_of_nil hcs hp).1 h.enclosed.groups_ne_nil
      rw [← h.extended_eq] at hcs'
      cases v' with
      | nil =>
          -- The parenthesis closes the group around the pattern, if it is the only one open.
          obtain ⟨hgroups', rfl⟩ := run_tail htail hcs' hp'
          obtain ⟨_, s₁, rest, hstep, rfl, hrun⟩ := run_of_cons hcs hp
          obtain ⟨_, hleave, hok⟩ := (Results.bind_eq_ok_iff _ _ _).mp hstep
          cases hok
          rcases h.enclosed with ⟨hg, -, hleads⟩ | ⟨inner, g, g', -, hg', -⟩
          · rw [Place.leave, hg] at hleave
            cases hleave
            exact ⟨s.branches, s.items, s'.branches, s'.items, hleads,
              (run_tail htail (htail.skip _) hrun).2, rfl⟩
          · exact absurd (hg'.symm.trans hgroups') (by simp)
      | cons c v' =>
          rw [List.cons_append] at hcs hcs'
          obtain ⟨bound₁, s₁, rest, hstep, rfl, hrun⟩ := run_of_cons hcs hp
          obtain ⟨bound₁', s₁', rest', hstep', rfl, hrun'⟩ := run_of_cons hcs' hp'
          by_cases hc : c = ')'
          · subst hc
            obtain ⟨_, hleave, hok⟩ := (Results.bind_eq_ok_iff _ _ _).mp hstep
            obtain ⟨_, hleave', hok'⟩ := (Results.bind_eq_ok_iff _ _ _).mp hstep'
            cases hok
            cases hok'
            exact ih bound₁ (Nat.lt_succ_self _) (h.leave hleave hleave') hrun hrun'
          obtain ⟨t, hread, hact⟩ := step_ok hstep
          obtain ⟨t', hread', hact'⟩ := step_ok hstep'
          rw [h.extended_eq, h.names_eq] at hread'
          obtain ⟨w, hw, hsame⟩ := readToken_reads htail s.extended s.names c _ t rest hread
          have hgroups := act_groups_ne_nil (readToken_ne_close hc hread) h.enclosed.groups_ne_nil
            hact
          obtain ⟨v₁, rfl, hrest⟩ := exists_rest_of_run htail hw hgroups hrun
          cases hsame v₁ _ hrest (by rw [← List.append_assoc]; exact hread')
          exact ih bound₁ (Nat.lt_succ_self _) (h.act hact hact') (hrest ▸ hrun) hrun'

theorem parse_ok {text : String} {p : Pattern} (h : Pattern.parse text = .ok p) :
    Place.run text.toList.length ⟨false, [], [], [], 0, []⟩ text.toList = .ok p := by
  obtain ⟨p', hrun, hheight⟩ := (Results.bind_eq_ok_iff _ _ _).mp h
  split at hheight
  · cases hheight
    exact hrun
  · cases hheight

end Fingerprinting.Regex
