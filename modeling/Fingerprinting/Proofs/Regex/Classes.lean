/-
# What bracketed classes take

A class is read in moves: one opens or closes a bracket, takes an item or goes over to the right
side of an operation.  Each move looks a little ahead, and still what a class takes ends with its
closing bracket.

* `classMove_reads` is about one move;
* `readClass_reads` is about whole classes.
-/
import Fingerprinting.Proofs.Regex.Escapes
import Mathlib.Data.List.TakeWhile

namespace Fingerprinting.Regex

variable {α : Type} {tail : List Char}

/-! ## The beginning of a class -/

/-- A text that must not end here. -/
def atMore (a : α) (e : PatternError) : List Char → Except PatternError (α × List Char)
  | [] => .error e
  | cs => .ok (a, cs)

theorem atMore_reads (a : α) (e : PatternError) : Reads tail (atMore a e) := by
  intro cs
  cases cs with
  | nil => exact .fail rfl
  | cons c cs =>
      refine .stay rfl fun u r _ hr => ?_
      cases u with
      | nil => cases hr
      | cons d u => exact (Except.ok.inj hr).symm

/-- What follows the leading hyphens of a class. -/
def afterHyphens (extended negated : Bool) (o : Operand) (cs : List Char) :
    Except PatternError (OpenClass × List Char) :=
  match o.items with
  | .nothing =>
      if cs.head? = some ']' then
        atMore ⟨negated, o.add (.range (.plain ']') (.plain ']'))⟩ .classUnclosed
          (skip extended cs.tail)
      else atMore ⟨negated, o⟩ .classUnclosed cs
  | _ => atMore ⟨negated, o⟩ .classUnclosed cs

theorem afterHyphens_reads (htail : IsTail tail) (extended negated : Bool) (o : Operand) :
    Reads tail (afterHyphens extended negated o) := by
  unfold afterHyphens
  split
  · exact .orElse htail (d := ']') (by decide) (fun _ => rfl) (fun _ hu => if_neg hu)
      (fun _ => (atMore_reads _ _ _).skip htail) (atMore_reads _ _)
  · exact atMore_reads _ _

/-- An operand with a hyphen. -/
def Operand.addHyphen (o : Operand) : Operand := o.add (.range (.plain '-') (.plain '-'))

theorem hyphens_cons (extended : Bool) (bound : Nat) (negated : Bool) (o : Operand)
    (cs : List Char) :
    openClass.hyphens extended (bound + 1) negated o ('-' :: cs) =
      openClass.hyphens extended bound negated o.addHyphen (skip extended cs) := rfl

theorem hyphens_of_ne {extended : Bool} {bound : Nat} {negated : Bool} {o : Operand}
    {cs : List Char} (h : cs.head? ≠ some '-') :
    openClass.hyphens extended bound negated o cs = afterHyphens extended negated o cs := by
  cases cs with
  | nil =>
      rw [openClass.hyphens, afterHyphens]
      split <;> rfl
  | cons c cs =>
      obtain ⟨items, pending⟩ := o
      rw [openClass.hyphens, afterHyphens]
      · cases items with
        | nothing =>
            by_cases hbracket : c = ']'
            · refine (if_pos hbracket).trans (Eq.trans ?_ (if_pos (congrArg some hbracket)).symm)
              change _ = atMore _ _ (skip extended cs)
              cases skip extended cs <;> rfl
            · exact (if_neg hbracket).trans
                (if_neg fun hc => hbracket (Option.some.inj hc)).symm
        | _ => rfl
      · exact fun _ _ hc => h (congrArg some hc)

/-- The leading hyphens of a class, as many as there are, and what follows them. -/
def readHyphens (extended negated : Bool) (o : Operand) (cs : List Char) :
    Except PatternError (OpenClass × List Char) :=
  openClass.hyphens extended cs.length negated o cs

/-- The bound on the hyphens does not matter when it is the length of the text or more. -/
theorem hyphens_congr {extended : Bool} {bound bound' : Nat} {negated : Bool} {o : Operand}
    {cs : List Char} (h : cs.length ≤ bound) (h' : cs.length ≤ bound') :
    openClass.hyphens extended bound negated o cs =
      openClass.hyphens extended bound' negated o cs := by
  induction bound generalizing bound' o cs with
  | zero =>
      cases List.eq_nil_of_length_eq_zero (Nat.le_zero.mp h)
      simp only [openClass.hyphens]
  | succ bound ih =>
      by_cases hhyphen : cs.head? = some '-'
      · obtain ⟨cs, rfl⟩ := List.head?_eq_some_iff.mp hhyphen
        cases bound' with
        | zero => cases h'
        | succ bound' =>
            have hskip := length_skip_le extended cs
            rw [hyphens_cons, hyphens_cons]
            exact ih (Nat.le_trans hskip (Nat.le_of_succ_le_succ h))
              (Nat.le_trans hskip (Nat.le_of_succ_le_succ h'))
      · rw [hyphens_of_ne hhyphen, hyphens_of_ne hhyphen]

theorem readHyphens_cons (extended negated : Bool) (o : Operand) (cs : List Char) :
    readHyphens extended negated o ('-' :: cs) =
      readHyphens extended negated o.addHyphen (skip extended cs) :=
  hyphens_congr (length_skip_le extended cs) (Nat.le_refl _)

theorem readHyphens_reads (htail : IsTail tail) (extended negated : Bool) (o : Operand) :
    Reads tail (readHyphens extended negated o) := by
  intro cs
  induction hlen : cs.length using Nat.strongRecOn generalizing o cs with
  | _ n ih =>
      by_cases hhyphen : cs.head? = some '-'
      · obtain ⟨cs, rfl⟩ := List.head?_eq_some_iff.mp hhyphen
        have hlt : (skip extended cs).length < n := by
          rw [← hlen]
          exact Nat.lt_succ_of_le (length_skip_le ..)
        refine .head ?_
        simp only [readHyphens_cons]
        exact (ih _ hlt o.addHyphen _ rfl).skip htail
      · exact .alike (p := (· ≠ some '-')) (fun u hu => hyphens_of_ne hu) hhyphen
          (htail.head?_ne (by decide)) (afterHyphens_reads htail extended negated o cs)

/-- What follows the bracket that opens a class. -/
def afterBracket (extended : Bool) (cs : List Char) : Except PatternError (OpenClass × List Char) :=
  if cs.head? = some '^' then readHyphens extended true .start (skip extended cs.tail)
  else readHyphens extended false .start cs

theorem openClass_eq (extended : Bool) (cs : List Char) :
    openClass extended cs = afterBracket extended (skip extended cs) := by
  unfold openClass
  generalize skip extended cs = cs
  split
  · rfl
  · rename_i rest
    change _ = readHyphens extended true .start (skip extended rest)
    cases skip extended rest <;> rfl
  · rename_i hcaret
    exact (if_neg (head?_ne_of_forall hcaret)).symm

theorem openClass_reads (htail : IsTail tail) (extended : Bool) :
    Reads tail (openClass extended) := by
  have hbracket : Reads tail (afterBracket extended) :=
    .orElse htail (d := '^') (by decide) (fun _ => rfl) (fun _ hu => if_neg hu)
      (fun _ => (readHyphens_reads htail extended true .start _).skip htail)
      (readHyphens_reads htail extended false .start)
  rw [funext (openClass_eq extended)]
  exact fun cs => (hbracket _).skip htail

/-! ## Items -/

theorem readClassAtom_of_ne {extended : Bool} {c : Char} (hc : c ≠ '\\') (cs : List Char) :
    readClassAtom extended (c :: cs) = .ok (.literal (.plain c), cs) := by
  rw [readClassAtom]
  exact hc

/-- An item takes one character, and more when that is a backslash. -/
theorem readClassAtom_cons_reads (htail : IsTail tail) (extended : Bool) (c : Char) :
    Reads tail fun u => readClassAtom extended (c :: u) := by
  by_cases hc : c = '\\'
  · subst hc
    exact readEscape_reads htail extended
  · simp only [readClassAtom_of_ne hc]
    exact Reads.done _

theorem readClassAtom_reads (htail : IsTail tail) (extended : Bool) :
    Reads tail (readClassAtom extended) := by
  intro cs
  cases cs with
  | nil => exact .fail rfl
  | cons c cs => exact .head (readClassAtom_cons_reads htail extended c cs)

theorem hyphenStands_eq (extended : Bool) (cs : List Char) :
    hyphenStands extended cs = (skip extended cs).head?.any fun c => c = ']' || c = '-' := by
  unfold hyphenStands
  generalize skip extended cs = cs
  split
  · rfl
  · rfl
  · rename_i hbracket hhyphen
    cases cs with
    | nil => rfl
    | cons c cs =>
        have hc : c ≠ ']' := fun hc => hbracket cs (hc ▸ rfl)
        have hc' : c ≠ '-' := fun hc => hhyphen cs (hc ▸ rfl)
        simp [hc, hc']

/-- What a hyphen means does not depend on the parenthesis. -/
theorem hyphenStands_beside (htail : IsTail tail) (extended : Bool) (v : List Char) :
    hyphenStands extended (v ++ tail) = hyphenStands extended (v ++ ')' :: tail) := by
  rw [hyphenStands_eq, hyphenStands_eq]
  rcases skip_beside htail extended v with ⟨h, h'⟩ | ⟨v', h, h'⟩
  · rw [h, h']
  · rw [h, h']
    cases v' with
    | nil => rcases htail with rfl | rfl <;> rfl
    | cons c v' => rfl

/-- The set of an item on its own. -/
def singleItem (first : Atom) (cs : List Char) : Except PatternError (ClassSet × List Char) :=
  match cs with
  | [] => .error .classUnclosed
  | cs => first.toClass >>= fun set => .ok (set, cs)

/-- The second item of a range. -/
def rangeEnd (extended : Bool) (first : Atom) (cs : List Char) :
    Except PatternError (ClassSet × List Char) :=
  match cs with
  | [] => .error .classUnclosed
  | cs => do
      let (last, rest) ← readClassAtom extended cs
      let lo ← first.toBound
      let hi ← last.toBound
      if lo.char.toNat ≤ hi.char.toNat then .ok (.range lo hi, rest) else .error .classRange

/-- What follows the first item. -/
def afterAtom (extended : Bool) (first : Atom) (cs : List Char) :
    Except PatternError (ClassSet × List Char) :=
  if cs.head? = some '-' then
    if hyphenStands extended cs.tail then singleItem first cs
    else rangeEnd extended first (skip extended cs.tail)
  else singleItem first cs

theorem readClassItem_eq (extended : Bool) (cs : List Char) :
    readClassItem extended cs =
      readClassAtom extended cs >>= fun r => afterAtom extended r.1 (skip extended r.2) := by
  refine congrArg _ (funext fun r => ?_)
  obtain ⟨first, rest⟩ := r
  dsimp only
  generalize skip extended rest = rest
  split
  · rfl
  · rename_i rest
    change _ = if hyphenStands extended rest then singleItem first ('-' :: rest)
      else rangeEnd extended first (skip extended rest)
    split
    · rfl
    · rfl
  · rename_i hnil hhyphen
    refine Eq.trans ?_ (if_neg (head?_ne_of_forall hhyphen)).symm
    cases rest with
    | nil => exact absurd rfl hnil
    | cons c rest => rfl

theorem singleItem_reads (first : Atom) : Reads tail (singleItem first) := by
  intro cs
  cases cs with
  | nil => exact .fail rfl
  | cons c cs =>
      cases hset : first.toClass with
      | error e => exact .fail (congrArg (· >>= _) hset)
      | ok set =>
          have hitem (d : Char) (u : List Char) :
              singleItem first (d :: u) = .ok (set, d :: u) := by
            rw [singleItem, hset]
            · rfl
            · exact List.cons_ne_nil d u
          refine .stay (hitem c cs) fun u r _ hr => ?_
          cases u with
          | nil => cases hr
          | cons d u => exact (Except.ok.inj ((hitem d u).symm.trans hr)).symm

theorem rangeEnd_reads (htail : IsTail tail) (extended : Bool) (first : Atom) :
    Reads tail (rangeEnd extended first) := by
  intro cs
  cases cs with
  | nil => exact .fail rfl
  | cons c cs =>
      refine .head ((readClassAtom_cons_reads htail extended c cs).bind fun last rest _ => ?_)
      dsimp only
      cases first.toBound with
      | error e => exact .fail rfl
      | ok lo =>
          cases last.toBound with
          | error e => exact .fail rfl
          | ok hi =>
              change ReadsAt tail (fun u => if lo.char.toNat ≤ hi.char.toNat then
                  .ok (ClassSet.range lo hi, u) else .error .classRange) (fun u =>
                if lo.char.toNat ≤ hi.char.toNat then
                  .ok (ClassSet.range lo hi, u) else .error .classRange) rest
              by_cases hle : lo.char.toNat ≤ hi.char.toNat
              · simp only [if_pos hle]
                exact Reads.done (ClassSet.range lo hi) rest
              · exact .fail (if_neg hle)

theorem afterAtom_hyphen (extended : Bool) (first : Atom) (cs : List Char) :
    afterAtom extended first ('-' :: cs) =
      if hyphenStands extended cs then singleItem first ('-' :: cs)
      else rangeEnd extended first (skip extended cs) :=
  if_pos rfl

/-- A hyphen that stands for itself stays where it is. -/
theorem afterAtom_reads (htail : IsTail tail) (extended : Bool) (first : Atom) :
    Reads tail (afterAtom extended first) := by
  intro cs
  by_cases hhyphen : cs.head? = some '-'
  · obtain ⟨cs, rfl⟩ := List.head?_eq_some_iff.mp hhyphen
    have hbeside : ∀ p, cs = p ++ ')' :: tail →
        hyphenStands extended (p ++ tail) = hyphenStands extended cs :=
      fun p hp => hp ▸ hyphenStands_beside htail extended p
    cases hstands : hyphenStands extended cs with
    | true =>
        refine (singleItem_reads first ('-' :: cs)).of_cons (by decide) ?_ fun p hp => ?_
        · rw [afterAtom_hyphen, hstands]
          rfl
        · rw [afterAtom_hyphen, hbeside p hp, hstands]
          rfl
    | false =>
        have hrange : Reads tail fun u => rangeEnd extended first (skip extended u) :=
          fun u => (rangeEnd_reads htail extended first _).skip htail
        have hbehind : ReadsAt tail (fun u => rangeEnd extended first (skip extended u.tail))
            (fun u => rangeEnd extended first (skip extended u.tail)) ('-' :: cs) :=
          .head (hrange cs)
        refine hbehind.of_cons (by decide) ?_ fun p hp => ?_
        · rw [afterAtom_hyphen, hstands]
          rfl
        · rw [afterAtom_hyphen, hbeside p hp, hstands]
          rfl
  · exact .alike (p := (· ≠ some '-')) (fun u hu => if_neg hu) hhyphen
      (htail.head?_ne (by decide)) (singleItem_reads first cs)

theorem readClassItem_reads (htail : IsTail tail) (extended : Bool) :
    Reads tail (readClassItem extended) := by
  intro cs
  rw [funext (readClassItem_eq extended)]
  exact (readClassAtom_reads htail extended cs).bind fun first rest _ =>
    (afterAtom_reads htail extended first _).skip htail

/-! ## Named classes -/

/-- A named class from its name on. -/
def classNamed? (negated : Bool) (cs : List Char) : Option (ClassSet × List Char) :=
  match cs.dropWhile (· != ':') with
  | ':' :: ']' :: rest =>
      (asciiClass? (String.ofList (cs.takeWhile (· != ':')))).map fun kind =>
        (.ascii kind negated, rest)
  | _ => none

theorem readAsciiClass_caret (cs : List Char) :
    readAsciiClass ('[' :: ':' :: '^' :: cs) = classNamed? true cs := rfl

theorem readAsciiClass_of_ne {cs : List Char} (h : cs.head? ≠ some '^') :
    readAsciiClass ('[' :: ':' :: cs) = classNamed? false cs := by
  rw [readAsciiClass]
  · rfl
  · exact fun rest hrest => h (hrest ▸ rfl)

theorem classNamed?_append {negated : Bool} {name : List Char} (h : ':' ∉ name) (u : List Char) :
    classNamed? negated (name ++ ':' :: ']' :: u) =
      (asciiClass? (String.ofList name)).map fun kind => (.ascii kind negated, u) := by
  have hname : ∀ c ∈ name, (c != ':') = true :=
    fun c hc => bne_iff_ne.mpr fun heq => h (heq ▸ hc)
  rw [classNamed?, List.takeWhile_append_of_pos hname, List.dropWhile_append_of_pos hname,
    List.takeWhile_cons_of_neg (by decide), List.dropWhile_cons_of_neg (by decide),
    List.append_nil]
  rfl

theorem classNamed?_some {negated : Bool} {cs rest : List Char} {item : ClassSet}
    (h : classNamed? negated cs = some (item, rest)) :
    ∃ name, cs = name ++ ':' :: ']' :: rest ∧ ':' ∉ name := by
  refine ⟨cs.takeWhile (· != ':'), ?_, fun hmem => ?_⟩
  · unfold classNamed? at h
    split at h
    · rename_i rest' hrest
      obtain ⟨kind, -, heq⟩ := Option.map_eq_some_iff.mp h
      cases heq
      rw [← hrest, List.takeWhile_append_dropWhile]
    · cases h
  · exact absurd (List.mem_takeWhile_imp (p := (· != ':')) hmem) (by decide)

/-- A named class ends with its closing bracket, whatever comes next. -/
theorem readAsciiClass_some {cs rest : List Char} {item : ClassSet}
    (h : readAsciiClass cs = some (item, rest)) :
    ∃ w, cs = w ++ ']' :: rest ∧ ∀ u, readAsciiClass (w ++ ']' :: u) = some (item, u) := by
  have hsome {negated : Bool} {name : List Char} (hname : ':' ∉ name)
      (h : classNamed? negated (name ++ ':' :: ']' :: rest) = some (item, rest)) (u : List Char) :
      classNamed? negated (name ++ ':' :: ']' :: u) = some (item, u) := by
    rw [classNamed?_append hname] at h ⊢
    obtain ⟨kind, hkind, heq⟩ := Option.map_eq_some_iff.mp h
    cases heq
    rw [hkind]
    rfl
  by_cases hopen : ∃ cs', cs = '[' :: ':' :: cs'
  · obtain ⟨cs, rfl⟩ := hopen
    by_cases hcaret : cs.head? = some '^'
    · obtain ⟨cs, rfl⟩ := List.head?_eq_some_iff.mp hcaret
      rw [readAsciiClass_caret] at h
      obtain ⟨name, rfl, hname⟩ := classNamed?_some h
      refine ⟨'[' :: ':' :: '^' :: (name ++ [':']), by simp, fun u => ?_⟩
      have := hsome hname h u
      simpa [readAsciiClass_caret] using this
    · rw [readAsciiClass_of_ne hcaret] at h
      obtain ⟨name, rfl, hname⟩ := classNamed?_some h
      refine ⟨'[' :: ':' :: (name ++ [':']), by simp, fun u => ?_⟩
      have hhead : (name ++ ':' :: ']' :: u).head? ≠ some '^' := by
        cases name with
        | nil => exact nofun
        | cons c name => exact hcaret
      have := (readAsciiClass_of_ne hhead).trans (hsome hname h u)
      simpa using this
  · unfold readAsciiClass at h
    split at h
    · exact absurd ⟨_, rfl⟩ hopen
    · cases h

/-! ## Whole classes -/

/-- What a class has come to: the whole of it has been read, or some brackets are open. -/
inductive ClassMove where
  | whole (p : Pattern)
  | inside (cur : OpenClass) (outer : List OpenClass)

/-- Close the innermost bracket. -/
def closeBracket (cur : OpenClass) : List OpenClass → ClassMove
  | [] => .whole (.bracket cur.negated cur.operand.close)
  | parent :: outer => .inside (parent.add (.bracket cur.negated cur.operand.close)) outer

/-- The item that begins at a bracket: a named class, or another open bracket. -/
def openBracket (extended : Bool) (cur : OpenClass) (outer : List OpenClass) (cs : List Char) :
    Except PatternError (ClassMove × List Char) :=
  match readAsciiClass ('[' :: cs) with
  | some (item, rest) => .ok (.inside (cur.add item) outer, rest)
  | none => openClass extended cs >>= fun r => .ok (.inside r.1 (cur :: outer), r.2)

/-- An item that begins at another character. -/
def classItem (extended : Bool) (cur : OpenClass) (outer : List OpenClass) (cs : List Char) :
    Except PatternError (ClassMove × List Char) :=
  match cs with
  | [] => .error .classUnclosed
  | cs => readClassItem extended cs >>= fun r => .ok (.inside (cur.add r.1) outer, r.2)

/-- The operation that a character written twice stands for. -/
def operation? : Char → Option SetOperation
  | '&' => some .intersection
  | '-' => some .difference
  | '~' => some .symmetricDifference
  | _ => none

/-- One move in a class on a text that does not begin with filler. -/
def classMove (extended : Bool) (cur : OpenClass) (outer : List OpenClass) :
    List Char → Except PatternError (ClassMove × List Char)
  | [] => .error .classUnclosed
  | c :: cs =>
      if c = ']' then .ok (closeBracket cur outer, cs)
      else if c = '[' then openBracket extended cur outer cs
      else
        match operation? c with
        | some op =>
            if cs.head? = some c then .ok (.inside (cur.combine op) outer, cs.tail)
            else classItem extended cur outer (c :: cs)
        | none => classItem extended cur outer (c :: cs)

/-- Whether a character begins an item, unless it is written twice. -/
def BeginsItem (c : Char) (cs : List Char) : Prop :=
  c ≠ ']' ∧ c ≠ '[' ∧ ((operation? c).isSome = true → cs.head? ≠ some c)

theorem classMove_item {extended : Bool} {cur : OpenClass} {outer : List OpenClass} {c : Char}
    {cs : List Char} (h : BeginsItem c cs) :
    classMove extended cur outer (c :: cs) = classItem extended cur outer (c :: cs) := by
  obtain ⟨hclose, hopen, hoperation⟩ := h
  refine (if_neg hclose).trans ((if_neg hopen).trans ?_)
  cases hop : operation? c with
  | none => rfl
  | some op => exact if_neg (hoperation (hop ▸ rfl))

theorem operation?_isSome {c : Char} (h : (operation? c).isSome = true) :
    c = '&' ∨ c = '-' ∨ c = '~' := by
  unfold operation? at h
  split at h
  · exact .inl rfl
  · exact .inr (.inl rfl)
  · exact .inr (.inr rfl)
  · cases h

theorem readClassFrom_succ (extended : Bool) (bound : Nat) (cur : OpenClass)
    (outer : List OpenClass) (cs : List Char) :
    readClassFrom extended (bound + 1) cur outer cs =
      classMove extended cur outer (skip extended cs) >>= fun r =>
        match r.1 with
        | .whole p => .ok (p, r.2)
        | .inside cur outer => readClassFrom extended bound cur outer r.2 := by
  rw [readClassFrom]
  generalize skip extended cs = cs
  split
  · rfl
  · cases outer <;> rfl
  · rfl
  · rfl
  · rfl
  · rename_i rest
    change _ = openBracket extended cur outer rest >>= _
    unfold openBracket
    cases readAsciiClass ('[' :: rest) with
    | some r => rfl
    | none => cases openClass extended rest <;> rfl
  · rename_i hnil hclose hand hminus htilde hopen
    cases cs with
    | nil => exact absurd rfl hnil
    | cons c cs =>
        have hitem : BeginsItem c cs := by
          refine ⟨fun hc => hclose cs (hc ▸ rfl), fun hc => hopen cs (hc ▸ rfl), fun hc => ?_⟩
          intro hhead
          obtain ⟨rest, rfl⟩ := List.head?_eq_some_iff.mp hhead
          rcases operation?_isSome hc with rfl | rfl | rfl
          · exact hand rest rfl
          · exact hminus rest rfl
          · exact htilde rest rfl
        rw [classMove_item hitem]
        change _ = (readClassItem extended (c :: cs) >>= _) >>= _
        cases readClassItem extended (c :: cs) <;> rfl

/-! ### Moves -/

/-- A closing bracket does not stand in the tail. -/
theorem split_before_tail (htail : IsTail tail) {cs w rest : List Char}
    (h : cs ++ tail = w ++ ']' :: rest) : ∃ u, cs = w ++ ']' :: u := by
  have hmem : ']' ∉ tail := by rcases htail with rfl | rfl <;> decide
  rcases List.append_eq_append_iff.mp h with ⟨u, -, hu⟩ | ⟨u, hu, hrest⟩
  · exact absurd (hu ▸ List.mem_append_right u List.mem_cons_self) hmem
  · cases u with
    | nil =>
        rw [List.nil_append] at hrest
        exact absurd (hrest ▸ List.mem_cons_self) hmem
    | cons c u =>
        obtain ⟨rfl, -⟩ := List.cons.inj hrest
        exact ⟨u, hu⟩

/-- There is no named class where there is none with the parenthesis. -/
theorem readAsciiClass_beside (htail : IsTail tail) {p : List Char}
    (h : readAsciiClass ('[' :: (p ++ ')' :: tail)) = none) :
    readAsciiClass ('[' :: (p ++ tail)) = none := by
  cases hnamed : readAsciiClass ('[' :: (p ++ tail)) with
  | none => rfl
  | some r =>
      obtain ⟨w, hw, hsame⟩ := readAsciiClass_some hnamed
      obtain ⟨u, hu⟩ := split_before_tail htail (show ('[' :: p) ++ tail = _ from hw)
      have := hsame (u ++ ')' :: tail)
      rw [← List.cons_append, ← List.append_assoc, ← hu, List.cons_append, h] at this
      cases this

theorem openBracket_reads (htail : IsTail tail) (extended : Bool) (cur : OpenClass)
    (outer : List OpenClass) : Reads tail (openBracket extended cur outer) := by
  intro cs
  cases hnamed : readAsciiClass ('[' :: cs) with
  | some r =>
      obtain ⟨item, after⟩ := r
      intro a rest hok
      rw [openBracket, hnamed] at hok
      cases hok
      obtain ⟨w, hw, hsame⟩ := readAsciiClass_some hnamed
      cases w with
      | nil => exact absurd (List.cons.inj hw).1 (by decide)
      | cons c w =>
          obtain ⟨rfl, rfl⟩ := List.cons.inj hw
          refine ⟨w ++ [']'], by simp, fun v r _ hr => ?_⟩
          rw [List.append_assoc, List.singleton_append, openBracket, ← List.cons_append,
            hsame] at hr
          exact (Except.ok.inj hr).symm
  | none =>
      have hopen : ReadsAt tail (openBracket extended cur outer)
          (fun u => openClass extended u >>= fun r => .ok (.inside r.1 (cur :: outer), r.2))
          cs := by
        have hmove := (openClass_reads htail extended cs).map fun c =>
          ClassMove.inside c (cur :: outer)
        refine fun a rest hok => hmove a rest ?_
        rwa [openBracket, hnamed] at hok
      refine hopen.of_other fun p r hp hr => ?_
      rwa [openBracket, readAsciiClass_beside htail (hp ▸ hnamed)] at hr

theorem classItem_reads (htail : IsTail tail) (extended : Bool) (cur : OpenClass)
    (outer : List OpenClass) : Reads tail (classItem extended cur outer) := by
  intro cs
  cases cs with
  | nil => exact .fail rfl
  | cons c cs =>
      have hitem : ReadsAt tail (classItem extended cur outer)
          (fun u => readClassItem extended u >>= fun r => .ok (.inside (cur.add r.1) outer, r.2))
          (c :: cs) :=
        (readClassItem_reads htail extended (c :: cs)).map fun item =>
          ClassMove.inside (cur.add item) outer
      refine hitem.of_other fun p r _ hr => ?_
      cases hother : p ++ tail with
      | nil =>
          rw [hother] at hr
          cases hr
      | cons d u =>
          rw [hother] at hr
          exact hr

/-- An item that begins before the parenthesis begins there without it. -/
theorem BeginsItem.beside (htail : IsTail tail) {c : Char} {p : List Char}
    (h : BeginsItem c (p ++ ')' :: tail)) : BeginsItem c (p ++ tail) := by
  refine ⟨h.1, h.2.1, fun hop => ?_⟩
  cases p with
  | nil =>
      refine htail.head?_ne fun hc => ?_
      rw [hc] at hop
      exact absurd hop (by decide)
  | cons d p => exact h.2.2 hop

theorem classMove_reads (htail : IsTail tail) (extended : Bool) (cur : OpenClass)
    (outer : List OpenClass) : Reads tail (classMove extended cur outer) := by
  intro cs
  cases cs with
  | nil => exact .fail rfl
  | cons c cs =>
      by_cases hclose : c = ']'
      · subst hclose
        exact .head (Reads.done (closeBracket cur outer) cs)
      by_cases hopen : c = '['
      · subst hopen
        exact .head (openBracket_reads htail extended cur outer cs)
      by_cases htwice : (operation? c).isSome = true ∧ cs.head? = some c
      · obtain ⟨hop, hhead⟩ := htwice
        obtain ⟨op, hop⟩ := Option.isSome_iff_exists.mp hop
        obtain ⟨cs, rfl⟩ := List.head?_eq_some_iff.mp hhead
        have hmove (u : List Char) : classMove extended cur outer (c :: c :: u) =
            .ok (.inside (cur.combine op) outer, u) := by
          refine (if_neg hclose).trans ((if_neg hopen).trans ?_)
          rw [hop]
          exact if_pos rfl
        refine .head (.head ?_)
        simp only [hmove]
        exact Reads.done _ cs
      · have hitem : BeginsItem c cs := ⟨hclose, hopen, fun hop hhead => htwice ⟨hop, hhead⟩⟩
        have hmove : ReadsAt tail (classMove extended cur outer) (classItem extended cur outer)
            (c :: cs) :=
          fun a rest hok => classItem_reads htail extended cur outer (c :: cs) a rest
            ((classMove_item hitem).symm.trans hok)
        refine hmove.of_other fun p r hp hr => ?_
        cases p with
        | nil =>
            -- Without the parenthesis the text is at its end, or an item begins with a dollar sign.
            rcases htail with rfl | rfl
            · cases hr
            · rwa [List.nil_append, classMove_item (by unfold BeginsItem; decide)] at hr
        | cons d p =>
            obtain ⟨rfl, rfl⟩ := List.cons.inj hp
            rwa [List.cons_append, classMove_item (hitem.beside htail)] at hr

theorem readClassFrom_reads (htail : IsTail tail) (extended : Bool) (bound bound' : Nat)
    (cur : OpenClass) (outer : List OpenClass) (cs : List Char) :
    ReadsAt tail (readClassFrom extended bound cur outer) (readClassFrom extended bound' cur outer)
      cs := by
  induction bound generalizing bound' cur outer cs with
  | zero => exact .fail rfl
  | succ bound ih =>
      -- The bounds differ, since the texts with and without the parenthesis differ in length.
      have hmore : ReadsAt tail (readClassFrom extended (bound + 1) cur outer)
          (readClassFrom extended (bound' - 1 + 1) cur outer) cs := by
        rw [funext (readClassFrom_succ extended bound cur outer),
          funext (readClassFrom_succ extended (bound' - 1) cur outer)]
        refine ((classMove_reads htail extended cur outer _).skip htail).bind fun move rest _ => ?_
        cases move with
        | whole p => exact Reads.done p rest
        | inside cur outer => exact ih _ _ _ _
      cases bound' with
      | zero => exact hmore.of_fail fun u => ⟨.classUnclosed, rfl⟩
      | succ bound' => exact hmore

theorem readClass_reads (htail : IsTail tail) (extended : Bool) :
    Reads tail (readClass extended) := by
  refine fun cs => (openClass_reads htail extended cs).bind fun c rest _ => ?_
  exact ReadsAt.bounded (fun bound => readClassFrom extended bound c [])
    (fun bound => readClassFrom_reads htail extended _ bound c [] rest) fun u => u.length + 1

end Fingerprinting.Regex
