/-
# Reading a logic

The reader of logics descends along the grammar.  It finds the expression of the tree that derives
the tokens, whenever there is one, and its steps suffice for that.

* `read_tokens` says that the tokens of a tree are read as its expression;
* `exists_tree_of_read` says that what is read is the expression of a tree.

Main statement: `parse_logic_eq_ok_iff` says which texts are logics, with which expression, and when
that is true.
-/
import Fingerprinting.Proofs.Goby.Grammar

namespace Fingerprinting.Goby

/-! ## Symbols -/

/-- Read what a symbol derives. -/
def Symbol.read : (k : Symbol) → Nat → List Token → Except RuleError (k.Meaning × List Token)
  | .disjunction => readOr
  | .disjuncts => readOrs
  | .conjunction => readAnd
  | .conjuncts => readAnds
  | .unary => readUnary
  | .primary => readPrimary

/-- The steps that are taken before the first token of a symbol. -/
def Symbol.steps : Symbol → Nat
  | .disjunction => 4
  | .disjuncts => 0
  | .conjunction => 3
  | .conjuncts => 0
  | .unary => 2
  | .primary => 1

theorem chain_eq_node (op : List Expr → Expr) (first : Expr) (more : List Expr) :
    Expr.chain op first more = Tree.node op first more := by
  cases more <;> rfl

theorem ofWord_truth {b : Bool} {text : String} (h : Text.asciiLower text = truthName b) :
    Expr.ofWord text = .const b := by
  cases b <;> simp [Expr.ofWord, h, truthName]

theorem ofWord_label {name : String} (h : ∀ b, Text.asciiLower name ≠ truthName b) :
    Expr.ofWord name = .label name := by
  unfold Expr.ofWord
  split
  · exact absurd ‹_› (h true)
  · exact absurd ‹_› (h false)
  · rfl

/-! ## Steps -/

/-- Two readings, one after the other, and what they make up. -/
theorem inTurn_eq_ok_iff {α β γ : Type} (x : Except RuleError (α × List Token))
    (f : List Token → Except RuleError (β × List Token)) (g : α → β → γ) (c : γ)
    (rest : List Token) :
    (do
      let (a, ts) ← x
      let (b, ts) ← f ts
      Except.ok (g a b, ts)) = .ok (c, rest) ↔
      ∃ a ts b, x = .ok (a, ts) ∧ f ts = .ok (b, rest) ∧ g a b = c := by
  constructor
  · intro h
    obtain ⟨⟨a, ts⟩, ha, h⟩ := (Results.bind_eq_ok_iff _ _ _).mp h
    obtain ⟨⟨b, ts'⟩, hb, h⟩ := (Results.bind_eq_ok_iff _ _ _).mp h
    cases h
    exact ⟨a, ts, b, ha, hb, rfl⟩
  · rintro ⟨a, ts, b, ha, hb, rfl⟩
    refine (Results.bind_eq_ok_iff _ _ _).mpr ⟨(a, ts), ha, ?_⟩
    exact (Results.bind_eq_ok_iff _ _ _).mpr ⟨(b, rest), hb, rfl⟩

section

variable (n : Nat) (ts rest : List Token)

theorem readOr_eq_ok_iff (e : Expr) :
    readOr (n + 1) ts = .ok (e, rest) ↔
      ∃ first ts' more, readAnd n ts = .ok (first, ts') ∧ readOrs n ts' = .ok (more, rest) ∧
        Expr.chain .or first more = e := by
  rw [readOr]
  exact inTurn_eq_ok_iff _ _ _ _ _

theorem readOrs_eq_ok_iff (es : List Expr) :
    readOrs (n + 1) (.or :: ts) = .ok (es, rest) ↔
      ∃ item ts' more, readAnd n ts = .ok (item, ts') ∧ readOrs n ts' = .ok (more, rest) ∧
        item :: more = es := by
  rw [readOrs]
  exact inTurn_eq_ok_iff _ _ _ _ _

theorem readAnd_eq_ok_iff (e : Expr) :
    readAnd (n + 1) ts = .ok (e, rest) ↔
      ∃ first ts' more, readUnary n ts = .ok (first, ts') ∧ readAnds n ts' = .ok (more, rest) ∧
        Expr.chain .and first more = e := by
  rw [readAnd]
  exact inTurn_eq_ok_iff _ _ _ _ _

theorem readAnds_eq_ok_iff (es : List Expr) :
    readAnds (n + 1) (.and :: ts) = .ok (es, rest) ↔
      ∃ item ts' more, readUnary n ts = .ok (item, ts') ∧ readAnds n ts' = .ok (more, rest) ∧
        item :: more = es := by
  rw [readAnds]
  exact inTurn_eq_ok_iff _ _ _ _ _

theorem readUnary_not_eq_ok_iff (e : Expr) :
    readUnary (n + 1) (.not :: ts) = .ok (e, rest) ↔
      ∃ inner, readUnary n ts = .ok (inner, rest) ∧ Expr.not inner = e := by
  rw [readUnary]
  constructor
  · intro h
    obtain ⟨⟨inner, ts'⟩, hinner, h⟩ := (Results.bind_eq_ok_iff _ _ _).mp h
    cases h
    exact ⟨inner, hinner, rfl⟩
  · rintro ⟨inner, hinner, rfl⟩
    exact (Results.bind_eq_ok_iff _ _ _).mpr ⟨(inner, rest), hinner, rfl⟩

theorem readPrimary_paren_eq_ok_iff (e : Expr) :
    readPrimary (n + 1) (.leftParen :: ts) = .ok (e, rest) ↔
      readOr n ts = .ok (e, .rightParen :: rest) := by
  rw [readPrimary]
  constructor
  · intro h
    obtain ⟨⟨inner, ts'⟩, hinner, h⟩ := (Results.bind_eq_ok_iff _ _ _).mp h
    dsimp only at h
    split at h
    · cases h
      exact hinner
    · cases h
  · intro h
    exact (Results.bind_eq_ok_iff _ _ _).mpr ⟨_, h, rfl⟩

/-- Without `||` at the start nothing follows the first disjunct. -/
theorem readOrs_of_ends (h : ts.head? ≠ some .or) : readOrs n ts = .ok ([], ts) := by
  unfold readOrs
  split
  · exact absurd rfl h
  · rfl

/-- Without `&&` at the start nothing follows the first conjunct. -/
theorem readAnds_of_ends (h : ts.head? ≠ some .and) : readAnds n ts = .ok ([], ts) := by
  unfold readAnds
  split
  · exact absurd rfl h
  · rfl

end

/-! ## From trees to readings -/

/-- The tokens of a tree are read as what it stands for, when there are steps enough and nothing
follows that would go on with it. -/
theorem read_tokens {k : Symbol} (t : Tree k) {rest : List Token} (hrest : k.Ends rest)
    {fuel : Nat} (hfuel : 4 * t.tokens.length + k.steps ≤ fuel) :
    k.read fuel (t.tokens ++ rest) = .ok (t.expr, rest) := by
  -- A rule without a token of its own costs a step, and the way down to a token has at most four.
  induction t generalizing rest fuel with
  | disjunction first more ihFirst ihMore =>
      simp only [Tree.tokens, Symbol.steps, List.length_append] at hfuel ihFirst ihMore
      obtain ⟨n, rfl⟩ : ∃ n, fuel = n + 1 := ⟨fuel - 1, by omega⟩
      rw [Tree.tokens, List.append_assoc]
      refine (readOr_eq_ok_iff _ _ _ _).mpr ⟨first.expr, more.tokens ++ rest, more.expr, ?_, ?_, ?_⟩
      · exact ihFirst (more.ends_disjuncts hrest) (by omega)
      · exact ihMore hrest (by omega)
      · exact chain_eq_node _ _ _
  | noDisjunct => exact readOrs_of_ends _ _ hrest.1
  | disjunct item more ihItem ihMore =>
      simp only [Tree.tokens, Symbol.steps, List.length_append, List.length_cons]
        at hfuel ihItem ihMore
      obtain ⟨n, rfl⟩ : ∃ n, fuel = n + 1 := ⟨fuel - 1, by omega⟩
      rw [Tree.tokens, List.cons_append, List.append_assoc]
      refine (readOrs_eq_ok_iff _ _ _ _).mpr
        ⟨item.expr, more.tokens ++ rest, more.expr, ?_, ?_, rfl⟩
      · exact ihItem (more.ends_disjuncts hrest) (by omega)
      · exact ihMore hrest (by omega)
  | conjunction first more ihFirst ihMore =>
      simp only [Tree.tokens, Symbol.steps, List.length_append] at hfuel ihFirst ihMore
      obtain ⟨n, rfl⟩ : ∃ n, fuel = n + 1 := ⟨fuel - 1, by omega⟩
      rw [Tree.tokens, List.append_assoc]
      refine (readAnd_eq_ok_iff _ _ _ _).mpr
        ⟨first.expr, more.tokens ++ rest, more.expr, ?_, ?_, ?_⟩
      · exact ihFirst trivial (by omega)
      · exact ihMore hrest (by omega)
      · exact chain_eq_node _ _ _
  | noConjunct => exact readAnds_of_ends _ _ hrest
  | conjunct item more ihItem ihMore =>
      simp only [Tree.tokens, Symbol.steps, List.length_append, List.length_cons]
        at hfuel ihItem ihMore
      obtain ⟨n, rfl⟩ : ∃ n, fuel = n + 1 := ⟨fuel - 1, by omega⟩
      rw [Tree.tokens, List.cons_append, List.append_assoc]
      refine (readAnds_eq_ok_iff _ _ _ _).mpr
        ⟨item.expr, more.tokens ++ rest, more.expr, ?_, ?_, rfl⟩
      · exact ihItem trivial (by omega)
      · exact ihMore hrest (by omega)
  | negation t ih =>
      simp only [Tree.tokens, Symbol.steps, List.length_cons] at hfuel ih
      obtain ⟨n, rfl⟩ : ∃ n, fuel = n + 1 := ⟨fuel - 1, by omega⟩
      exact (readUnary_not_eq_ok_iff _ _ _ _).mpr ⟨t.expr, ih trivial (by omega), rfl⟩
  | primary t ih =>
      simp only [Tree.tokens, Symbol.steps] at hfuel ih
      obtain ⟨n, rfl⟩ : ∃ n, fuel = n + 1 := ⟨fuel - 1, by omega⟩
      -- A primary begins with a word or a parenthesis.
      have hnot : ∀ ts, t.tokens ++ rest ≠ .not :: ts := by
        intro ts
        cases t <;> simp [Tree.tokens]
      show readUnary (n + 1) (t.tokens ++ rest) = _
      rw [readUnary]
      · exact ih trivial (by omega)
      · exact hnot
  | group t ih =>
      simp only [Tree.tokens, Symbol.steps, List.length_append, List.length_cons] at hfuel ih
      obtain ⟨n, rfl⟩ : ∃ n, fuel = n + 1 := ⟨fuel - 1, by omega⟩
      rw [Tree.tokens, List.cons_append, List.append_assoc, List.singleton_append]
      exact (readPrimary_paren_eq_ok_iff _ _ _ _).mpr (ih (ends_rightParen rest) (by omega))
  | truth b text h =>
      obtain ⟨n, rfl⟩ : ∃ n, fuel = n + 1 := ⟨fuel - 1, by simp only [Symbol.steps] at hfuel; omega⟩
      show readPrimary (n + 1) (.word text :: rest) = .ok (Expr.const b, rest)
      rw [readPrimary, ofWord_truth h]
      simp
  | label name h =>
      obtain ⟨n, rfl⟩ : ∃ n, fuel = n + 1 := ⟨fuel - 1, by simp only [Symbol.steps] at hfuel; omega⟩
      show readPrimary (n + 1) (.word name :: rest) = .ok (Expr.label name, rest)
      rw [readPrimary, ofWord_label h]
      simp

/-! ## From readings to trees -/

/-- A word is a truth value or a label. -/
theorem exists_tree_of_word (text : String) :
    ∃ t : Tree .primary, t.tokens = [.word text] ∧ t.expr = Expr.ofWord text := by
  by_cases h : ∃ b, Text.asciiLower text = truthName b
  · obtain ⟨b, hb⟩ := h
    exact ⟨.truth b text hb, rfl, (ofWord_truth hb).symm⟩
  · rw [not_exists] at h
    exact ⟨.label text h, rfl, (ofWord_label h).symm⟩

/-- What is read is what a tree stands for that has the tokens that have been read. -/
theorem exists_tree_of_read (fuel : Nat) : ∀ (k : Symbol) (ts rest : List Token) (m : k.Meaning),
    k.read fuel ts = .ok (m, rest) → ∃ t : Tree k, ts = t.tokens ++ rest ∧ t.expr = m := by
  -- The readers call each other with one step less, so the induction is for all symbols at once.
  induction fuel with
  | zero =>
      intro k ts rest m h
      cases k with
      | disjuncts =>
          cases h
          exact ⟨.noDisjunct, rfl, rfl⟩
      | conjuncts =>
          cases h
          exact ⟨.noConjunct, rfl, rfl⟩
      | disjunction => cases h
      | conjunction => cases h
      | unary => cases h
      | primary => cases h
  | succ n ih =>
      intro k ts rest m h
      cases k with
      | disjunction =>
          obtain ⟨first, ts', more, hfirst, hmore, rfl⟩ := (readOr_eq_ok_iff _ _ _ _).mp h
          obtain ⟨t, rfl, rfl⟩ := ih .conjunction _ _ _ hfirst
          obtain ⟨u, rfl, rfl⟩ := ih .disjuncts _ _ _ hmore
          exact ⟨.disjunction t u, (List.append_assoc _ _ _).symm, (chain_eq_node _ _ _).symm⟩
      | disjuncts =>
          by_cases hhead : ts.head? = some .or
          · obtain ⟨tail, rfl⟩ := List.head?_eq_some_iff.mp hhead
            obtain ⟨item, ts', more, hitem, hmore, rfl⟩ := (readOrs_eq_ok_iff _ _ _ _).mp h
            obtain ⟨t, rfl, rfl⟩ := ih .conjunction _ _ _ hitem
            obtain ⟨u, rfl, rfl⟩ := ih .disjuncts _ _ _ hmore
            exact ⟨.disjunct t u, congrArg _ (List.append_assoc _ _ _).symm, rfl⟩
          · cases (readOrs_of_ends (n + 1) ts hhead).symm.trans h
            exact ⟨.noDisjunct, rfl, rfl⟩
      | conjunction =>
          obtain ⟨first, ts', more, hfirst, hmore, rfl⟩ := (readAnd_eq_ok_iff _ _ _ _).mp h
          obtain ⟨t, rfl, rfl⟩ := ih .unary _ _ _ hfirst
          obtain ⟨u, rfl, rfl⟩ := ih .conjuncts _ _ _ hmore
          exact ⟨.conjunction t u, (List.append_assoc _ _ _).symm, (chain_eq_node _ _ _).symm⟩
      | conjuncts =>
          by_cases hhead : ts.head? = some .and
          · obtain ⟨tail, rfl⟩ := List.head?_eq_some_iff.mp hhead
            obtain ⟨item, ts', more, hitem, hmore, rfl⟩ := (readAnds_eq_ok_iff _ _ _ _).mp h
            obtain ⟨t, rfl, rfl⟩ := ih .unary _ _ _ hitem
            obtain ⟨u, rfl, rfl⟩ := ih .conjuncts _ _ _ hmore
            exact ⟨.conjunct t u, congrArg _ (List.append_assoc _ _ _).symm, rfl⟩
          · cases (readAnds_of_ends (n + 1) ts hhead).symm.trans h
            exact ⟨.noConjunct, rfl, rfl⟩
      | unary =>
          by_cases hhead : ts.head? = some .not
          · obtain ⟨tail, rfl⟩ := List.head?_eq_some_iff.mp hhead
            obtain ⟨inner, hinner, rfl⟩ := (readUnary_not_eq_ok_iff _ _ _ _).mp h
            obtain ⟨t, rfl, rfl⟩ := ih .unary _ _ _ hinner
            exact ⟨.negation t, rfl, rfl⟩
          · have hprimary : readPrimary n ts = .ok (m, rest) := by
              rw [Symbol.read, readUnary] at h
              · exact h
              · rintro tail rfl
                exact hhead rfl
            obtain ⟨t, rfl, rfl⟩ := ih .primary _ _ _ hprimary
            exact ⟨.primary t, rfl, rfl⟩
      | primary =>
          cases ts with
          | nil => cases h
          | cons first tail =>
              cases first with
              | leftParen =>
                  obtain ⟨t, rfl, rfl⟩ :=
                    ih .disjunction _ _ _ ((readPrimary_paren_eq_ok_iff _ _ _ _).mp h)
                  exact ⟨.group t, by simp [Tree.tokens], rfl⟩
              | word text =>
                  obtain ⟨t, htokens, hexpr⟩ := exists_tree_of_word text
                  cases h
                  exact ⟨t, by rw [htokens]; rfl, hexpr⟩
              | _ => cases h

/-! ## Logics -/

/-- A tree derives a text when the text is made of its tokens. -/
def Derives (logic : String) (t : Tree .disjunction) : Prop := Lexes logic.toList t.tokens

/-- What ends with a text does not go on with a chain. -/
theorem ends_nil : Symbol.disjunction.Ends [] :=
  ⟨fun h => (by cases h), fun h => (by cases h)⟩

/-- No other tree derives the text. -/
theorem Derives.unique {logic : String} {t t' : Tree .disjunction} (h : Derives logic t)
    (h' : Derives logic t') : t = t' := by
  have hread : tokens logic = .ok t.tokens := (tokens_eq_ok_iff logic _).mpr h
  have hread' : tokens logic = .ok t'.tokens := (tokens_eq_ok_iff logic _).mpr h'
  have htokens : t.tokens = t'.tokens := Except.ok.inj (hread.symm.trans hread')
  exact (Tree.eq_of_tokens_append t t' ends_nil ends_nil (congrArg (· ++ []) htokens)).1

/-- The steps that are given suffice for every tree that derives the text. -/
theorem Derives.parse_eq {logic : String} {t : Tree .disjunction} (h : Derives logic t) :
    Expr.parse logic = .ok t.expr := by
  have htokens : tokens logic = .ok t.tokens := (tokens_eq_ok_iff logic _).mpr h
  have hread : readOr (4 * t.tokens.length + 4) t.tokens = .ok (t.expr, []) := by
    have hall := read_tokens t ends_nil (Nat.le_refl (4 * t.tokens.length + 4))
    rwa [List.append_nil] at hall
  refine (Results.bind_eq_ok_iff _ _ _).mpr ⟨_, htokens, ?_⟩
  exact (Results.bind_eq_ok_iff _ _ _).mpr ⟨_, hread, rfl⟩

theorem exists_derives_of_parse {logic : String} {e : Expr} (h : Expr.parse logic = .ok e) :
    ∃ t, Derives logic t ∧ t.expr = e := by
  obtain ⟨ts, htokens, h⟩ := (Results.bind_eq_ok_iff _ _ _).mp h
  obtain ⟨⟨e', rest⟩, hread, h⟩ := (Results.bind_eq_ok_iff _ _ _).mp h
  cases rest with
  | nil =>
      cases h
      obtain ⟨t, hts, hexpr⟩ := exists_tree_of_read (4 * ts.length + 4) .disjunction ts [] e hread
      rw [List.append_nil] at hts
      subst hts
      exact ⟨t, (tokens_eq_ok_iff logic _).mp htokens, hexpr⟩
  | cons t more => cases h

/-- A text is a logic when some tree derives it, and then it is read as what the tree stands for.
No other tree derives the text, and the expression is true when the tree is. -/
theorem parse_logic_eq_ok_iff (logic : String) :
    (∀ e, Expr.parse logic = .ok e ↔ ∃ t, Derives logic t ∧ t.expr = e) ∧
    (∀ t t', Derives logic t → Derives logic t' → t = t') ∧
    ∀ e t, Expr.parse logic = .ok e → Derives logic t →
      t.expr = e ∧ ∀ env, e.eval env = t.value env := by
  refine ⟨fun e => ⟨exists_derives_of_parse, ?_⟩, fun t t' => Derives.unique, ?_⟩
  · rintro ⟨t, ht, rfl⟩
    exact ht.parse_eq
  · intro e t he ht
    have hexpr : t.expr = e := Except.ok.inj (ht.parse_eq.symm.trans he)
    refine ⟨hexpr, fun env => ?_⟩
    rw [← hexpr]
    exact holds_expr env t

/-- The tree of `!a && b OR c`. -/
def precedenceTree : Tree .disjunction :=
  .disjunction
    (.conjunction (.negation (.primary (.label "a" (by decide))))
      (.conjunct (.primary (.label "b" (by decide))) .noConjunct))
    (.disjunct (.conjunction (.primary (.label "c" (by decide))) .noConjunct) .noDisjunct)

/-- `!` binds tighter than `&&`, and that tighter than `OR`. -/
theorem parse_logic_eq_ok_iff_of_precedence :
    Derives "!a && b OR c" precedenceTree ∧
    Expr.parse "!a && b OR c" =
      .ok (.or [.and [.not (.label "a"), .label "b"], .label "c"]) ∧
    ∀ t, Derives "!a && b OR c" t → t = precedenceTree := by
  have hderives : Derives "!a && b OR c" precedenceTree := by
    refine (tokens_eq_ok_iff _ _).mp ?_
    rfl
  obtain ⟨hparse, hunique, -⟩ := parse_logic_eq_ok_iff "!a && b OR c"
  refine ⟨hderives, (hparse _).mpr ⟨precedenceTree, hderives, rfl⟩, fun t ht => ?_⟩
  exact hunique t precedenceTree ht hderives

end Fingerprinting.Goby
