/-
# The grammar of logics

A logic is derived by a tree whose nodes are the rules of the grammar and whose leaves are tokens:

* a disjunction is one or more conjunctions between `||`;
* a conjunction is one or more unaries between `&&`;
* a unary is a primary after any number of `!`;
* a primary is a disjunction in parentheses, a truth value, or a label.

A tree has the tokens at its leaves (`Tree.tokens`), the expression that it stands for
(`Tree.expr`) and the truth that it has under an assignment to labels (`Tree.value`).

* `Tree.eq_of_tokens_append` says that tokens have at most one tree;
* `holds_expr` says that the expression of a tree is true when the tree is.
-/
import Fingerprinting.Proofs.Goby.Tokens

namespace Fingerprinting.Goby

/-! ## Trees -/

/-- The rules of the grammar are for these symbols; `disjuncts` and `conjuncts` are what may follow
the first item of a chain. -/
inductive Symbol where
  | disjunction
  | disjuncts
  | conjunction
  | conjuncts
  | unary
  | primary

/-- How truth values are written, in any ASCII case. -/
def truthName : Bool → String
  | true => "true"
  | false => "false"

/-- Trees that derive a symbol. -/
inductive Tree : Symbol → Type where
  | disjunction (first : Tree .conjunction) (more : Tree .disjuncts) : Tree .disjunction
  | noDisjunct : Tree .disjuncts
  | disjunct (item : Tree .conjunction) (more : Tree .disjuncts) : Tree .disjuncts
  | conjunction (first : Tree .unary) (more : Tree .conjuncts) : Tree .conjunction
  | noConjunct : Tree .conjuncts
  | conjunct (item : Tree .unary) (more : Tree .conjuncts) : Tree .conjuncts
  | negation (t : Tree .unary) : Tree .unary
  | primary (t : Tree .primary) : Tree .unary
  | group (t : Tree .disjunction) : Tree .primary
  | truth (b : Bool) (text : String) (h : Text.asciiLower text = truthName b) : Tree .primary
  | label (name : String) (h : ∀ b, Text.asciiLower name ≠ truthName b) : Tree .primary

/-- What trees of a symbol stand for: an expression, or the items that follow one. -/
def Symbol.Meaning : Symbol → Type
  | .disjunction => Expr
  | .disjuncts => List Expr
  | .conjunction => Expr
  | .conjuncts => List Expr
  | .unary => Expr
  | .primary => Expr

namespace Tree

/-- The tokens at the leaves of a tree. -/
def tokens : {k : Symbol} → Tree k → List Token
  | _, disjunction first more => first.tokens ++ more.tokens
  | _, noDisjunct => []
  | _, disjunct item more => .or :: (item.tokens ++ more.tokens)
  | _, conjunction first more => first.tokens ++ more.tokens
  | _, noConjunct => []
  | _, conjunct item more => .and :: (item.tokens ++ more.tokens)
  | _, negation t => .not :: t.tokens
  | _, primary t => t.tokens
  | _, group t => .leftParen :: (t.tokens ++ [.rightParen])
  | _, truth _ text _ => [.word text]
  | _, label name _ => [.word name]

/-- A chain of one item is that item, and a longer one is a node with all items in order. -/
def node (op : List Expr → Expr) (first : Expr) : List Expr → Expr
  | [] => first
  | more => op (first :: more)

/-- The expression that a tree stands for.  Parentheses leave nothing behind. -/
def expr : {k : Symbol} → Tree k → k.Meaning
  | _, disjunction first more => node .or first.expr more.expr
  | _, noDisjunct => ([] : List Expr)
  | _, disjunct item more => (item.expr :: more.expr : List Expr)
  | _, conjunction first more => node .and first.expr more.expr
  | _, noConjunct => ([] : List Expr)
  | _, conjunct item more => (item.expr :: more.expr : List Expr)
  | _, negation t => Expr.not t.expr
  | _, primary t => t.expr
  | _, group t => t.expr
  | _, truth b _ _ => Expr.const b
  | _, label name _ => Expr.label name

/-- The truth of a tree under an assignment to labels: that of one of the disjuncts, of all
conjuncts, and of what stands after `!` the opposite. -/
def value (env : String → Bool) : {k : Symbol} → Tree k → Bool
  | _, disjunction first more => first.value env || more.value env
  | _, noDisjunct => false
  | _, disjunct item more => item.value env || more.value env
  | _, conjunction first more => first.value env && more.value env
  | _, noConjunct => true
  | _, conjunct item more => item.value env && more.value env
  | _, negation t => !t.value env
  | _, primary t => t.value env
  | _, group t => t.value env
  | _, truth b _ _ => b
  | _, label name _ => env name

end Tree

/-! ## Truth -/

/-- The truth of what a tree stands for: of several items after the first of a chain, that of one of
them or of all. -/
def Symbol.holds (env : String → Bool) : (k : Symbol) → k.Meaning → Bool
  | .disjunction, e => Expr.eval env e
  | .disjuncts, items => Expr.evalAny env items
  | .conjunction, e => Expr.eval env e
  | .conjuncts, items => Expr.evalAll env items
  | .unary, e => Expr.eval env e
  | .primary, e => Expr.eval env e

theorem eval_node_or (env : String → Bool) (first : Expr) (more : List Expr) :
    (Tree.node .or first more).eval env = (first.eval env || Expr.evalAny env more) := by
  cases more with
  | nil => simp [Tree.node, Expr.evalAny]
  | cons e rest => rfl

theorem eval_node_and (env : String → Bool) (first : Expr) (more : List Expr) :
    (Tree.node .and first more).eval env = (first.eval env && Expr.evalAll env more) := by
  cases more with
  | nil => simp [Tree.node, Expr.evalAll]
  | cons e rest => rfl

/-- What a tree stands for is true when the tree is. -/
theorem holds_expr (env : String → Bool) {k : Symbol} (t : Tree k) :
    k.holds env t.expr = t.value env := by
  induction t with
  | disjunction first more ihFirst ihMore =>
      exact (eval_node_or env _ _).trans (congrArg₂ or ihFirst ihMore)
  | noDisjunct => rfl
  | disjunct item more ihItem ihMore => exact congrArg₂ or ihItem ihMore
  | conjunction first more ihFirst ihMore =>
      exact (eval_node_and env _ _).trans (congrArg₂ and ihFirst ihMore)
  | noConjunct => rfl
  | conjunct item more ihItem ihMore => exact congrArg₂ and ihItem ihMore
  | negation t ih => exact congrArg not ih
  | primary t ih => exact ih
  | group t ih => exact ih
  | truth b text h => rfl
  | label name h => rfl

/-! ## One tree at most -/

/-- What may follow a symbol: nothing that would go on with a chain. -/
def Symbol.Ends : Symbol → List Token → Prop
  | .disjunction, rest => rest.head? ≠ some .or ∧ rest.head? ≠ some .and
  | .disjuncts, rest => rest.head? ≠ some .or ∧ rest.head? ≠ some .and
  | .conjunction, rest => rest.head? ≠ some .and
  | .conjuncts, rest => rest.head? ≠ some .and
  | .unary, _ => True
  | .primary, _ => True

/-- A disjunction ends before the parenthesis that closes it. -/
theorem ends_rightParen (rest : List Token) : Symbol.disjunction.Ends (.rightParen :: rest) :=
  ⟨fun h => (by cases h), fun h => (by cases h)⟩

/-- A conjunction ends where more disjuncts follow. -/
theorem Tree.ends_disjuncts (more : Tree .disjuncts) {rest : List Token}
    (h : Symbol.disjuncts.Ends rest) : Symbol.conjunction.Ends (more.tokens ++ rest) := by
  cases more with
  | noDisjunct => exact h.2
  | disjunct item more => exact fun hhead => by cases hhead

/-- A tree is determined by its tokens, whatever follows them and does not go on with it. -/
theorem Tree.eq_of_tokens_append {k : Symbol} (t t' : Tree k) {rest rest' : List Token}
    (hrest : k.Ends rest) (hrest' : k.Ends rest') (h : t.tokens ++ rest = t'.tokens ++ rest') :
    t = t' ∧ rest = rest' := by
  -- The first token tells which rule it was, except where a chain ends: there nothing that may
  -- follow could have been one more item.
  induction t generalizing rest rest' with
  | disjunction first more ihFirst ihMore =>
      cases t' with
      | disjunction first' more' =>
          simp only [tokens, List.append_assoc] at h
          obtain ⟨rfl, hmore⟩ := ihFirst first' (more.ends_disjuncts hrest)
            (more'.ends_disjuncts hrest') h
          obtain ⟨rfl, rfl⟩ := ihMore more' hrest hrest' hmore
          exact ⟨rfl, rfl⟩
  | noDisjunct =>
      cases t' with
      | noDisjunct => exact ⟨rfl, h⟩
      | disjunct item' more' => exact absurd (congrArg List.head? h) hrest.1
  | disjunct item more ihItem ihMore =>
      cases t' with
      | noDisjunct => exact absurd (congrArg List.head? h).symm hrest'.1
      | disjunct item' more' =>
          simp only [tokens, List.cons_append, List.cons.injEq, true_and, List.append_assoc] at h
          obtain ⟨rfl, hmore⟩ := ihItem item' (more.ends_disjuncts hrest)
            (more'.ends_disjuncts hrest') h
          obtain ⟨rfl, rfl⟩ := ihMore more' hrest hrest' hmore
          exact ⟨rfl, rfl⟩
  | conjunction first more ihFirst ihMore =>
      cases t' with
      | conjunction first' more' =>
          simp only [tokens, List.append_assoc] at h
          obtain ⟨rfl, hmore⟩ := ihFirst first' trivial trivial h
          obtain ⟨rfl, rfl⟩ := ihMore more' hrest hrest' hmore
          exact ⟨rfl, rfl⟩
  | noConjunct =>
      cases t' with
      | noConjunct => exact ⟨rfl, h⟩
      | conjunct item' more' => exact absurd (congrArg List.head? h) hrest
  | conjunct item more ihItem ihMore =>
      cases t' with
      | noConjunct => exact absurd (congrArg List.head? h).symm hrest'
      | conjunct item' more' =>
          simp only [tokens, List.cons_append, List.cons.injEq, true_and, List.append_assoc] at h
          obtain ⟨rfl, hmore⟩ := ihItem item' trivial trivial h
          obtain ⟨rfl, rfl⟩ := ihMore more' hrest hrest' hmore
          exact ⟨rfl, rfl⟩
  | negation t ih =>
      cases t' with
      | negation t' =>
          obtain ⟨rfl, rfl⟩ := ih t' trivial trivial (List.cons.inj h).2
          exact ⟨rfl, rfl⟩
      | primary t' => cases t' <;> cases h
  | primary t ih =>
      cases t' with
      | negation t' => cases t <;> cases h
      | primary t' =>
          obtain ⟨rfl, rfl⟩ := ih t' trivial trivial h
          exact ⟨rfl, rfl⟩
  | group t ih =>
      cases t' with
      | group t' =>
          simp only [tokens, List.cons_append, List.cons.injEq, true_and, List.append_assoc] at h
          obtain ⟨rfl, hclosed⟩ := ih t' (ends_rightParen _) (ends_rightParen _) h
          exact ⟨rfl, (List.cons.inj hclosed).2⟩
      | truth b' text' h' => cases h
      | label name' h' => cases h
  | truth b text hb =>
      cases t' with
      | group t' => cases h
      | truth b' text' hb' =>
          cases h
          have hname : truthName b = truthName b' := hb.symm.trans hb'
          have hsame : b = b' := by
            revert hname
            cases b <;> cases b' <;> decide
          subst hsame
          exact ⟨rfl, rfl⟩
      | label name' h' =>
          cases h
          exact absurd hb (h' b)
  | label name hname =>
      cases t' with
      | group t' => cases h
      | truth b' text' hb' =>
          cases h
          exact absurd hb' (hname b')
      | label name' hname' =>
          cases h
          exact ⟨rfl, rfl⟩

end Fingerprinting.Goby
