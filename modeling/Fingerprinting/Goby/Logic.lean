/-
# Logics

A logic combines labels by `||`, `&&` and `!`, which may also be written `or`, `and` and `not`:

* `or` is one or more `and` between `||`;
* `and` is one or more `unary` between `&&`;
* `unary` is a primary after any number of `!`;
* a primary is an `or` in parentheses, a truth value, or a label.

A chain of several items is one node with all of them, and a chain of one item is that item.
-/
import Fingerprinting.Error
import Fingerprinting.Text.Blank

namespace Fingerprinting.Goby

/-! ## Tokens -/

/-- A token of a logic. -/
inductive Token where
  | and
  | or
  | not
  | leftParen
  | rightParen
  | word (text : String)
deriving DecidableEq, Repr, Inhabited

/-- A token in backquotes. -/
def Token.quote : Token → String
  | .and => "`&&`"
  | .or => "`||`"
  | .not => "`!`"
  | .leftParen => "`(`"
  | .rightParen => "`)`"
  | .word text => "`" ++ text ++ "`"

/-- Characters of words. -/
def isWordChar (c : Char) : Bool :=
  Text.isAlphanumeric c || c == '_' || c == '-' || c == '.' || c == ':'

/-- The token that a word is: an operator in any ASCII case, or a word. -/
def wordToken (text : String) : Token :=
  match Text.asciiLower text with
  | "and" => .and
  | "or" => .or
  | "not" => .not
  | _ => .word text

/-- Read tokens.  `word` are the characters of the open word in reverse, `half` is the operator
whose first half has just been read, and `place` counts bytes. -/
def tokensFrom (logic : String) (word : List Char) (half : Option (Char × Nat)) (place : Nat) :
    List Char → Except RuleError (List Token)
  | [] =>
      match half with
      | some (op, start) => .error (.halfOperator op start logic)
      | none => .ok (closeWord [])
  | c :: rest => do
      let next := place + c.utf8Size
      match half with
      | some (op, start) =>
          if c = op then
            let more ← tokensFrom logic [] none next rest
            .ok ((if op = '&' then .and else .or) :: more)
          else .error (.halfOperator op start logic)
      | none =>
          if isWordChar c then tokensFrom logic (c :: word) none next rest
          else if Text.isBlank c then return closeWord (← tokensFrom logic [] none next rest)
          else if c = '(' then
            return closeWord (.leftParen :: (← tokensFrom logic [] none next rest))
          else if c = ')' then
            return closeWord (.rightParen :: (← tokensFrom logic [] none next rest))
          else if c = '!' then return closeWord (.not :: (← tokensFrom logic [] none next rest))
          else if c = '&' ∨ c = '|' then
            return closeWord (← tokensFrom logic [] (some (c, place)) next rest)
          else .error (.unexpectedChar c place logic)
where
  /-- Put the open word before some tokens. -/
  closeWord (more : List Token) : List Token :=
    if word.isEmpty then more else wordToken (String.ofList word.reverse) :: more

/-- The tokens of a logic. -/
def tokens (logic : String) : Except RuleError (List Token) :=
  tokensFrom logic [] none 0 logic.toList

/-! ## Expressions -/

/-- A logic. -/
inductive Expr where
  | const (b : Bool)
  | label (name : String)
  | not (e : Expr)
  | and (items : List Expr)
  | or (items : List Expr)
deriving Repr, Inhabited, BEq

/-- A truth value by name, or a label. -/
def Expr.ofWord (text : String) : Expr :=
  match Text.asciiLower text with
  | "true" => .const true
  | "false" => .const false
  | _ => .label text

/-- A chain of items: the one there is, or a node with all of them. -/
def Expr.chain (node : List Expr → Expr) (first : Expr) (more : List Expr) : Expr :=
  if more.isEmpty then first else node (first :: more)

mutual

/-- Read an `or`. -/
def readOr : Nat → List Token → Except RuleError (Expr × List Token)
  | 0, _ => .error .unexpectedEnd
  | fuel + 1, ts => do
      let (first, ts) ← readAnd fuel ts
      let (more, ts) ← readOrs fuel ts
      .ok (Expr.chain .or first more, ts)

/-- Read the items of an `or` after the first. -/
def readOrs : Nat → List Token → Except RuleError (List Expr × List Token)
  | fuel + 1, .or :: ts => do
      let (item, ts) ← readAnd fuel ts
      let (more, ts) ← readOrs fuel ts
      .ok (item :: more, ts)
  | _, ts => .ok ([], ts)

/-- Read an `and`. -/
def readAnd : Nat → List Token → Except RuleError (Expr × List Token)
  | 0, _ => .error .unexpectedEnd
  | fuel + 1, ts => do
      let (first, ts) ← readUnary fuel ts
      let (more, ts) ← readAnds fuel ts
      .ok (Expr.chain .and first more, ts)

/-- Read the items of an `and` after the first. -/
def readAnds : Nat → List Token → Except RuleError (List Expr × List Token)
  | fuel + 1, .and :: ts => do
      let (item, ts) ← readUnary fuel ts
      let (more, ts) ← readAnds fuel ts
      .ok (item :: more, ts)
  | _, ts => .ok ([], ts)

/-- Read a `unary`. -/
def readUnary : Nat → List Token → Except RuleError (Expr × List Token)
  | 0, _ => .error .unexpectedEnd
  | fuel + 1, .not :: ts => do
      let (e, ts) ← readUnary fuel ts
      .ok (.not e, ts)
  | fuel + 1, ts => readPrimary fuel ts

/-- Read a primary. -/
def readPrimary : Nat → List Token → Except RuleError (Expr × List Token)
  | 0, _ => .error .unexpectedEnd
  | _, [] => .error .unexpectedEnd
  | fuel + 1, .leftParen :: ts => do
      let (e, ts) ← readOr fuel ts
      match ts with
      | .rightParen :: ts => .ok (e, ts)
      | _ => .error .unbalancedParenthesis
  | _, .word text :: ts => .ok (.ofWord text, ts)
  | _, t :: _ => .error (.noLabel t.quote)

end

/-- The expression of a logic.  Between two tokens that are taken lie at most four steps. -/
def Expr.parse (logic : String) : Except RuleError Expr := do
  let ts ← tokens logic
  let (e, rest) ← readOr (4 * ts.length + 4) ts
  match rest with
  | [] => .ok e
  | t :: _ => .error (.trailingToken t.quote logic)

/-! ## Evaluation -/

namespace Expr

mutual

/-- The truth of a logic under an assignment to labels. -/
def eval (env : String → Bool) : Expr → Bool
  | .const b => b
  | .label name => env name
  | .not e => !e.eval env
  | .and items => evalAll env items
  | .or items => evalAny env items

/-- Whether all logics are true. -/
def evalAll (env : String → Bool) : List Expr → Bool
  | [] => true
  | e :: rest => e.eval env && evalAll env rest

/-- Whether some logic is true. -/
def evalAny (env : String → Bool) : List Expr → Bool
  | [] => false
  | e :: rest => e.eval env || evalAny env rest

end

mutual

/-- The labels of a logic in order. -/
def labels : Expr → List String
  | .const _ => []
  | .label name => [name]
  | .not e => e.labels
  | .and items => labelsOf items
  | .or items => labelsOf items

/-- The labels of some logics in order. -/
def labelsOf : List Expr → List String
  | [] => []
  | e :: rest => e.labels ++ labelsOf rest

end

end Expr

end Fingerprinting.Goby
