/-
# YAML nodes

The tree that the tokens of a text write.  Anchors and aliases are kept by name, and tags are
written out.

* `Node.ofTokens?` reads the one document of a text; a text without a document is an empty scalar.
-/
import Fingerprinting.Yaml.Token

namespace Fingerprinting.Yaml

/-! ## Trees -/

/-- A node.  An alias has the name of an anchor, and the number of that anchor once anchors are
numbered. -/
inductive Node where
  | scalar (anchor tag : Option String) (style : ScalarStyle) (text : String)
  | alias (name : String) (number : Nat)
  | sequence (anchor tag : Option String) (items : List Node)
  | mapping (anchor tag : Option String) (entries : List (Node × Node))
deriving Inhabited

/-- The scalar that stands where nothing is written. -/
def Node.empty : Node := .scalar none none .plain ""

/-! ## Directives -/

/-- Handles of tags and what they stand for. -/
abbrev Handles := List (String × String)

/-- The handles that every document knows. -/
def defaultHandles : Handles := [("!", "!"), ("!!", Document.typeTag "")]

/-- Read the directives of a document; there is at most one version, and no handle is set twice. -/
def directives? (version : Bool) (handles : Handles) :
    List Token → Option (Bool × Handles × List Token)
  | .version major minor :: rest =>
      if version || major ≠ 1 || !(minor == 1 || minor == 2) then none
      else directives? true handles rest
  | .tagDirective handle lead :: rest =>
      if (handles.lookup handle).isSome then none
      else directives? version (handles ++ [(handle, lead)]) rest
  | tokens => some (version || !handles.isEmpty, handles, tokens)

/-! ## Properties -/

/-- The anchor and the tag before a node. -/
structure Properties where
  anchor : Option String := none
  tag : Option String := none

/-- The tag that a handle and a suffix write. -/
def tagText? (handles : Handles) (handle suffix : String) : Option String :=
  if handle = "" then some suffix else (handles.lookup handle).map fun lead => lead ++ suffix

/-- Read the properties of a node, in either order. -/
def properties? (handles : Handles) : List Token → Option (Properties × List Token)
  | .anchor a :: .tag h t :: rest => do some (⟨some a, ← tagText? handles h t⟩, rest)
  | .anchor a :: rest => some (⟨some a, none⟩, rest)
  | .tag h t :: .anchor a :: rest => do some (⟨some a, ← tagText? handles h t⟩, rest)
  | .tag h t :: rest => do some (⟨none, ← tagText? handles h t⟩, rest)
  | tokens => some ({}, tokens)

/-! ## Nodes -/

/-- Where a node stands: in a flow collection, in a block, or in a block where the items of a
sequence may stand without indentation. -/
inductive Context where
  | flow
  | block
  | blockEntry
deriving DecidableEq, Repr

/-- Whether a token ends the item of a sequence before it has begun. -/
def endsItem (indentless : Bool) : Option Token → Bool
  | some .blockEntry => true
  | some .blockEnd => true
  | some .key => indentless
  | some .value => indentless
  | _ => false

/-- Whether a token ends a key or a value of a mapping before it has begun. -/
def endsEntry : Option Token → Bool
  | some .key => true
  | some .value => true
  | some .blockEnd => true
  | _ => false

/-- Whether a token ends a value of a flow collection before it has begun. -/
def endsFlow (closing : Token) (t : Option Token) : Bool :=
  t == some .flowEntry || t == some closing

mutual

/-- Read a node. -/
def node? (handles : Handles) (context : Context) : Nat → List Token → Option (Node × List Token)
  | 0, _ => none
  | _, .alias name :: rest => some (.alias name 0, rest)
  | fuel + 1, tokens => do
      let (p, tokens) ← properties? handles tokens
      match tokens with
      | .scalar style text :: rest => some (.scalar p.anchor p.tag style text, rest)
      | .flowSequenceStart :: rest =>
          let (items, rest) ← flowItems? handles true fuel rest
          some (.sequence p.anchor p.tag items, rest)
      | .flowMappingStart :: rest =>
          let (entries, rest) ← flowEntries? handles true fuel rest
          some (.mapping p.anchor p.tag entries, rest)
      | .blockEntry :: rest =>
          if context == .blockEntry then
            let (items, rest) ← blockItems? handles true fuel (.blockEntry :: rest)
            some (.sequence p.anchor p.tag items, rest)
          else bare? p (.blockEntry :: rest)
      | .blockSequenceStart :: rest =>
          if context == .flow then bare? p (.blockSequenceStart :: rest)
          else
            let (items, rest) ← blockItems? handles false fuel rest
            some (.sequence p.anchor p.tag items, rest)
      | .blockMappingStart :: rest =>
          if context == .flow then bare? p (.blockMappingStart :: rest)
          else
            let (entries, rest) ← blockEntries? handles fuel rest
            some (.mapping p.anchor p.tag entries, rest)
      | tokens => bare? p tokens
where
  /-- An empty scalar, which needs properties. -/
  bare? (p : Properties) (tokens : List Token) : Option (Node × List Token) :=
    if p.anchor.isSome || p.tag.isSome then some (.scalar p.anchor p.tag .plain "", tokens)
    else none

/-- Read the items of a block sequence. -/
def blockItems? (handles : Handles) (indentless : Bool) :
    Nat → List Token → Option (List Node × List Token)
  | 0, _ => none
  | fuel + 1, .blockEntry :: rest => do
      let (item, rest) ←
        if endsItem indentless rest.head? then some (Node.empty, rest)
        else node? handles .block fuel rest
      let (items, rest) ← blockItems? handles indentless fuel rest
      some (item :: items, rest)
  | _, tokens =>
      if indentless then some ([], tokens)
      else
        match tokens with
        | .blockEnd :: rest => some ([], rest)
        | _ => none

/-- Read the entries of a block mapping. -/
def blockEntries? (handles : Handles) :
    Nat → List Token → Option (List (Node × Node) × List Token)
  | 0, _ => none
  | fuel + 1, .key :: rest => do
      let (key, rest) ←
        if endsEntry rest.head? then some (Node.empty, rest)
        else node? handles .blockEntry fuel rest
      let (value, rest) ←
        match rest with
        | .value :: rest =>
            if endsEntry rest.head? then some (Node.empty, rest)
            else node? handles .blockEntry fuel rest
        | rest => some (Node.empty, rest)
      let (entries, rest) ← blockEntries? handles fuel rest
      some ((key, value) :: entries, rest)
  | _, .blockEnd :: rest => some ([], rest)
  | _, _ => none

/-- Read the items of a flow sequence; `first` tells that none has been read. -/
def flowItems? (handles : Handles) (first : Bool) :
    Nat → List Token → Option (List Node × List Token)
  | 0, _ => none
  | _, .flowSequenceEnd :: rest => some ([], rest)
  | fuel + 1, tokens => do
      let tokens ←
        if first then some tokens
        else
          match tokens with
          | .flowEntry :: rest => some rest
          | _ => none
      match tokens with
      | .flowSequenceEnd :: rest => some ([], rest)
      | .key :: rest =>
          let (key, rest) ←
            if rest.head? == some .value || endsFlow .flowSequenceEnd rest.head? then
              some (Node.empty, rest.drop 1)
            else node? handles .flow fuel rest
          let (value, rest) ← flowValue? handles .flowSequenceEnd fuel rest
          let (items, rest) ← flowItems? handles false fuel rest
          some (.mapping none none [(key, value)] :: items, rest)
      | tokens =>
          let (item, rest) ← node? handles .flow fuel tokens
          let (items, rest) ← flowItems? handles false fuel rest
          some (item :: items, rest)

/-- Read the value of an entry in a flow collection, empty when no colon announces one. -/
def flowValue? (handles : Handles) (closing : Token) :
    Nat → List Token → Option (Node × List Token)
  | 0, _ => none
  | fuel + 1, .value :: rest =>
      if endsFlow closing rest.head? then some (Node.empty, rest)
      else node? handles .flow fuel rest
  | _, rest => some (Node.empty, rest)

/-- Read the entries of a flow mapping; `first` tells that none has been read. -/
def flowEntries? (handles : Handles) (first : Bool) :
    Nat → List Token → Option (List (Node × Node) × List Token)
  | 0, _ => none
  | _, .flowMappingEnd :: rest => some ([], rest)
  | fuel + 1, tokens => do
      let tokens ←
        if first then some tokens
        else
          match tokens with
          | .flowEntry :: rest => some rest
          | _ => none
      match tokens with
      | .flowMappingEnd :: rest => some ([], rest)
      | .key :: rest =>
          let (key, rest) ←
            if rest.head? == some .value || endsFlow .flowMappingEnd rest.head? then
              some (Node.empty, rest)
            else node? handles .flow fuel rest
          let (value, rest) ← flowValue? handles .flowMappingEnd fuel rest
          let (entries, rest) ← flowEntries? handles false fuel rest
          some ((key, value) :: entries, rest)
      | tokens =>
          let (key, rest) ← node? handles .flow fuel tokens
          let (entries, rest) ← flowEntries? handles false fuel rest
          some ((key, Node.empty) :: entries, rest)

end

/-! ## Documents -/

/-- Whether a token begins the contents of a document. -/
def beginsContent : Token → Bool
  | .documentStart => false
  | .documentEnd => false
  | .version _ _ => false
  | .tagDirective _ _ => false
  | _ => true

/-- Read the contents of a document, and see that nothing follows. -/
def contents? (handles : Handles) (tokens : List Token) : Option Node := do
  let (node, rest) ←
    if (tokens.head?.map beginsContent).getD false then
      node? handles .block (3 * tokens.length + 3) tokens
    else some (Node.empty, tokens)
  if rest.all (· == .documentEnd) then some node else none

/-- Read the one document that some tokens write. -/
def Node.ofTokens? (tokens : List Token) : Option Node := do
  match tokens with
  | [] => some Node.empty
  | .documentEnd :: _ => none
  | tokens =>
      let (given, handles, rest) ← directives? false [] tokens
      let extra := defaultHandles.filter fun h => (handles.lookup h.1).isNone
      match rest with
      | .documentStart :: rest => contents? (handles ++ extra) rest
      | rest => if given then none else contents? (handles ++ extra) rest

end Fingerprinting.Yaml
