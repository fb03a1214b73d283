/-
# YAML documents

`Document.ofYaml?` reads the document of a YAML text in UTF-8.  An alias stands for the node that
has its anchor, and its anchor must have come before it.  What is nested too deeply, as an alias
inside its own node always is, has no value.
-/
import Fingerprinting.Yaml.Node

namespace Fingerprinting.Yaml

/-! ## Anchors -/

/-- The anchors so far.  Each name has a number, the number of names known before it was set last,
and each number has the nodes that were anchored under it, with their places in the text. -/
structure Anchors where
  numbers : List (String × Nat) := []
  count : Nat := 0
  nodes : List (Nat × Nat × Node) := []

namespace Anchors

/-- Give a number to an anchor, and tell the number and the place. -/
def set (s : Anchors) (name : String) : Anchors × Nat × Nat :=
  let n := s.numbers.length
  let numbers := (name, n) :: s.numbers.filter fun a => a.1 != name
  ({ s with numbers, count := s.count + 1 }, n, s.count)

/-- Keep a node under its number. -/
def keep (s : Anchors) (n place : Nat) (node : Node) : Anchors :=
  { s with nodes := (n, place, node) :: s.nodes }

/-- The node under a number that was anchored last. -/
def node? (s : Anchors) (n : Nat) : Option Node :=
  let found := s.nodes.filter fun a => a.1 == n
  (found.foldl (fun best a =>
    match best with
    | none => some a
    | some b => if b.2.1 < a.2.1 then some a else some b) none).map fun a => a.2.2

end Anchors

mutual

/-- Number the aliases of a node by the anchors before them; an alias of no anchor is refused. -/
def number? (s : Anchors) : Node → Option (Node × Anchors)
  | .alias name _ => do some (.alias name (← s.numbers.lookup name), s)
  | .scalar none tag style text => some (.scalar none tag style text, s)
  | .scalar (some a) tag style text =>
      let (s, n, place) := s.set a
      let node := Node.scalar none tag style text
      some (node, s.keep n place node)
  | .sequence none tag items => do
      let (items, s) ← numberItems? s items
      some (.sequence none tag items, s)
  | .sequence (some a) tag items => do
      let (s, n, place) := s.set a
      let (items, s) ← numberItems? s items
      let node := Node.sequence none tag items
      some (node, s.keep n place node)
  | .mapping none tag entries => do
      let (entries, s) ← numberEntries? s entries
      some (.mapping none tag entries, s)
  | .mapping (some a) tag entries => do
      let (s, n, place) := s.set a
      let (entries, s) ← numberEntries? s entries
      let node := Node.mapping none tag entries
      some (node, s.keep n place node)

/-- Number the aliases of some items. -/
def numberItems? (s : Anchors) : List Node → Option (List Node × Anchors)
  | [] => some ([], s)
  | node :: rest => do
      let (node, s) ← number? s node
      let (rest, s) ← numberItems? s rest
      some (node :: rest, s)

/-- Number the aliases of some entries. -/
def numberEntries? (s : Anchors) : List (Node × Node) → Option (List (Node × Node) × Anchors)
  | [] => some ([], s)
  | (key, value) :: rest => do
      let (key, s) ← number? s key
      let (value, s) ← number? s value
      let (rest, s) ← numberEntries? s rest
      some ((key, value) :: rest, s)

end

/-! ## Documents -/

/-- How deeply lists and maps may be nested. -/
def maxDepth : Nat := 128

/-- The node that an alias stands for. -/
def target (s : Anchors) : Node → Option Node
  | .alias _ n => s.node? n
  | node => some node

/-- The document of a numbered node. -/
def document (s : Anchors) : Nat → Node → Document
  | depth, node =>
      match target s node, depth with
      | some (.scalar _ tag style text), _ => .scalar tag style text
      | some (.sequence _ tag items), depth + 1 => .list tag (items.map (document s depth))
      | some (.mapping _ tag entries), depth + 1 =>
          .map tag (entries.map fun (k, v) => (document s depth k, document s depth v))
      | _, _ => .unreadable

end Yaml

/-- The document of a YAML text. -/
def Document.ofYaml? (b : Bytes) : Option Document := do
  let tokens ← Yaml.Token.scan? (← Utf8.decode? b).toList
  let node ← Yaml.Node.ofTokens? tokens
  let (node, anchors) ← Yaml.number? {} node
  some (Yaml.document anchors Yaml.maxDepth node)

end Fingerprinting
