/-
# Aliases

Engines spell the name of a product each in its own way.  An alias is the one name that is reported
for a product, with the spellings of every engine and the attributes of the product; an engine that
an alias blocks is not believed about it.

* `Aliases.append` files an alias, in the place of one of the same name;
* `Aliases.find?` looks a spelling of an engine up, and `Aliases.apply` renames a frame.
-/
import Fingerprinting.Corpus
import Fingerprinting.Dictionary
import Fingerprinting.Frame.Set

namespace Fingerprinting

/-! ## Aliases -/

/-- The reported name of a product. -/
structure Alias where
  name : String
  cpe : Cpe := {}
  categories : String := ""
  priority : Int := 0
  link : List String := []
  /-- The spellings of each engine. -/
  spellings : Dictionary (List String) := .empty
  block : List String := []
  /-- Names of demonstrations for the product. -/
  pocs : List String := []
deriving DecidableEq, Repr, Inhabited

namespace Alias

/-- The alias with one spelling more. -/
def withSpelling (a : Alias) (engine name : String) : Alias :=
  { a with spellings := a.spellings.alter engine fun names => names.getD [] ++ [name] }

/-- Whether an engine is blocked. -/
def blocks (a : Alias) (engine : String) : Bool := a.block.contains engine

/-- Whether a text is a spelling of the name. -/
def resembles (a : Alias) (s : String) : Bool := Corpus.normalName a.name == Corpus.normalName s

/-- The attributes of the product as an application. -/
def attributes (a : Alias) : Cpe := { a.cpe with part := "a" }

/-- An alias under its name in lower case. -/
def filed (a : Alias) : Alias := { a with name := Text.lower a.name }

/-- Read an alias.  The attributes of the product stand among its own fields. -/
def ofDocument? (d : Document) : Option Alias := do
  match ← d.sharedSlots? ["name", "categories", "priority", "link", "alias", "block", "pocs"] with
  | ([name, categories, priority, link, spellings, block, pocs], others) =>
      let namesOf := Document.mapOf? (Document.listOf? Document.string?)
      some
        { name := ← Document.required? Document.string? name
          cpe := ← Cpe.ofEntries? others
          categories := ← Document.text? categories
          priority := ← Document.orElse? 0 (Document.integer? Text.maxSigned32) priority
          link := ← Document.strings? link
          spellings := .ofList (← Document.orElse? [] namesOf spellings)
          block := ← Document.strings? block
          pocs := ← Document.strings? pocs }
  | _ => none

/-- An alias as a JSON object. -/
def json (a : Alias) : Json :=
  .object ([("name", Json.string a.name)] ++ a.cpe.fields ++
    Json.textField "categories" a.categories ++ [("priority", .whole a.priority)] ++
    Json.stringsField "link" a.link ++
    [("alias", .object (a.spellings.entries.map fun (k, v) => (k, .strings v)))] ++
    Json.stringsField "block" a.block ++ Json.stringsField "pocs" a.pocs)

end Alias

/-! ## Tables -/

/-- What is known about a spelling. -/
inductive AliasMatch where
  /-- The product has this alias. -/
  | found (a : Alias)
  /-- The product has this alias, which blocks the engine. -/
  | blocked (a : Alias)
deriving Inhabited

/-- A table of aliases. -/
structure Aliases where
  /-- Aliases by name in lower case. -/
  records : Dictionary Alias := .empty
  /-- For each engine, names of aliases by spelling in normal form. -/
  claims : Dictionary (Dictionary String) := .empty
deriving DecidableEq, Inhabited

namespace Aliases

/-- No aliases. -/
def empty : Aliases := {}

/-- The number of aliases. -/
def size (t : Aliases) : Nat := t.records.size

/-- The alias with a name in any case. -/
def get? (t : Aliases) (name : String) : Option Alias := t.records.get? (Text.lower name)

/-- Claim a spelling of an engine for an alias. -/
def claim (claims : Dictionary (Dictionary String)) (engine spelling name : String) :
    Dictionary (Dictionary String) :=
  claims.alter engine fun names =>
    (names.getD .empty).insert (Corpus.normalName spelling) name

/-- Claim all spellings of an alias. -/
def claimAll (claims : Dictionary (Dictionary String)) (a : Alias) :
    Dictionary (Dictionary String) :=
  a.spellings.entries.foldl
    (fun claims (engine, names) =>
      names.foldl (fun claims spelling => claim claims engine spelling a.name) claims) claims

/-- The alias with the demonstrations of the one that it replaces before its own. -/
def succeed (old : Option Alias) (a : Alias) : Alias :=
  match old with
  | none => a
  | some o =>
      { a with pocs := a.pocs.foldl (fun ps p => if ps.contains p then ps else ps ++ [p]) o.pocs }

/-- File an alias, in the place of one of the same name. -/
def append (t : Aliases) (a : Alias) : Aliases :=
  let a := a.filed
  let a := succeed (t.records.get? a.name) a
  ⟨t.records.insert a.name a, claimAll t.claims a⟩

/-- File some aliases. -/
def extend (t : Aliases) (as : List Alias) : Aliases := as.foldl append t

/-- The table of some aliases and of a corpus that may replace them. -/
def load (seed : List Alias) (corpus : Option Bytes) : Except Error Aliases := do
  let t := empty.extend seed
  match corpus with
  | none => .ok t
  | some data => do
      .ok (t.extend (← Corpus.ofYaml (Document.listOf? Alias.ofDocument?) data))

/-! ## Look-ups -/

/-- The alias for a spelling of an engine. -/
def find? (t : Aliases) (engine name : String) : Option AliasMatch := do
  let a ← t.records.get? (← (← t.claims.get? engine).get? (Corpus.normalName name))
  some (if a.blocks engine then .blocked a else .found a)

/-- The first engine that spells a name so and is not blocked, and the alias. -/
def findAny? (t : Aliases) (name : String) : Option (String × Alias) :=
  t.claims.keys.findSome? fun engine =>
    match t.find? engine name with
    | some (.found a) => some (engine, a)
    | _ => none

/-- The frame of an engine under the name of its alias, or nothing if the alias blocks the engine.
-/
def apply (t : Aliases) (engine : String) (f : Frame) : Option Frame :=
  match t.find? engine f.name with
  | some (.found a) => some ({ f with name := a.name }.update a.attributes)
  | some (.blocked _) => none
  | none => some f

/-- Fold the frames of an engine into others. -/
def merge (t : Aliases) (engine : String) (into frames : Frames) : Frames :=
  (frames.toList.filterMap (t.apply engine)).foldl Frames.add into

end Aliases

end Fingerprinting
