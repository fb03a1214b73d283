/-
# Applications

An application is described by patterns for headers, cookies and parts of the body, and may imply
other applications.  `App.compile` keeps the patterns that can be compiled and drops the others.
-/
import Fingerprinting.Cpe.Binding
import Fingerprinting.Dictionary
import Fingerprinting.Frame.Basic
import Fingerprinting.Wappalyzer.Pattern

namespace Fingerprinting.Wappalyzer

/-! ## Records -/

/-- Lists of patterns under the names of headers, cookies and the like. -/
abbrev PatternMap := Dictionary (List String)

/-- An application as it is written. -/
structure AppRecord where
  categories : List Nat := []
  headers : PatternMap := .empty
  cookies : PatternMap := .empty
  html : List String := []
  scripts : List String := []
  metaTags : PatternMap := .empty
  js : PatternMap := .empty
  css : List String := []
  implies : List String := []
  cpe : Option String := none
  description : Option String := none
  website : Option String := none
deriving DecidableEq, Repr, Inhabited

/-- Read one text, a list of them, or nothing. -/
def stringList? : Document → Option (List String)
  | .null => some []
  | .text s => some [s]
  | .list _ items => items.mapM Document.string?
  | _ => none

/-- Read lists of patterns under names. -/
def patternMap? : Option Document → Option PatternMap :=
  Document.orElse? .empty fun d => (Document.mapOf? stringList? d).map .ofList

/-- Read an application. -/
def AppRecord.ofDocument? (d : Document) : Option AppRecord := do
  let strings? := Document.orElse? [] stringList?
  let option? := Document.orElse? none (Document.optional? Document.string?)
  match ← d.slots? [["cats"], ["headers"], ["cookies"], ["html"], ["scripts", "scriptSrc"],
      ["meta"], ["js"], ["css"], ["implies"], ["cpe"], ["description"], ["website"]] with
  | [categories, headers, cookies, html, scripts, metaTags, js, css, implies, cpe, description,
      website] =>
      some
        { categories :=
            ← Document.orElse? [] (Document.listOf? (Document.natural? Text.max32)) categories
          headers := ← patternMap? headers
          cookies := ← patternMap? cookies
          html := ← strings? html
          scripts := ← strings? scripts
          metaTags := ← patternMap? metaTags
          js := ← patternMap? js
          css := ← strings? css
          implies := ← strings? implies
          cpe := ← option? cpe
          description := ← option? description
          website := ← option? website }
  | _ => none

/-! ## Applications -/

/-- An application that another one implies, and the version that this tells. -/
structure Implied where
  name : String
  version : Option String
deriving DecidableEq, Repr, Inhabited

/-- An application with its patterns. -/
structure App where
  name : String
  categories : List String
  headers : List (String × Pattern)
  cookies : List (String × Pattern)
  html : List Pattern
  scripts : List Pattern
  metaTags : List (String × Pattern)
  css : List Pattern
  implies : List Implied
  cpe : Option Cpe
  description : String
  website : String

namespace App

/-- The patterns of a list that can be compiled. -/
def compileList (sources : List String) : List Pattern :=
  sources.filterMap fun s => (Pattern.parse s).toOption

/-- The patterns of a map that can be compiled, with their names in lower case. -/
def compileMap (map : PatternMap) : List (String × Pattern) :=
  map.entries.flatMap fun (name, sources) =>
    (compileList sources).map fun p => (Text.lower name, p)

/-- Read what another application is and which version it has. -/
def implied (s : String) : Implied :=
  let parts := split s
  { name := Text.trim (parts.head?.getD "")
    version :=
      (parts.drop 1).findSome? fun part =>
        (Text.after "version:" part).bind fun v => (VersionTemplate.parse v).literal? }

/-- Compile an application; categories are known by number. -/
def compile (categories : Dictionary String) (name : String) (r : AppRecord) : App where
  name
  categories := r.categories.filterMap fun id => categories.get? (Text.decimal id)
  headers := compileMap r.headers
  cookies := compileMap r.cookies
  html := compileList r.html
  scripts := compileList r.scripts
  metaTags := compileMap r.metaTags
  css := compileList r.css
  implies := (r.implies.map implied).filter fun i => i.name != ""
  cpe := r.cpe.bind fun s => (Cpe.parse s).toOption
  description := r.description.getD ""
  website := r.website.getD ""

/-- The frame of an application with some version. -/
def frame (a : App) (version : String) : Frame :=
  let f := Frame.new a.name .wappalyzer
  let f :=
    match a.cpe with
    | some cpe => f.update cpe
    | none => f
  let f := if version = "" then f else f.setVersion version
  a.categories.foldl (fun f category => f.addTag ("category:" ++ category)) f

end App

end Fingerprinting.Wappalyzer
