/-
# Wappalyzer corpora

A response is searched for the patterns of every application: in its headers, in the cookies that it
sets, and in its body with the sources of scripts and the meta tags.  What the detected applications
imply is detected too. An application counts once, with the first version found that is not empty.
-/
import Fingerprinting.Corpus
import Fingerprinting.Frame.Set
import Fingerprinting.Response.Content
import Fingerprinting.Wappalyzer.App

namespace Fingerprinting.Wappalyzer

/-! ## Views of a response -/

/-- A regular expression of this library, if it is well formed. -/
def viewRegex? (source : String) : Option Regex := (Regex.compile source).toOption

/-- The source of a script. -/
def scriptSource? : Option Regex :=
  viewRegex? "(?i)<script[^>]+src\\s*=\\s*[\"']?([^\"'\\s>]+)"

/-- A meta tag. -/
def metaTag? : Option Regex := viewRegex? "(?i)<meta[^>]+>"

/-- The name of a meta tag. -/
def metaName? : Option Regex :=
  viewRegex? "(?i)(?:name|property)\\s*=\\s*[\"']([^\"']+)[\"']"

/-- The content of a meta tag. -/
def metaContent? : Option Regex := viewRegex? "(?i)content\\s*=\\s*[\"']([^\"']*)[\"']"

/-- All that one regular expression takes in a byte string. -/
def allCaptures (r : Option Regex) (b : Bytes) : List Regex.Captures :=
  match r with
  | some r => r.allCaptures b
  | none => []

/-- What the first group of a regular expression takes in a byte string. -/
def firstGroup? (r : Option Regex) (b : Bytes) : Option Bytes := do
  (← (← r).captures? b).group? 1

/-- The sources of the scripts in a body. -/
def scriptSources (body : Bytes) : List Bytes :=
  (allCaptures scriptSource? body).filterMap fun c => c.group? 1

/-- The names in lower case and the contents of the meta tags in a body. -/
def metaTagsOf (body : Bytes) : List (String × Bytes) :=
  (allCaptures metaTag? body).filterMap fun c => do
    let tag ← c.group? 0
    let name ← firstGroup? metaName? tag
    let content ← firstGroup? metaContent? tag
    some (Text.lower (Utf8.lossy name), content)

/-- The name and the value of a cookie that a header sets, in lower case. -/
def cookie (header : String) : String × String :=
  let pair := String.ofList (header.toList.takeWhile (· != ';'))
  let (name, value) := (Text.cut '=' pair).getD (pair, "")
  (Text.lower (Text.trim name), Text.lower (Text.trim value))

/-- The cookies that a response sets; the last one of a name counts. -/
def cookies (c : Content) : Dictionary String :=
  .ofList ((c.headerValues "set-cookie").map cookie)

/-- What patterns are matched against. -/
structure Views where
  content : Content
  cookies : Dictionary String
  body : Bytes
  scripts : List Bytes
  metaTags : List (String × Bytes)

/-- The views of a response. -/
def Views.ofContent (c : Content) : Views where
  content := c
  cookies := Wappalyzer.cookies c
  body := c.bodyOrRawLower
  scripts := scriptSources c.bodyOrRawLower
  metaTags := metaTagsOf c.bodyOrRawLower

/-! ## Applications in a response -/

namespace App

/-- The versions that the patterns for headers find. -/
def headerVersions (a : App) (v : Views) : List String :=
  a.headers.flatMap fun (name, p) =>
    (v.content.headerValues name).filterMap fun value =>
      p.version? (Utf8.encode (Text.lower value))

/-- The versions that the patterns for cookies find. -/
def cookieVersions (a : App) (v : Views) : List String :=
  a.cookies.filterMap fun (name, p) => do p.version? (Utf8.encode (← v.cookies.get? name))

/-- The versions that the patterns for parts of the body find. -/
def bodyVersions (a : App) (v : Views) : List String :=
  (a.html ++ a.css).filterMap (fun p => p.version? v.body) ++
    a.scripts.flatMap (fun p => v.scripts.filterMap p.version?) ++
    a.metaTags.flatMap fun (name, p) =>
      v.metaTags.filterMap fun (n, content) => if n = name then p.version? content else none

/-- All versions that an application's patterns find, in order. -/
def versions (a : App) (v : Views) : List String :=
  a.headerVersions v ++ a.cookieVersions v ++ a.bodyVersions v

end App

/-! ## Detection -/

/-- Detected applications and their versions. -/
abbrev Detected := Dictionary String

/-- Note an application; a version that is not empty stays. -/
def Detected.note (d : Detected) (name version : String) : Detected :=
  d.alter name fun
    | some v => if v = "" then version else v
    | none => version

end Wappalyzer

open Wappalyzer

/-- The applications of a corpus by name. -/
structure Wappalyzer where
  apps : Dictionary App
deriving Inhabited

namespace Wappalyzer

/-- The applications that are found in a response. -/
def found (s : Wappalyzer) (c : Content) : Detected :=
  let v := Views.ofContent c
  s.apps.values.foldl
    (fun d a => (a.versions v).foldl (fun d version => Detected.note d a.name version) d) .empty

/-- Note what applications imply, the last of the queue first.  An application whose turn has come
or will come is not queued again. -/
def close (s : Wappalyzer) : Nat → List String → List String → Detected → Detected
  | 0, _, _, d => d
  | _, [], _, d => d
  | fuel + 1, name :: queue, visited, d =>
      let implied := ((s.apps.get? name).map App.implies).getD []
      let d := implied.foldl (fun d i => Detected.note d i.name (i.version.getD "")) d
      let fresh := (implied.map Implied.name).eraseDups.filter fun n => !visited.contains n
      close s fuel (fresh.reverse ++ queue) (visited ++ fresh) d

/-- A bound on the number of applications that detection can reach. -/
def reach (s : Wappalyzer) (d : Detected) : Nat :=
  d.size + (s.apps.values.flatMap fun a => a.implies).length + 1

/-- Detected applications with those that they imply, at once or through others. -/
def withImplied (s : Wappalyzer) (d : Detected) : Detected :=
  s.close (s.reach d) d.keys.reverse d.keys d

/-- The applications that are found in a response or implied by others. -/
def detect (s : Wappalyzer) (c : Content) : Detected := s.withImplied (s.found c)

/-- The frame of a detected application. -/
def frame (s : Wappalyzer) (name version : String) : Frame :=
  match s.apps.get? name with
  | some a => a.frame version
  | none => (Frame.new name .wappalyzer).setVersion version

/-- The frames of the applications in a response. -/
def matchWeb (s : Wappalyzer) (c : Content) : Frames :=
  .ofList ((s.detect c).entries.map fun (name, version) => s.frame name version)

/-- The number of applications. -/
def size (s : Wappalyzer) : Nat := s.apps.size

/-! ## Loading -/

/-- Read the name of a category. -/
def category? (d : Document) : Option String := do
  match ← d.slots? [["name"]] with
  | [name] => Document.required? Document.string? name
  | _ => none

/-- Read the applications and the names of categories. -/
def ofDocument? (d : Document) : Option Wappalyzer := do
  match ← d.slots? [["apps", "technologies"], ["categories"]] with
  | [apps, categories] =>
      let apps ← Document.required? (Document.mapOf? AppRecord.ofDocument?) apps
      let categories ← Document.orElse? [] (Document.mapOf? category?) categories
      let categories := Dictionary.ofList categories
      some ⟨.ofList (apps.map fun (name, r) => (name, App.compile categories name r))⟩
  | _ => none

/-- Read a corpus. -/
def load (data : Bytes) : Except Error Wappalyzer := do
  Corpus.ofJson ofDocument? (← Corpus.unpack data)

end Wappalyzer

end Fingerprinting
