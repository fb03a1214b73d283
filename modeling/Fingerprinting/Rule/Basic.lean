/-
# Rules

A rule is one way to recognise a product: literals and regular expressions to look for in a
response, hashes of bodies and icons, and perhaps a payload to send first.  This module holds rules
as a corpus writes them.
-/
import Fingerprinting.Document
import Fingerprinting.Json.Basic

namespace Fingerprinting

/-! ## Records -/

/-- What a rule looks for in a response. -/
structure RulePatterns where
  body : List String := []
  md5 : List String := []
  mmh3 : List String := []
  regexp : List String := []
  version : List String := []
  cert : List String := []
  header : List String := []
  vuln : List String := []
deriving DecidableEq, Repr, Inhabited

/-- Hashes of icons, and where the icon is. -/
structure RuleIcon where
  path : String := ""
  mmh3 : List String := []
  md5 : List String := []
deriving DecidableEq, Repr, Inhabited

/-- A rule as it is written. -/
structure Rule where
  version : String := ""
  favicon : Option RuleIcon := none
  patterns : Option RulePatterns := none
  payload : String := ""
  info : String := ""
  vuln : String := ""
  level : Int := 0
deriving DecidableEq, Repr, Inhabited

/-! ## Reading -/

/-- Read what a rule looks for. -/
def RulePatterns.ofDocument? (d : Document) : Option RulePatterns := do
  match ← d.slots? [["body"], ["md5"], ["mmh3"], ["regexp"], ["version"], ["cert"], ["header"],
      ["vuln"]] with
  | [body, md5, mmh3, regexp, version, cert, header, vuln] =>
      some
        { body := ← Document.strings? body
          md5 := ← Document.strings? md5
          mmh3 := ← Document.strings? mmh3
          regexp := ← Document.strings? regexp
          version := ← Document.strings? version
          cert := ← Document.strings? cert
          header := ← Document.strings? header
          vuln := ← Document.strings? vuln }
  | _ => none

/-- Read hashes of icons. -/
def RuleIcon.ofDocument? (d : Document) : Option RuleIcon := do
  match ← d.slots? [["path"], ["mmh3"], ["md5"]] with
  | [path, mmh3, md5] =>
      some
        { path := ← Document.text? path
          mmh3 := ← Document.strings? mmh3
          md5 := ← Document.strings? md5 }
  | _ => none

/-- The largest level. -/
def Rule.maxLevel : Nat := Text.maxSigned32

/-- Read a rule. -/
def Rule.ofDocument? (d : Document) : Option Rule := do
  match ← d.slots? [["version"], ["favicon"], ["regexps"], ["send_data"], ["info"], ["vuln"],
      ["level"]] with
  | [version, favicon, patterns, payload, info, vuln, level] =>
      some
        { version := ← Document.text? version
          favicon := ← Document.orElse? none (Document.optional? RuleIcon.ofDocument?) favicon
          patterns :=
            ← Document.orElse? none (Document.optional? RulePatterns.ofDocument?) patterns
          payload := ← Document.text? payload
          info := ← Document.text? info
          vuln := ← Document.text? vuln
          level := ← Document.orElse? 0 (Document.integer? maxLevel) level }
  | _ => none

/-! ## Writing -/

/-- What a rule looks for, as a JSON object. -/
def RulePatterns.json (p : RulePatterns) : Json :=
  .object (Json.stringsField "body" p.body ++ Json.stringsField "md5" p.md5 ++
    Json.stringsField "mmh3" p.mmh3 ++ Json.stringsField "regexp" p.regexp ++
    Json.stringsField "version" p.version ++ Json.stringsField "cert" p.cert ++
    Json.stringsField "header" p.header ++ Json.stringsField "vuln" p.vuln)

/-- Hashes of icons as a JSON object. -/
def RuleIcon.json (i : RuleIcon) : Json :=
  .object (Json.textField "path" i.path ++ Json.stringsField "mmh3" i.mmh3 ++
    Json.stringsField "md5" i.md5)

/-- A rule as a JSON object. -/
def Rule.json (r : Rule) : Json :=
  .object (Json.textField "version" r.version ++
    (r.favicon.map fun i => ("favicon", i.json)).toList ++
    (r.patterns.map fun p => ("regexps", p.json)).toList ++
    Json.textField "send_data" r.payload ++ Json.textField "info" r.info ++
    Json.textField "vuln" r.vuln ++ [("level", .whole r.level)])

end Fingerprinting
