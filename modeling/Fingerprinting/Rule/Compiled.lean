/-
# Compiled rules

A compiled rule is a list of tests and the payload to send before them.  The first test that a
response passes decides the match; a certificate is looked at only when no test is passed.

* `CompiledRule.primary?` is the match by tests;
* `CompiledRule.match?` adds the certificate and the version.
-/
import Fingerprinting.Favicon
import Fingerprinting.Payload
import Fingerprinting.Regex.Basic
import Fingerprinting.Rule.Basic

namespace Fingerprinting

/-! ## Tests -/

/-- One test of a rule. -/
inductive RuleTest where
  | vuln (regex : Regex)
  | regexp (regex : Regex)
  | header (literal : Bytes)
  | body (literal : Bytes)
  | md5 (hash : String)
  | mmh3 (hash : String)
  | faviconMd5 (hash : String)
  | faviconMmh3 (hash : String)

namespace RuleTest

/-- The name of a kind of tests. -/
def kind : RuleTest → String
  | .vuln _ => "vuln"
  | .regexp _ => "regexp"
  | .header _ => "header"
  | .body _ => "body"
  | .md5 _ => "md5"
  | .mmh3 _ => "mmh3"
  | .faviconMd5 _ => "favicon_md5"
  | .faviconMmh3 _ => "favicon_mmh3"

/-- What a test looks for. -/
def subject : RuleTest → String
  | .vuln r => r.source
  | .regexp r => r.source
  | .header b => Utf8.lossy b
  | .body b => Utf8.lossy b
  | .md5 h => h
  | .mmh3 h => h
  | .faviconMd5 h => h
  | .faviconMmh3 h => h

/-- Whether passing the test reveals a vulnerability. -/
def isVuln : RuleTest → Bool
  | .vuln _ => true
  | _ => false

end RuleTest

/-- The trimmed first group of a match, empty when it took no part. -/
def Regex.version? (r : Regex) (b : Bytes) : Option String :=
  (r.captures? b).map fun c => Text.trim (c.text 1)

/-! ## Rules -/

/-- A compiled rule. -/
structure CompiledRule where
  rule : Rule
  /-- The version that the rule claims, or `noVersion`. -/
  version : String
  level : Int
  payload : Option Bytes
  tests : List RuleTest
  versionRegexes : List Regex
  certs : List String
  caseSensitive : Bool

/-- The outcome of a match. -/
structure RuleMatch where
  isVuln : Bool := false
  version : String := ""
  detail : Option MatchDetail := none
deriving DecidableEq, Repr, Inhabited

/-- The version of a rule that claims none. -/
def noVersion : String := "_"

/-! ## Compiling -/

namespace Rule

/-- Compile a regular expression of a rule. -/
def regex (ignoreCase : Bool) (source : String) : Except RuleError Regex :=
  match Regex.compile (if ignoreCase then "(?i)" ++ source else source) with
  | .ok r => .ok r
  | .error _ => .error (.pattern source)

/-- The bytes of a literal, in lower case unless case counts. -/
def literal (caseSensitive : Bool) (s : String) : Bytes :=
  Utf8.encode (if caseSensitive then s else Text.lower s)

/-- The tests for what a rule looks for in a response. -/
def patternTests (caseSensitive : Bool) (p : RulePatterns) : Except RuleError (List RuleTest) := do
  let vulns ← p.vuln.mapM (regex true)
  let regexps ← p.regexp.mapM (regex true)
  .ok (vulns.map .vuln ++ regexps.map .regexp ++
    p.header.map (fun s => .header (literal caseSensitive s)) ++
    p.body.map (fun s => .body (literal caseSensitive s)) ++
    p.md5.map (fun h => .md5 (normalDigest h)) ++
    p.mmh3.map (fun h => .mmh3 (normalNumber h)))

/-- The tests for icons. -/
def iconTests (i : RuleIcon) : List RuleTest :=
  i.md5.map (fun h => .faviconMd5 (normalDigest h)) ++
    i.mmh3.map (fun h => .faviconMmh3 (normalNumber h))

/-- Compile a rule of a product.  A rule that sends something has at least level one. -/
def compile (product : String) (caseSensitive : Bool) (r : Rule) :
    Except RuleError CompiledRule := do
  let payload ←
    if r.payload = "" then .ok none
    else
      match Payload.parse r.payload with
      | .ok b => .ok (some b)
      | .error e => .error (.inside product e)
  let patterns := r.patterns.getD {}
  let tests ← patternTests caseSensitive patterns
  let versionRegexes ← patterns.version.mapM (regex false)
  .ok
    { rule := r
      version := if r.version = "" then noVersion else r.version
      level := if r.payload ≠ "" ∧ r.level = 0 then 1 else r.level
      payload
      tests := tests ++ (r.favicon.map iconTests).getD []
      versionRegexes
      certs := patterns.cert
      caseSensitive }

end Rule

/-! ## Matching -/

namespace CompiledRule

/-- Whether a rule sends something. -/
def isActive (r : CompiledRule) : Bool := r.payload.isSome

/-- The header that literals are looked for in. -/
def header? (r : CompiledRule) (c : Content) : Option Bytes :=
  if r.caseSensitive then c.header? else c.headerLower?

/-- The body that literals are looked for in. -/
def body (r : CompiledRule) (c : Content) : Bytes :=
  if r.caseSensitive then c.bodyOrRaw else c.bodyOrRawLower

/-- The version that a test finds when a response passes it. -/
def testVersion? (r : CompiledRule) (c : Content) : RuleTest → Option String
  | .vuln re => re.version? c.raw
  | .regexp re => re.version? c.raw
  | .header b =>
      match r.header? c with
      | some h => if Bytes.contains b h then some "" else none
      | none => none
  | .body b => if Bytes.contains b (r.body c) then some "" else none
  | .md5 h => if md5 c.bodyOrRaw = h then some "" else none
  | .mmh3 h => if mmh3 c.bodyOrRaw = h then some "" else none
  | .faviconMd5 h => if md5 c.bodyOrRaw = h then some "" else none
  | .faviconMmh3 h => if mmh3 c.bodyOrRaw = h then some "" else none

/-- The match by the first of some tests that a response passes; `index` tests precede them. -/
def firstTest? (r : CompiledRule) (c : Content) (index : Nat) : List RuleTest → Option RuleMatch
  | [] => none
  | t :: rest =>
      match r.testVersion? c t with
      | some version => some ⟨t.isVuln, version, some ⟨t.kind, some index, t.subject⟩⟩
      | none => r.firstTest? c (index + 1) rest

/-- The match by the tests of a rule. -/
def primary? (r : CompiledRule) (c : Content) : Option RuleMatch := r.firstTest? c 0 r.tests

/-- The first literal of a rule that a certificate contains. -/
def cert? (r : CompiledRule) (cert : String) : Option String :=
  r.certs.find? fun s => Text.mentions s cert

/-- The match by the certificate of a response. -/
def certMatch? (r : CompiledRule) (c : Content) : Option RuleMatch := do
  let literal ← r.cert? (← c.cert)
  some { detail := some ⟨"cert", none, literal⟩ }

/-- The last version that is not empty among those that the version patterns find. -/
def lastVersion? (r : CompiledRule) (c : Content) : Option String :=
  ((r.versionRegexes.filterMap fun re => re.version? c.raw).filter (· != "")).getLast?

/-- The match of a rule; only an HTTP response is known by its certificate. -/
def match? (r : CompiledRule) (c : Content) (isHttp : Bool) : Option RuleMatch := do
  let m ← (r.primary? c).or (if isHttp then r.certMatch? c else none)
  if m.version = "" then some { m with version := (r.lastVersion? c).getD "" } else some m

end CompiledRule

end Fingerprinting
