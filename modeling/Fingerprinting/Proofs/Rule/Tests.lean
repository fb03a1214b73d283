/-
# The tests of a rule

A test looks at one view of a response: its raw bytes, its header, its body, or a hash of the body.
A compiled rule has a test for everything that the written rule lists.  The tests stand in the order
of their kinds, whatever the order in which a corpus writes the fields of the rule.

* `testVersion?_eq_some_iff` says when a response passes a test, and with which version;
* `Rule.compile_eq_ok_iff` says what a compiled rule is made of, and `pairwise_rank` in which order
  its tests stand;
* `Rule.ofDocument?_perm` says that the fields of a rule may be written in any order.
-/
import Fingerprinting.Proofs.FieldOrder
import Fingerprinting.Proofs.Results
import Fingerprinting.Proofs.Text.Search
import Fingerprinting.Rule.Compiled

namespace Fingerprinting

/-! ## Passing a test -/

/-- The trimmed text of the first group of a match, empty when there is none. -/
def Regex.firstGroup (re : Regex) (b : Bytes) : String :=
  ((re.captures? b).bind fun m => m.group? 1).elim "" fun g => Text.trim (Utf8.lossy g)

/-- The version that a regular expression finds is the text of its first group. -/
theorem Regex.version?_eq_some_iff (re : Regex) (b : Bytes) (v : String) :
    re.version? b = some v ↔ re.isMatch b = true ∧ v = re.firstGroup b := by
  unfold version? isMatch firstGroup
  cases re.captures? b with
  | none => simp
  | some m =>
      have htext :
          Text.trim (m.text 1) = (m.group? 1).elim "" fun g => Text.trim (Utf8.lossy g) := by
        unfold Captures.text
        cases m.group? 1 with
        | none => rfl
        | some g => rfl
      rw [Option.map_some, Option.some.injEq, htext, Option.bind_some]
      simp [eq_comm]

/-- What a test itself finds of the version. -/
def RuleTest.capture (c : Content) : RuleTest → String
  | .vuln re => re.firstGroup c.raw
  | .regexp re => re.firstGroup c.raw
  | _ => ""

namespace CompiledRule

/-- Whether a response passes a test of a rule: a regular expression matches the raw bytes, a
literal occurs in the header or in the body, or the body has a hash. -/
def Passes (r : CompiledRule) (c : Content) : RuleTest → Prop
  | .vuln re => re.isMatch c.raw = true
  | .regexp re => re.isMatch c.raw = true
  | .header b => ∃ header, r.header? c = some header ∧ b <:+: header
  | .body b => b <:+: r.body c
  | .md5 h => md5 c.bodyOrRaw = h
  | .mmh3 h => mmh3 c.bodyOrRaw = h
  | .faviconMd5 h => md5 c.bodyOrRaw = h
  | .faviconMmh3 h => mmh3 c.bodyOrRaw = h

/-- A test is passed with the version that it finds itself. -/
theorem testVersion?_eq_some_iff (r : CompiledRule) (c : Content) (t : RuleTest) (v : String) :
    r.testVersion? c t = some v ↔ r.Passes c t ∧ v = t.capture c := by
  have hplain (p : Prop) [Decidable p] :
      (if p then some "" else none) = some v ↔ p ∧ v = "" := by
    rw [Option.ite_none_right_eq_some, Option.some.injEq, eq_comm (a := "")]
  cases t with
  | vuln re => exact re.version?_eq_some_iff c.raw v
  | regexp re => exact re.version?_eq_some_iff c.raw v
  | header b =>
      unfold testVersion? Passes RuleTest.capture
      cases r.header? c with
      | none => simp
      | some header =>
          dsimp only
          rw [hplain, Bytes.contains_iff]
          simp
  | body b =>
      unfold testVersion? Passes RuleTest.capture
      rw [hplain, Bytes.contains_iff]
  | md5 h => exact hplain _
  | mmh3 h => exact hplain _
  | faviconMd5 h => exact hplain _
  | faviconMmh3 h => exact hplain _

theorem testVersion?_eq_none_iff (r : CompiledRule) (c : Content) (t : RuleTest) :
    r.testVersion? c t = none ↔ ¬ r.Passes c t := by
  cases h : r.testVersion? c t with
  | none =>
      refine iff_of_true rfl fun hpasses => ?_
      rw [(r.testVersion?_eq_some_iff c t _).mpr ⟨hpasses, rfl⟩] at h
      cases h
  | some v =>
      refine iff_of_false (Option.some_ne_none v) (not_not.mpr ?_)
      exact ((r.testVersion?_eq_some_iff c t v).mp h).1

end CompiledRule

/-! ## Kinds -/

namespace RuleTest

/-- The kinds of tests in the order in which they are tried. -/
def kinds : List String :=
  ["vuln", "regexp", "header", "body", "md5", "mmh3", "favicon_md5", "favicon_mmh3"]

/-- The place of a test among the kinds. -/
def rank : RuleTest → Nat
  | .vuln _ => 0
  | .regexp _ => 1
  | .header _ => 2
  | .body _ => 3
  | .md5 _ => 4
  | .mmh3 _ => 5
  | .faviconMd5 _ => 6
  | .faviconMmh3 _ => 7

/-- The kind of a test stands at its place. -/
theorem kinds_eq (t : RuleTest) :
    kinds = kinds.take t.rank ++ t.kind :: kinds.drop (t.rank + 1) := by
  cases t <;> rfl

/-- The kinds before some place are those of the tests of a lower rank. -/
theorem kind_mem_take_iff (t : RuleTest) (n : Nat) : t.kind ∈ kinds.take n ↔ t.rank < n := by
  have hmem : t.kind ∈ kinds := by
    rw [kinds_eq t]
    exact List.mem_append_right _ (List.mem_cons_self ..)
  have hplace : kinds.idxOf t.kind = t.rank := by
    cases t <;> rfl
  rw [List.mem_take_iff_idxOf_lt hmem, hplace]

end RuleTest

/-! ## Compiled rules -/

namespace Rule

/-- The payload of a rule in bytes, if it has one. -/
def bytes? (product : String) (written : Rule) : Except RuleError (Option Bytes) :=
  if written.payload = "" then .ok none
  else ((Payload.parse written.payload).map some).mapError (.inside product)

/-- A compiled rule put together from its parts. -/
def assemble (written : Rule) (caseSensitive : Bool) (payload : Option Bytes)
    (tests : List RuleTest) (versionRegexes : List Regex) : CompiledRule where
  rule := written
  version := if written.version = "" then noVersion else written.version
  level := if written.payload ≠ "" ∧ written.level = 0 then 1 else written.level
  payload := payload
  tests := tests ++ (written.favicon.map iconTests).getD []
  versionRegexes := versionRegexes
  certs := (written.patterns.getD {}).cert
  caseSensitive := caseSensitive

/-- A rule is compiled when its payload, its tests and its version patterns are. -/
theorem compile_eq_ok_iff (product : String) (caseSensitive : Bool) (written : Rule)
    (r : CompiledRule) :
    written.compile product caseSensitive = .ok r ↔
      ∃ payload tests versionRegexes, written.bytes? product = .ok payload ∧
        patternTests caseSensitive (written.patterns.getD {}) = .ok tests ∧
        (written.patterns.getD {}).version.mapM (regex false) = .ok versionRegexes ∧
        r = written.assemble caseSensitive payload tests versionRegexes := by
  have hcompile : written.compile product caseSensitive = (do
      let payload ← written.bytes? product
      let tests ← patternTests caseSensitive (written.patterns.getD {})
      let versionRegexes ← (written.patterns.getD {}).version.mapM (regex false)
      .ok (written.assemble caseSensitive payload tests versionRegexes)) := by
    unfold compile bytes?
    by_cases hpayload : written.payload = ""
    · rw [if_pos hpayload, if_pos hpayload]
      rfl
    · rw [if_neg hpayload, if_neg hpayload]
      cases Payload.parse written.payload <;> rfl
  rw [hcompile]
  simp only [Results.bind_eq_ok_iff, Except.ok.injEq]
  constructor
  · rintro ⟨payload, hpayload, tests, htests, versionRegexes, hversions, rfl⟩
    exact ⟨payload, tests, versionRegexes, hpayload, htests, hversions, rfl⟩
  · rintro ⟨payload, tests, versionRegexes, hpayload, htests, hversions, rfl⟩
    exact ⟨payload, hpayload, tests, htests, versionRegexes, hversions, rfl⟩

/-- The tests for what a rule looks for are compiled when its regular expressions are. -/
theorem patternTests_eq_ok_iff (caseSensitive : Bool) (p : RulePatterns) (tests : List RuleTest) :
    patternTests caseSensitive p = .ok tests ↔
      ∃ vulns regexps, p.vuln.mapM (regex true) = .ok vulns ∧
        p.regexp.mapM (regex true) = .ok regexps ∧
        tests = vulns.map .vuln ++ regexps.map .regexp ++
          p.header.map (fun s => .header (literal caseSensitive s)) ++
          p.body.map (fun s => .body (literal caseSensitive s)) ++
          p.md5.map (fun h => .md5 (normalDigest h)) ++
          p.mmh3.map (fun h => .mmh3 (normalNumber h)) := by
  unfold patternTests
  simp only [Results.bind_eq_ok_iff, Except.ok.injEq]
  constructor
  · rintro ⟨vulns, hvulns, regexps, hregexps, rfl⟩
    exact ⟨vulns, regexps, hvulns, hregexps, rfl⟩
  · rintro ⟨vulns, regexps, hvulns, hregexps, rfl⟩
    exact ⟨vulns, hvulns, regexps, hregexps, rfl⟩

/-- A rule without icons has the tests of a list without icons. -/
theorem getD_iconTests (icon : Option RuleIcon) :
    (icon.map iconTests).getD [] = iconTests (icon.getD {}) := by
  cases icon <;> rfl

/-- Every literal for the body has its test. -/
theorem body_mem_tests {product : String} {caseSensitive : Bool} {written : Rule}
    {r : CompiledRule} (h : written.compile product caseSensitive = .ok r) {s : String}
    (hs : s ∈ (written.patterns.getD {}).body) : .body (literal caseSensitive s) ∈ r.tests := by
  obtain ⟨payload, tests, versionRegexes, -, htests, -, rfl⟩ := (compile_eq_ok_iff _ _ _ _).mp h
  obtain ⟨vulns, regexps, -, -, rfl⟩ := (patternTests_eq_ok_iff _ _ _).mp htests
  have hmem : RuleTest.body (literal caseSensitive s) ∈
      (written.patterns.getD {}).body.map fun s => .body (literal caseSensitive s) :=
    List.mem_map_of_mem hs
  simp only [assemble, List.mem_append]
  exact .inl (.inl (.inl (.inr hmem)))

end Rule

/-- The tests of a compiled rule stand in the order of their kinds. -/
theorem CompiledRule.pairwise_rank {product : String} {caseSensitive : Bool} {written : Rule}
    {r : CompiledRule} (h : written.compile product caseSensitive = .ok r) :
    r.tests.Pairwise fun t u => t.rank ≤ u.rank := by
  obtain ⟨payload, tests, versionRegexes, -, htests, -, rfl⟩ :=
    (Rule.compile_eq_ok_iff _ _ _ _).mp h
  obtain ⟨vulns, regexps, -, -, rfl⟩ := (Rule.patternTests_eq_ok_iff _ _ _).mp htests
  have hsame {α : Type} (xs : List α) : xs.Pairwise fun _ _ => True :=
    List.pairwise_of_forall fun _ _ => trivial
  rw [Rule.assemble, Rule.getD_iconTests, Rule.iconTests]
  simp only [List.pairwise_append, List.pairwise_map, List.forall_mem_append, List.forall_mem_map,
    RuleTest.rank]
  simp [hsame]

/-! ## Written rules -/

section

variable (tag : Option String) {entries entries' : List (Document × Document)}

/-- What a rule looks for may be written in any order. -/
theorem RulePatterns.ofDocument?_perm (h : entries.Perm entries') :
    RulePatterns.ofDocument? (.map tag entries) = RulePatterns.ofDocument? (.map tag entries') := by
  unfold ofDocument?
  rw [Document.slots?_perm _ tag h]

/-- The hashes of icons may be written in any order. -/
theorem RuleIcon.ofDocument?_perm (h : entries.Perm entries') :
    RuleIcon.ofDocument? (.map tag entries) = RuleIcon.ofDocument? (.map tag entries') := by
  unfold ofDocument?
  rw [Document.slots?_perm _ tag h]

/-- The fields of a rule may be written in any order. -/
theorem Rule.ofDocument?_perm (h : entries.Perm entries') :
    Rule.ofDocument? (.map tag entries) = Rule.ofDocument? (.map tag entries') := by
  unfold ofDocument?
  rw [Document.slots?_perm _ tag h]

end

end Fingerprinting
