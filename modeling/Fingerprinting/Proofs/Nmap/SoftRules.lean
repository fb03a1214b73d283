/-
# Soft rules

The rules of a probe are tried in their order, and a soft rule that matches leaves only the rules
for its service in play.  What comes of it can be said without the order in which this happens: the
first rule that matches names the service, be it soft or not, and the first rule for that service
that matches and is not soft says the rest.

* `respond_some` says what comes after a soft rule has matched, and `respond_none` what comes of all
  rules, each by induction on the rules.

Main statement: `Probe.respond_first`.
-/
import Fingerprinting.Proofs.Nmap.CompiledRules

namespace Fingerprinting.Nmap

namespace MatchRule

/-! ## Rules for a service -/

/-- A rule for a service matches a reply. -/
def agrees (data : Bytes) (service : String) (m : MatchRule) : Bool :=
  m.service == service && m.isMatch data

/-- A rule for a service matches a reply and is not soft. -/
def decides (data : Bytes) (service : String) (m : MatchRule) : Bool :=
  !m.soft && m.agrees data service

theorem agrees_of_decides {data : Bytes} {service : String} {m : MatchRule}
    (h : m.decides data service = true) : m.agrees data service = true :=
  ((Bool.and_eq_true _ _).mp h).2

theorem agrees_of_not_isMatch {data : Bytes} {m : MatchRule} (h : m.isMatch data = false)
    (service : String) : m.agrees data service = false := by
  rw [agrees, h, Bool.and_false]

theorem decides_of_not_agrees {data : Bytes} {service : String} {m : MatchRule}
    (h : m.agrees data service = false) : m.decides data service = false := by
  rw [decides, h, Bool.and_false]

/-! ## The rules of a probe -/

/-- What some rules say about a reply that is of a service, when `last` was the last soft rule. -/
def respondFor (data : Bytes) (service : String) (last : MatchRule) (rules : List MatchRule) :
    Fingerprint :=
  match rules.find? (decides data service) with
  | some h => { h.describe data with regex := h.regex.source }
  | none =>
      { service, regex := ((rules.filter (agrees data service)).getLastD last).regex.source }

/-- A rule that does not agree says nothing. -/
theorem respondFor_cons_of_not_agrees {data : Bytes} {service : String} {m : MatchRule}
    (h : m.agrees data service = false) (last : MatchRule) (rest : List MatchRule) :
    respondFor data service last (m :: rest) = respondFor data service last rest := by
  have hdecides := decides_of_not_agrees h
  rw [respondFor, respondFor, List.find?_cons_of_neg (by simp [hdecides]),
    List.filter_cons_of_neg (by simp [h])]

/-- A rule that agrees decides, or is the last soft rule from there on. -/
theorem respondFor_cons_of_agrees {data : Bytes} {service : String} {m : MatchRule}
    (h : m.agrees data service = true) (last : MatchRule) (rest : List MatchRule) :
    respondFor data service last (m :: rest) =
      if m.soft then respondFor data service m rest
      else { m.describe data with regex := m.regex.source } := by
  cases hsoft : m.soft with
  | true =>
      have hdecides : m.decides data service = false := by
        rw [decides, hsoft]
        rfl
      rw [if_pos rfl, respondFor, respondFor, List.find?_cons_of_neg (by simp [hdecides]),
        List.filter_cons_of_pos h, List.getLastD_cons]
  | false =>
      have hdecides : m.decides data service = true := by
        rw [decides, hsoft, h]
        rfl
      rw [if_neg Bool.false_ne_true, respondFor, List.find?_cons_of_pos hdecides]

/-- After a soft rule has matched, the first rule for its service that is not soft decides. -/
theorem respond_some (data : Bytes) (s : MatchRule) (rules : List MatchRule) :
    respond data (some s) rules = respondFor data s.service s rules := by
  induction rules generalizing s with
  | nil => rfl
  | cons m rest ih =>
      have hskip : (s.service != m.service || !m.isMatch data) = !m.agrees data s.service := by
        rw [agrees, Bool.not_and, bne, Bool.beq_comm]
      rw [respond, Option.any_some, hskip]
      cases hagrees : m.agrees data s.service with
      | false =>
          rw [Bool.not_false, if_pos rfl, respondFor_cons_of_not_agrees hagrees, ih s]
      | true =>
          -- A soft rule takes the place of the one before it, whose service it has.
          have hservice : m.service = s.service :=
            beq_iff_eq.mp ((Bool.and_eq_true _ _).mp hagrees).1
          rw [Bool.not_true, if_neg Bool.false_ne_true, respondFor_cons_of_agrees hagrees, ih m,
            hservice]

/-- The first rule that matches names the service. -/
theorem respond_none (data : Bytes) (rules : List MatchRule) :
    respond data none rules =
      match rules.find? (fun m => m.isMatch data) with
      | some m => respondFor data m.service m rules
      | none => {} := by
  induction rules with
  | nil => rfl
  | cons m rest ih =>
      rw [respond, Option.any_none, Bool.false_or]
      cases hmatch : m.isMatch data with
      | false =>
          rw [Bool.not_false, if_pos rfl, ih, List.find?_cons_of_neg (by simp [hmatch])]
          cases rest.find? (fun m => m.isMatch data) with
          | none => rfl
          | some first =>
              have hagrees := agrees_of_not_isMatch hmatch first.service
              exact (respondFor_cons_of_not_agrees hagrees first rest).symm
      | true =>
          have hagrees : m.agrees data m.service = true := by
            rw [agrees, hmatch, beq_self_eq_true]
            rfl
          have hfirst : (m :: rest).find? (fun m => m.isMatch data) = some m :=
            List.find?_cons_of_pos hmatch
          rw [Bool.not_true, if_neg Bool.false_ne_true, hfirst, respond_some]
          exact (respondFor_cons_of_agrees hagrees m rest).symm

/-! ## What is known of a service -/

/-- What a rule reads off what its groups took. -/
def reading (m : MatchRule) (captures : Regex.Captures) : Fingerprint where
  regex := m.regex.source
  service := m.service
  product := m.info.product.render captures.text
  version := m.info.version.render captures.text
  info := m.info.info.render captures.text
  hostname := m.info.hostname.render captures.text
  system := m.info.system.render captures.text
  device := m.info.device.render captures.text
  cpes := m.cpesOf captures.text

/-- A rule that matches has groups to read off. -/
theorem describe_of_isMatch {m : MatchRule} {data : Bytes} (h : m.isMatch data = true) :
    ∃ captures, m.regex.captures? data = some captures ∧
      { m.describe data with regex := m.regex.source } = m.reading captures := by
  obtain ⟨captures, hcaptures⟩ := Option.isSome_iff_exists.mp h
  refine ⟨captures, hcaptures, ?_⟩
  rw [describe, hcaptures]
  rfl

theorem respondFor_of_decides {data : Bytes} {service : String} {rules : List MatchRule}
    {m : MatchRule} (h : rules.find? (decides data service) = some m) (last : MatchRule) :
    ∃ captures, m.regex.captures? data = some captures ∧
      respondFor data service last rules = m.reading captures := by
  have hagrees := agrees_of_decides (List.find?_some h)
  obtain ⟨captures, hcaptures, hreading⟩ :=
    describe_of_isMatch ((Bool.and_eq_true _ _).mp hagrees).2
  refine ⟨captures, hcaptures, ?_⟩
  rw [respondFor, h]
  exact hreading

theorem respondFor_of_none {data : Bytes} {service : String} {rules : List MatchRule}
    (h : rules.find? (decides data service) = none) (last : MatchRule) :
    respondFor data service last rules =
      { service, regex := ((rules.filter (agrees data service)).getLastD last).regex.source } := by
  rw [respondFor, h]

theorem service_respondFor (data : Bytes) (service : String) (last : MatchRule)
    (rules : List MatchRule) : (respondFor data service last rules).service = service := by
  cases hfind : rules.find? (decides data service) with
  | none => rw [respondFor_of_none hfind]
  | some m =>
      obtain ⟨captures, -, hreading⟩ := respondFor_of_decides hfind last
      have hagrees := agrees_of_decides (List.find?_some hfind)
      rw [hreading]
      exact beq_iff_eq.mp ((Bool.and_eq_true _ _).mp hagrees).1

end MatchRule

/-! ## Probes -/

namespace Probe

variable {p : Probe} {data : Bytes}

/-- Nothing is known of a reply that no rule matches. -/
theorem respond_of_unmatched (h : p.rules.find? (fun m => m.isMatch data) = none) :
    p.respond data = {} := by
  rw [respond, MatchRule.respond_none, h]

theorem respond_of_first {m : MatchRule}
    (h : p.rules.find? (fun m => m.isMatch data) = some m) :
    p.respond data = MatchRule.respondFor data m.service m p.rules := by
  rw [respond, MatchRule.respond_none, h]

theorem isMatch_of_first {m : MatchRule}
    (h : p.rules.find? (fun m => m.isMatch data) = some m) : m.isMatch data = true :=
  List.find?_some (p := fun m : MatchRule => m.isMatch data) h

/-- The first rule that matches a reply names the service. -/
theorem service_respond {m : MatchRule} (h : p.rules.find? (fun m => m.isMatch data) = some m) :
    (p.respond data).service = m.service := by
  rw [respond_of_first h, MatchRule.service_respondFor]

/-- A reply is recognised when some rule matches it. -/
theorem IsCompiled.isMatched_respond (hp : p.IsCompiled) (data : Bytes) :
    (p.respond data).isMatched = p.rules.any fun m => m.isMatch data := by
  cases hfirst : p.rules.find? (fun m => m.isMatch data) with
  | none =>
      rw [respond_of_unmatched hfirst, List.any_eq_false.mpr (List.find?_eq_none.mp hfirst)]
      rfl
  | some m =>
      have hmem := List.mem_of_find?_eq_some hfirst
      rw [Fingerprint.isMatched, service_respond hfirst,
        List.any_eq_true.mpr ⟨m, hmem, isMatch_of_first hfirst⟩, bne_iff_ne]
      exact (hp m hmem).service_ne_empty

/-- A reply to a probe is recognised when some rule matches it.  The first such rule names the
service, be it soft or not.  All else is read off the first rule for that service that matches and
is not soft, wherever it stands; where there is none, nothing else is known. -/
theorem respond_first (p : Probe) (hp : p.IsCompiled) (data : Bytes) :
    ((p.respond data).service ≠ "" ↔ ∃ m ∈ p.rules, m.isMatch data = true) ∧
    (p.rules.find? (fun m => m.isMatch data) = none → p.respond data = {}) ∧
    ∀ m, p.rules.find? (fun m => m.isMatch data) = some m →
      (p.respond data).service = m.service ∧
      (∀ h, p.rules.find? (MatchRule.decides data m.service) = some h →
        ∃ captures, h.regex.captures? data = some captures ∧
          p.respond data = h.reading captures) ∧
      (p.rules.find? (MatchRule.decides data m.service) = none →
        ∃ last, (p.rules.filter (MatchRule.agrees data m.service)).getLast? = some last ∧
          p.respond data = { service := m.service, regex := last.regex.source }) := by
  refine ⟨?_, respond_of_unmatched, fun m hfirst => ⟨service_respond hfirst, fun h hh => ?_,
    fun hnone => ?_⟩⟩
  · rw [← bne_iff_ne, ← Fingerprint.isMatched, hp.isMatched_respond data, List.any_eq_true]
  · rw [respond_of_first hfirst]
    exact MatchRule.respondFor_of_decides hh m
  · -- The first rule agrees with itself, so there is a last one that does.
    have hagrees : m ∈ p.rules.filter (MatchRule.agrees data m.service) := by
      simp [List.mem_of_find?_eq_some hfirst, MatchRule.agrees, isMatch_of_first hfirst]
    obtain ⟨last, hlast⟩ := Option.isSome_iff_exists.mp
      (List.getLast?_isSome.mpr (List.ne_nil_of_mem hagrees))
    refine ⟨last, hlast, ?_⟩
    rw [respond_of_first hfirst, MatchRule.respondFor_of_none hnone,
      List.getLastD_eq_getLast?, hlast]
    rfl

end Probe

/-- A soft rule, a rule for another service that matches the same replies, and a rule for the
service of the first. -/
def softThenHard : Probe :=
  { Probe.new .tcp "Hello" [] with
    rules := [("http m|^a|", true), ("ftp m|^a|", false), ("http m|b(c)| p/$1/", false)].flatMap
      fun (args, soft) => ((MatchRule.parse args soft).toOption.bind id).toList }

/-- The rule for the other service is passed over, and the last rule says more than the soft one. -/
theorem respond_first_of_soft :
    softThenHard.IsCompiled ∧
    (softThenHard.rules.map fun m => (m.soft, m.service)) =
      [(true, "http"), (false, "ftp"), (false, "http")] ∧
    (softThenHard.respond (Utf8.encode "abc")).service = "http" ∧
    (softThenHard.respond (Utf8.encode "abc")).product = "c" := by
  have hcompiled : softThenHard.IsCompiled := by
    intro m hm
    obtain ⟨⟨args, soft⟩, -, hm⟩ := List.mem_flatMap.mp hm
    exact MatchRule.isCompiled_of_mem_toList hm
  have hshown : (softThenHard.rules.map fun m => (m.soft, m.service)) =
      [(true, "http"), (false, "ftp"), (false, "http")] := by
    cbv
  have hfirst : (softThenHard.rules.find? fun m => m.isMatch (Utf8.encode "abc")).map
      MatchRule.service = some "http" := by
    cbv
  have hdecides : ((softThenHard.rules.find? (MatchRule.decides (Utf8.encode "abc") "http")).bind
      fun h => (h.regex.captures? (Utf8.encode "abc")).map
        fun captures => h.info.product.render captures.text) = some "c" := by
    cbv
  obtain ⟨-, -, hnamed⟩ := Probe.respond_first softThenHard hcompiled (Utf8.encode "abc")
  obtain ⟨m, hm, hservice⟩ := Option.map_eq_some_iff.mp hfirst
  obtain ⟨hfor, hhard, -⟩ := hnamed m hm
  rw [hservice] at hfor hhard
  obtain ⟨h, hh, hproduct⟩ := Option.bind_eq_some_iff.mp hdecides
  obtain ⟨captures, hcaptures, hreading⟩ := hhard h hh
  rw [hcaptures] at hproduct
  refine ⟨hcompiled, hshown, hfor, ?_⟩
  rw [hreading]
  exact Option.some.inj hproduct

end Fingerprinting.Nmap
