/-
# The match of a rule

The first test that a response passes decides the match, so the kind of a match is the first kind
of which some test is passed.  The certificate decides when no test is passed, and then only for an
HTTP response.  The version is the one that the deciding test finds; when it finds none, it is the
last one that a version pattern finds.

* `firstTest?_eq_some_iff` says which test a run along the tests stops at;
* `lastVersion?_eq_some_iff` says which version pattern has the last word;
* `isSome_match?_iff` says which responses match;
* `first_test_decides` puts the match together.
-/
import Fingerprinting.Proofs.Rule.Tests

namespace Fingerprinting

/-- A text is mentioned when it stands somewhere in the other. -/
theorem Text.mentions_iff (needle text : String) :
    Text.mentions needle text = true ↔ needle.toList <:+: text.toList := by
  unfold mentions
  induction text.toList with
  | nil => rw [mentions.occurs, List.isEmpty_iff, List.infix_nil]
  | cons c rest ih =>
      rw [mentions.occurs, Bool.or_eq_true, ih, List.isPrefixOf_iff_prefix, List.infix_cons_iff]

/-- A version pattern says something when the text of its first group is not empty. -/
theorem Regex.filter_version?_eq_some_iff (re : Regex) (b : Bytes) (v : String) :
    (re.version? b).filter (· != "") = some v ↔ v = re.firstGroup b ∧ v ≠ "" := by
  rw [Option.filter_eq_some_iff, re.version?_eq_some_iff, bne_iff_ne]
  refine ⟨fun h => ⟨h.1.2, h.2⟩, ?_⟩
  rintro ⟨rfl, hne⟩
  refine ⟨⟨?_, rfl⟩, hne⟩
  unfold Regex.firstGroup at hne
  unfold Regex.isMatch
  cases h : re.captures? b with
  | none => rw [h] at hne; exact absurd rfl hne
  | some m => rfl

theorem Regex.filter_version?_eq_none_iff (re : Regex) (b : Bytes) :
    (re.version? b).filter (· != "") = none ↔ re.firstGroup b = "" := by
  rw [Option.eq_none_iff_forall_ne_some]
  simp only [ne_eq, re.filter_version?_eq_some_iff, not_and, not_not, forall_eq]

namespace CompiledRule

variable (r : CompiledRule) (c : Content)

/-! ## The first test that is passed -/

/-- What a response that passes a test is known by; `index` tests precede the test. -/
def matchOf (index : Nat) (t : RuleTest) : RuleMatch :=
  ⟨t.isVuln, t.capture c, some ⟨t.kind, some index, t.subject⟩⟩

theorem firstTest?_of_passes {t : RuleTest} (h : r.Passes c t) (index : Nat)
    (rest : List RuleTest) : r.firstTest? c index (t :: rest) = some (matchOf c index t) := by
  rw [firstTest?, (r.testVersion?_eq_some_iff c t _).mpr ⟨h, rfl⟩]
  rfl

theorem firstTest?_of_not_passes {t : RuleTest} (h : ¬ r.Passes c t) (index : Nat)
    (rest : List RuleTest) :
    r.firstTest? c index (t :: rest) = r.firstTest? c (index + 1) rest := by
  rw [firstTest?, (r.testVersion?_eq_none_iff c t).mpr h]

/-- No test is found when none is passed. -/
theorem firstTest?_eq_none_iff (index : Nat) (tests : List RuleTest) :
    r.firstTest? c index tests = none ↔ ∀ t ∈ tests, ¬ r.Passes c t := by
  induction tests generalizing index with
  | nil => exact iff_of_true rfl fun _ hmem => absurd hmem List.not_mem_nil
  | cons t rest ih =>
      rw [List.forall_mem_cons]
      by_cases ht : r.Passes c t
      · rw [r.firstTest?_of_passes c ht]
        exact iff_of_false (Option.some_ne_none _) fun h => h.1 ht
      · rw [r.firstTest?_of_not_passes c ht, ih]
        exact (and_iff_right ht).symm

/-- The run stops at the first test that is passed. -/
theorem firstTest?_eq_some_iff (index : Nat) (tests : List RuleTest) (m : RuleMatch) :
    r.firstTest? c index tests = some m ↔
      ∃ before t after, tests = before ++ t :: after ∧ (∀ u ∈ before, ¬ r.Passes c u) ∧
        r.Passes c t ∧ m = matchOf c (index + before.length) t := by
  constructor
  · intro h
    induction tests generalizing index with
    | nil => cases h
    | cons t rest ih =>
        by_cases ht : r.Passes c t
        · rw [r.firstTest?_of_passes c ht, Option.some.injEq] at h
          exact ⟨[], t, rest, rfl, fun _ hmem => absurd hmem List.not_mem_nil, ht, h.symm⟩
        · rw [r.firstTest?_of_not_passes c ht] at h
          obtain ⟨before, u, after, rfl, hbefore, hu, rfl⟩ := ih (index + 1) h
          refine ⟨t :: before, u, after, rfl, List.forall_mem_cons.mpr ⟨ht, hbefore⟩, hu, ?_⟩
          rw [List.length_cons, Nat.add_assoc, Nat.add_comm 1]
  · rintro ⟨before, t, after, rfl, hbefore, ht, rfl⟩
    induction before generalizing index with
    | nil => exact r.firstTest?_of_passes c ht index after
    | cons u rest ih =>
        obtain ⟨hu, hrest⟩ := List.forall_mem_cons.mp hbefore
        rw [List.cons_append, r.firstTest?_of_not_passes c hu, ih (index + 1) hrest,
          List.length_cons, Nat.add_assoc, Nat.add_comm 1]

/-! ## The certificate -/

/-- The certificate decides by the first literal that it mentions. -/
theorem certMatch?_eq_some_iff (m : RuleMatch) :
    r.certMatch? c = some m ↔
      ∃ cert, c.cert = some cert ∧ ∃ before literal after, r.certs = before ++ literal :: after ∧
        (∀ earlier ∈ before, ¬ earlier.toList <:+: cert.toList) ∧
        literal.toList <:+: cert.toList ∧ m = { detail := some ⟨"cert", none, literal⟩ } := by
  unfold certMatch? cert?
  simp only [Option.bind_eq_bind, Option.bind_eq_some_iff, List.find?_eq_some_iff_append,
    Bool.not_eq_true', ← Bool.not_eq_true, Text.mentions_iff, Option.some.injEq]
  constructor
  · rintro ⟨cert, hcert, literal, ⟨hmentions, before, after, hsplit, hbefore⟩, rfl⟩
    exact ⟨cert, hcert, before, literal, after, hsplit, hbefore, hmentions, rfl⟩
  · rintro ⟨cert, hcert, before, literal, after, hsplit, hbefore, hmentions, rfl⟩
    exact ⟨cert, hcert, literal, ⟨hmentions, before, after, hsplit, hbefore⟩, rfl⟩

theorem isSome_certMatch?_iff :
    (r.certMatch? c).isSome = true ↔
      ∃ cert, c.cert = some cert ∧ ∃ s ∈ r.certs, s.toList <:+: cert.toList := by
  have hmap : r.certMatch? c = (c.cert.bind r.cert?).map fun literal =>
      { detail := some ⟨"cert", none, literal⟩ } := by
    unfold certMatch?
    cases c.cert with
    | none => rfl
    | some cert => exact Option.map_eq_bind.symm
  rw [hmap, Option.isSome_map]
  cases c.cert with
  | none => simp
  | some cert =>
      rw [Option.bind_some, cert?, List.find?_isSome]
      simp only [Text.mentions_iff, Option.some.injEq, exists_eq_left']

/-! ## The version patterns -/

/-- The last version pattern that finds something has the last word. -/
theorem lastVersion?_eq_some_iff (v : String) :
    r.lastVersion? c = some v ↔
      ∃ before re after, r.versionRegexes = before ++ re :: after ∧ v = re.firstGroup c.raw ∧
        v ≠ "" ∧ ∀ later ∈ after, later.firstGroup c.raw = "" := by
  rw [lastVersion?, List.filter_filterMap, List.getLast?_filterMap, List.findSome?_eq_some_iff]
  simp only [Regex.filter_version?_eq_some_iff, Regex.filter_version?_eq_none_iff]
  constructor
  · rintro ⟨after, re, before, hsplit, ⟨hv, hne⟩, hafter⟩
    refine ⟨before.reverse, re, after.reverse, ?_, hv, hne, fun later hmem =>
      hafter later (List.mem_reverse.mp hmem)⟩
    rw [List.reverse_eq_append_iff] at hsplit
    simpa using hsplit
  · rintro ⟨before, re, after, hsplit, hv, hne, hafter⟩
    refine ⟨after.reverse, re, before.reverse, ?_, ⟨hv, hne⟩, fun later hmem =>
      hafter later (List.mem_reverse.mp hmem)⟩
    rw [List.reverse_eq_append_iff]
    simpa using hsplit

/-- No version is found when no version pattern finds one. -/
theorem lastVersion?_eq_none_iff :
    r.lastVersion? c = none ↔ ∀ re ∈ r.versionRegexes, re.firstGroup c.raw = "" := by
  rw [lastVersion?, List.filter_filterMap, List.getLast?_filterMap, List.findSome?_eq_none_iff]
  simp only [Regex.filter_version?_eq_none_iff, List.mem_reverse]

/-- The version of a match whose deciding test finds `own`: that one if it is not empty, else the
last one that a version pattern finds, else none. -/
inductive IsVersion (own : String) : String → Prop
  | own (h : own ≠ "") : IsVersion own own
  | pattern {before after : List Regex} {re : Regex} (silent : own = "")
      (split : r.versionRegexes = before ++ re :: after) (found : re.firstGroup c.raw ≠ "")
      (last : ∀ later ∈ after, later.firstGroup c.raw = "") :
      IsVersion own (re.firstGroup c.raw)
  | unknown (silent : own = "") (none : ∀ re ∈ r.versionRegexes, re.firstGroup c.raw = "") :
      IsVersion own ""

/-! ## The match -/

/-- A match with the version that the version patterns find, if its own test finds none. -/
def versioned (m : RuleMatch) : RuleMatch :=
  if m.version = "" then { m with version := (r.lastVersion? c).getD "" } else m

@[simp] theorem detail_versioned (m : RuleMatch) : (r.versioned c m).detail = m.detail := by
  unfold versioned
  split <;> rfl

@[simp] theorem isVuln_versioned (m : RuleMatch) : (r.versioned c m).isVuln = m.isVuln := by
  unfold versioned
  split <;> rfl

theorem isVersion_versioned (m : RuleMatch) :
    r.IsVersion c m.version (r.versioned c m).version := by
  unfold versioned
  by_cases hown : m.version = ""
  · rw [if_pos hown]
    cases hlast : r.lastVersion? c with
    | none => exact .unknown hown ((r.lastVersion?_eq_none_iff c).mp hlast)
    | some v =>
        obtain ⟨before, re, after, hsplit, rfl, hne, hafter⟩ :=
          (r.lastVersion?_eq_some_iff c v).mp hlast
        exact .pattern hown hsplit hne hafter
  · rw [if_neg hown]
    exact .own hown

theorem match?_eq (isHttp : Bool) :
    r.match? c isHttp = ((r.primary? c).or (if isHttp then r.certMatch? c else none)).map
      (r.versioned c) := by
  unfold match?
  cases (r.primary? c).or (if isHttp then r.certMatch? c else none) with
  | none => rfl
  | some m => exact (apply_ite some _ _ _).symm

/-- A response matches when it passes a test or when its certificate mentions a literal. -/
theorem isSome_match?_iff (isHttp : Bool) :
    (r.match? c isHttp).isSome = true ↔
      (∃ t ∈ r.tests, r.Passes c t) ∨
        isHttp = true ∧ ∃ cert, c.cert = some cert ∧ ∃ s ∈ r.certs, s.toList <:+: cert.toList := by
  have hprimary : (r.primary? c).isSome = true ↔ ∃ t ∈ r.tests, r.Passes c t := by
    rw [Option.isSome_iff_ne_none, primary?, ne_eq, firstTest?_eq_none_iff]
    simp only [not_forall, not_not, exists_prop]
  rw [match?_eq, Option.isSome_map, Option.isSome_or, Bool.or_eq_true, hprimary,
    ← isSome_certMatch?_iff]
  cases isHttp <;> simp

/-- The first kind of which a response passes a test. -/
def IsFirstKind (kind : String) : Prop :=
  ∃ before after, RuleTest.kinds = before ++ kind :: after ∧
    (∃ t ∈ r.tests, t.kind = kind ∧ r.Passes c t) ∧
    ∀ earlier ∈ before, ∀ t ∈ r.tests, t.kind = earlier → ¬ r.Passes c t

/-- What decides a match: the first test that the response passes, or the first literal that its
certificate mentions. -/
inductive Decides (isHttp : Bool) (m : RuleMatch) : Prop
  | test {i : Nat} {t : RuleTest} (place : r.tests[i]? = some t) (passes : r.Passes c t)
      (first : ∀ j < i, ∀ u, r.tests[j]? = some u → ¬ r.Passes c u)
      (detail : m.detail = some ⟨t.kind, some i, t.subject⟩) (kind : r.IsFirstKind c t.kind)
      (version : r.IsVersion c (t.capture c) m.version)
  | cert {cert literal : String} {before after : List String}
      (silent : ∀ t ∈ r.tests, ¬ r.Passes c t) (http : isHttp = true) (has : c.cert = some cert)
      (split : r.certs = before ++ literal :: after)
      (first : ∀ earlier ∈ before, ¬ earlier.toList <:+: cert.toList)
      (mentioned : literal.toList <:+: cert.toList)
      (detail : m.detail = some ⟨"cert", none, literal⟩) (version : r.IsVersion c "" m.version)

/-! ## The tests in their order -/

section

variable {r c} {before after : List RuleTest} {t : RuleTest}

/-- No test that is passed is of a lower rank than the first one. -/
theorem rank_le_of_passes (sorted : r.tests.Pairwise fun t u => t.rank ≤ u.rank)
    (split : r.tests = before ++ t :: after) (first : ∀ u ∈ before, ¬ r.Passes c u)
    {u : RuleTest} (hu : u ∈ r.tests) (hpasses : r.Passes c u) : t.rank ≤ u.rank := by
  rw [split] at hu sorted
  rcases List.mem_append.mp hu with hu | hu
  · exact absurd hpasses (first u hu)
  · rcases List.mem_cons.mp hu with rfl | hu
    · exact Nat.le_refl _
    · exact List.rel_of_pairwise_cons (List.pairwise_append.mp sorted).2.1 hu

/-- The first test that is passed is of the first kind of which some test is passed. -/
theorem isFirstKind_of_first (sorted : r.tests.Pairwise fun t u => t.rank ≤ u.rank)
    (split : r.tests = before ++ t :: after) (first : ∀ u ∈ before, ¬ r.Passes c u)
    (passes : r.Passes c t) : r.IsFirstKind c t.kind := by
  refine ⟨_, _, t.kinds_eq, ⟨t, split ▸ List.mem_append_cons_self, rfl, passes⟩, ?_⟩
  rintro _ hearlier u hu rfl hpasses
  have hlower : u.rank < t.rank := (u.kind_mem_take_iff t.rank).mp hearlier
  exact Nat.not_le.mpr hlower (rank_le_of_passes sorted split first hu hpasses)

/-- The first test that is passed is one for a vulnerability when some such test is passed. -/
theorem isVuln_eq_true_iff (sorted : r.tests.Pairwise fun t u => t.rank ≤ u.rank)
    (split : r.tests = before ++ t :: after) (first : ∀ u ∈ before, ¬ r.Passes c u)
    (passes : r.Passes c t) :
    t.isVuln = true ↔ ∃ re, .vuln re ∈ r.tests ∧ re.isMatch c.raw = true := by
  constructor
  · intro hvuln
    cases t with
    | vuln re => exact ⟨re, split ▸ List.mem_append_cons_self, passes⟩
    | _ => cases hvuln
  · rintro ⟨re, hre, hmatch⟩
    have hrank := rank_le_of_passes sorted split first hre hmatch
    cases t with
    | vuln re' => rfl
    | _ => exact absurd hrank (Nat.not_succ_le_zero _)

/-- A match by a test is that of the first test that is passed. -/
theorem Decides.of_test (isHttp : Bool) (sorted : r.tests.Pairwise fun t u => t.rank ≤ u.rank)
    (split : r.tests = before ++ t :: after) (first : ∀ u ∈ before, ¬ r.Passes c u)
    (passes : r.Passes c t) :
    r.Decides c isHttp (r.versioned c (matchOf c before.length t)) := by
  refine .test (i := before.length) ?_ passes ?_ (r.detail_versioned c _)
    (isFirstKind_of_first sorted split first passes)
    (r.isVersion_versioned c (matchOf c before.length t))
  · rw [split, List.getElem?_append_right (Nat.le_refl _), Nat.sub_self, List.getElem?_cons_zero]
  · intro j hj u hu
    rw [split, List.getElem?_append_left hj] at hu
    exact first u (List.mem_of_getElem? hu)

end

/-! ## The match put together -/

/-- What decides a match, and whether it reveals a vulnerability. -/
theorem decides_of_match? (sorted : r.tests.Pairwise fun t u => t.rank ≤ u.rank) {isHttp : Bool}
    {m : RuleMatch} (h : r.match? c isHttp = some m) :
    r.Decides c isHttp m ∧
      (m.isVuln = true ↔ ∃ re, .vuln re ∈ r.tests ∧ re.isMatch c.raw = true) := by
  rw [match?_eq, Option.map_eq_some_iff] at h
  obtain ⟨found, hfound, rfl⟩ := h
  rw [isVuln_versioned]
  rcases Option.or_eq_some_iff.mp hfound with htest | ⟨hnone, hcert⟩
  · obtain ⟨before, t, after, split, first, passes, rfl⟩ :=
      (r.firstTest?_eq_some_iff c 0 r.tests found).mp htest
    rw [Nat.zero_add]
    exact ⟨.of_test isHttp sorted split first passes,
      isVuln_eq_true_iff sorted split first passes⟩
  · have silent := (r.firstTest?_eq_none_iff c 0 r.tests).mp hnone
    obtain ⟨rfl, hcert⟩ := Option.ite_none_right_eq_some.mp hcert
    obtain ⟨cert, has, before, literal, after, split, first, mentioned, rfl⟩ :=
      (r.certMatch?_eq_some_iff c found).mp hcert
    refine ⟨.cert silent rfl has split first mentioned (r.detail_versioned c _)
      (r.isVersion_versioned c { detail := some ⟨"cert", none, literal⟩ }),
      iff_of_false Bool.false_ne_true ?_⟩
    rintro ⟨re, hre, hmatch⟩
    exact silent _ hre hmatch

/-- A rule with one test alone matches when the response passes the test. -/
theorem isSome_match?_alone_iff (t : RuleTest) :
    ({ r with tests := [t] }.match? c false).isSome = true ↔ r.Passes c t := by
  rw [isSome_match?_iff, or_iff_left (fun h => Bool.false_ne_true h.1)]
  simp only [List.mem_singleton, exists_eq_left]
  cases t <;> exact Iff.rfl

/-- A rule matches when the response passes one of its tests, each as if it were alone, or when the
certificate of an HTTP response mentions a literal.  The first test that is passed decides; it is of
the first kind of which some test is passed, in whatever order the fields of the rule are
written. -/
theorem first_test_decides {product : String} {caseSensitive : Bool} {written : Rule}
    {r : CompiledRule} (h : written.compile product caseSensitive = .ok r) (c : Content)
    (isHttp : Bool) :
    ((r.match? c isHttp).isSome = true ↔
      (∃ t ∈ r.tests, ({ r with tests := [t] }.match? c false).isSome = true) ∨
        isHttp = true ∧ ∃ cert, c.cert = some cert ∧ ∃ s ∈ r.certs, s.toList <:+: cert.toList) ∧
    (∀ t, ({ r with tests := [t] }.match? c false).isSome = true ↔ r.Passes c t) ∧
    (∀ m, r.match? c isHttp = some m → r.Decides c isHttp m ∧
      (m.isVuln = true ↔ ∃ re, .vuln re ∈ r.tests ∧ re.isMatch c.raw = true)) ∧
    ∀ tag (entries entries' : List (Document × Document)), entries.Perm entries' →
      RulePatterns.ofDocument? (.map tag entries) = RulePatterns.ofDocument? (.map tag entries') ∧
        RuleIcon.ofDocument? (.map tag entries) = RuleIcon.ofDocument? (.map tag entries') ∧
        Rule.ofDocument? (.map tag entries) = Rule.ofDocument? (.map tag entries') := by
  refine ⟨?_, fun t => r.isSome_match?_alone_iff c t, fun m hm =>
    r.decides_of_match? c (pairwise_rank h) hm, fun tag entries entries' hperm =>
    ⟨RulePatterns.ofDocument?_perm tag hperm, RuleIcon.ofDocument?_perm tag hperm,
      Rule.ofDocument?_perm tag hperm⟩⟩
  simp only [isSome_match?_alone_iff]
  exact r.isSome_match?_iff c isHttp

/-- A rule with tests of three kinds and a certificate. -/
def router : Rule where
  patterns := some
    { md5 := ["d41d8cd98f00b204e9800998ecf8427e"], body := ["Login", "ADMIN"], header := ["Acme"]
      cert := ["acme"] }

/-- The third test decides, although the certificate mentions the product as well. -/
theorem first_test_decides_of_router :
    ∃ r, router.compile "router" false = .ok r ∧
      let c := (Content.ofRaw (Utf8.encode "Admin: acme")).withCert "acme"
      let m : RuleMatch := ⟨false, "", some ⟨"body", some 2, "admin"⟩⟩
      r.match? c true = some m ∧ r.Decides c true m := by
  have hmatch : ((router.compile "router" false).toOption.bind fun r =>
      r.match? ((Content.ofRaw (Utf8.encode "Admin: acme")).withCert "acme") true) =
        some ⟨false, "", some ⟨"body", some 2, "admin"⟩⟩ := by
    decide +kernel
  cases h : router.compile "router" false with
  | error e => rw [h] at hmatch; cases hmatch
  | ok r =>
      rw [h] at hmatch
      obtain ⟨-, -, hdecides, -⟩ := first_test_decides h
        ((Content.ofRaw (Utf8.encode "Admin: acme")).withCert "acme") true
      exact ⟨r, rfl, hmatch, (hdecides _ hmatch).1⟩

end CompiledRule

end Fingerprinting
