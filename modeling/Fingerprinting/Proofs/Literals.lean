/-
# Literals and their own text

Four kinds of rules look for literals in any case.  They take a literal in lower case when they are
compiled and a response in lower case when they are matched, but all letters of the literal and only
the ASCII letters of the response.  A literal with another capital letter is therefore missed where
it stands as it is written, and every other literal is found there.

* `Rule.findsLiteral_iff`, `HubRecord.findsKeyword_iff`, `EHoleFinger.findsKeyword_iff` and
  `GobyFinger.findsFeature_iff` say which literals each kind of rules finds;
* `literals_found_iff` puts them together.
-/
import Fingerprinting.EHole
import Fingerprinting.Goby.Basic
import Fingerprinting.Hub
import Fingerprinting.Proofs.Rule.Matching
import Fingerprinting.Proofs.Text.AsciiCase

namespace Fingerprinting

/-! ## Contents -/

namespace Content

theorem bodyLower?_eq (c : Content) : c.bodyLower? = c.body?.map Text.asciiLowerBytes := by
  unfold bodyLower? body? lower Text.asciiLowerBytes
  cases c.split with
  | none => rfl
  | some i => exact congrArg some List.map_drop.symm

theorem bodyOrRawLower_eq (c : Content) : c.bodyOrRawLower = Text.asciiLowerBytes c.bodyOrRaw := by
  rw [bodyOrRawLower, bodyOrRaw, bodyLower?_eq]
  cases c.body? <;> rfl

/-- The body stands at the end of the response. -/
theorem bodyOrRaw_suffix (c : Content) : c.bodyOrRaw <:+ c.raw := by
  unfold bodyOrRaw body?
  cases c.split with
  | none => exact List.suffix_refl _
  | some i => exact List.drop_suffix _ _

/-- Everything behind a blank line at the beginning is the body. -/
theorem body?_ofHttp (b : Bytes) : (ofHttp (blankLine ++ b)).body? = some b := by
  have hcut : splitContent (blankLine ++ b) = some ([], b) :=
    Bytes.cut?_append (by decide) [] b (by decide)
  unfold ofHttp
  rw [hcut]
  cases HttpResponse.parse (blankLine ++ b) <;> rfl

end Content

/-- A literal whose letters outside ASCII are in lower case is found, in lower case, where it
stands. -/
theorem Text.IsAsciiCased.contains_lower {s : String} (h : IsAsciiCased s) {b : Bytes}
    (hb : Utf8.encode s <:+: b) :
    Bytes.contains (Utf8.encode (lower s)) (asciiLowerBytes b) = true :=
  (Bytes.contains_iff _ _).mpr (((encode_lower_infix_iff s).mpr h).trans (hb.map asciiLowerByte))

/-- A literal that is found, in lower case, among its own bytes has its letters outside ASCII in
lower case. -/
theorem Text.isAsciiCased_of_contains {s : String}
    (h : Bytes.contains (Utf8.encode (lower s)) (asciiLowerBytes (Utf8.encode s)) = true) :
    IsAsciiCased s :=
  (encode_lower_infix_iff s).mp ((Bytes.contains_iff _ _).mp h)

/-! ## Rules -/

/-- Whether every rule with a literal for the body matches all responses whose body has the text of
the literal. -/
def Rule.FindsLiteral (s : String) : Prop :=
  ∀ (product : String) (written : Rule) (r : CompiledRule),
    written.compile product false = .ok r → s ∈ (written.patterns.getD {}).body →
      ∀ (c : Content) (isHttp : Bool), Utf8.encode s <:+: c.bodyOrRaw →
        (r.match? c isHttp).isSome = true

theorem Rule.findsLiteral_iff (s : String) : FindsLiteral s ↔ Text.IsAsciiCased s := by
  constructor
  · intro h
    -- The rule with the literal alone has one test for it.
    let written : Rule := { patterns := some { body := [s] } }
    have hpasses := (CompiledRule.isSome_match?_iff _ _ _).mp
      (h "" written _ rfl List.mem_cons_self (.ofRaw (Utf8.encode s)) false (List.infix_refl _))
    obtain ⟨t, ht, hpasses⟩ := hpasses.resolve_right fun hcert => Bool.false_ne_true hcert.1
    obtain rfl := List.mem_singleton.mp ht
    exact (Text.encode_lower_infix_iff s).mp hpasses
  · intro hs product written r hr hmem c isHttp hbody
    obtain ⟨payload, tests, versionRegexes, -, -, -, rfl⟩ := (compile_eq_ok_iff _ _ _ _).mp hr
    refine (CompiledRule.isSome_match?_iff _ c isHttp).mpr (.inl ⟨_, body_mem_tests hr hmem, ?_⟩)
    show Utf8.encode (Text.lower s) <:+: c.bodyOrRawLower
    rw [Content.bodyOrRawLower_eq]
    exact (Bytes.contains_iff _ _).mp (hs.contains_lower hbody)

/-! ## Hub records -/

/-- Whether every record with one keyword fits all responses whose body has the text of the keyword,
as far as its status and its headers fit them. -/
def HubRecord.FindsKeyword (s : String) : Prop :=
  ∀ record : HubRecord, record.keywords = [s] → ∀ c : Content,
    record.status = 0 ∨ c.status = some record.status → record.compile.fitsHeaders c = true →
      Utf8.encode s <:+: c.bodyOrRaw → record.compile.fits c = true

/-- A record with one keyword looks for it in lower case. -/
theorem HubRecord.fits_compile {record : HubRecord} {s : String} (h : record.keywords = [s])
    (c : Content) : record.compile.fits c =
      ((record.status == 0 || c.status == some record.status) && record.compile.fitsHeaders c &&
        Bytes.contains (Utf8.encode (Text.lower s)) (Text.asciiLowerBytes c.bodyOrRaw)) := by
  have hkeywords : record.compile.keywords = [Utf8.encode (Text.lower s)] := by
    rw [compile, h, List.map_singleton]
  rw [HubRule.fits, HubRule.fitsBody, hkeywords, List.all_cons, List.all_nil, Bool.and_true,
    Content.bodyOrRawLower_eq, List.isEmpty_cons, Bool.not_false, Bool.or_true, Bool.and_true]
  rfl

theorem HubRecord.findsKeyword_iff (s : String) : FindsKeyword s ↔ Text.IsAsciiCased s := by
  constructor
  · intro h
    have hfits := h { keywords := [s] } rfl (.ofRaw (Utf8.encode s)) (.inl rfl) rfl
      (List.infix_refl _)
    rw [fits_compile rfl, Bool.and_eq_true] at hfits
    exact Text.isAsciiCased_of_contains hfits.2
  · intro hs record hone c hstatus hheaders hbody
    have hstatus : (record.status == 0 || c.status == some record.status) = true := by
      rwa [Bool.or_eq_true, beq_iff_eq, beq_iff_eq]
    rw [fits_compile hone, hstatus, hheaders, hs.contains_lower hbody]
    rfl

/-! ## EHole fingers -/

/-- Whether every finger for bodies with one keyword fits all responses whose body has the text of
the keyword. -/
def EHoleFinger.FindsKeyword (s : String) : Prop :=
  ∀ (f : EHoleFinger) (r : EHoleRule), f.compile = .ok r → f.method = .keyword →
    f.location ≠ .header → f.keywords = [s] → ∀ (c : Content) (body : Bytes),
      c.body? = some body → Utf8.encode s <:+: body → r.fits c = true

/-- A finger for bodies with one keyword looks for it in lower case. -/
theorem EHoleFinger.fits_of_compile {f : EHoleFinger} {r : EHoleRule} (h : f.compile = .ok r)
    (hmethod : f.method = .keyword) (hlocation : f.location ≠ .header) {s : String}
    (hone : f.keywords = [s]) {c : Content} {body : Bytes} (hbody : c.body? = some body) :
    r.fits c = Bytes.contains (Utf8.encode (Text.lower s)) (Text.asciiLowerBytes body) := by
  obtain ⟨name, method, location, keywords⟩ := f
  subst hmethod hone
  cases h
  have hlower : c.bodyLower? = some (Text.asciiLowerBytes body) := by
    rw [Content.bodyLower?_eq, hbody, Option.map_some]
  cases location with
  | header => exact absurd rfl hlocation
  | body =>
      simp only [EHoleRule.fits, EHoleRule.haystack?, bare, hlower]
      exact Bool.and_true _
  | title =>
      simp only [EHoleRule.fits, EHoleRule.haystack?, bare, hlower]
      exact Bool.and_true _

theorem EHoleFinger.findsKeyword_iff (s : String) : FindsKeyword s ↔ Text.IsAsciiCased s := by
  constructor
  · intro h
    let f : EHoleFinger := ⟨"", .keyword, .body, [s]⟩
    obtain ⟨r, hr⟩ : ∃ r, f.compile = .ok r := ⟨_, rfl⟩
    have hlocation : f.location ≠ .header := EHoleLocation.noConfusion
    have hbody := Content.body?_ofHttp (Utf8.encode s)
    have hfits := h f r hr rfl hlocation rfl _ _ hbody (List.infix_refl _)
    rw [fits_of_compile hr rfl hlocation rfl hbody] at hfits
    exact Text.isAsciiCased_of_contains hfits
  · intro hs f r hr hmethod hlocation hone c body hbody hinfix
    rw [fits_of_compile hr hmethod hlocation hone hbody]
    exact hs.contains_lower hinfix

/-! ## Goby fingers -/

/-- Whether every finger whose logic is the label of a test for a feature fits all responses whose
body has the text of the feature. -/
def GobyFinger.FindsFeature (s : String) : Prop :=
  ∀ (f : GobyFinger) (r : GobyRule) (label : String) (before after : List GobyTest),
    f.compile = .ok r → Goby.Expr.parse f.logic = .ok (.label label) →
      f.tests = before ++ ⟨label, s, true⟩ :: after → (∀ t ∈ after, t.label ≠ label) →
        ∀ c : Content, Utf8.encode s <:+: c.bodyOrRaw → r.fits c.lower = true

/-- A finger whose logic is a label looks for the feature of the last test with the label, in lower
case. -/
theorem GobyFinger.fits_of_compile {f : GobyFinger} {r : GobyRule} (h : f.compile = .ok r)
    {label : String} (hlogic : Goby.Expr.parse f.logic = .ok (.label label))
    {before after : List GobyTest} {s : String}
    (htests : f.tests = before ++ ⟨label, s, true⟩ :: after)
    (hafter : ∀ t ∈ after, t.label ≠ label) (c : Content) :
    r.fits c.lower =
      Bytes.contains (Utf8.encode (Text.lower s)) (Text.asciiLowerBytes c.raw) := by
  rw [compile, hlogic] at h
  cases h
  let lowered (t : GobyTest) : GobyTest := { t with feature := Text.lower t.feature }
  have hlater : (after.map lowered).reverse.find? (fun t => t.label == label) = none := by
    rw [List.find?_eq_none]
    simpa [lowered] using hafter
  have hfound : (f.tests.map lowered).reverse.find? (fun t => t.label == label) =
      some ⟨label, Text.lower s, true⟩ := by
    rw [htests, List.map_append, List.map_cons, List.reverse_append, List.reverse_cons,
      List.append_assoc, List.find?_append, hlater, Option.none_or, List.singleton_append]
    exact List.find?_cons_of_pos (beq_self_eq_true label)
  simp only [GobyRule.fits, Goby.Expr.eval, GobyRule.truth, lowered] at hfound ⊢
  rw [hfound]
  exact beq_true _

theorem GobyFinger.findsFeature_iff (s : String) : FindsFeature s ↔ Text.IsAsciiCased s := by
  constructor
  · intro h
    have hlogic : Goby.Expr.parse "a" = .ok (.label "a") := rfl
    let f : GobyFinger := ⟨"", "a", [⟨"a", s, true⟩]⟩
    have htests : f.tests = [] ++ ⟨"a", s, true⟩ :: [] := rfl
    obtain ⟨r, hr⟩ : ∃ r, f.compile = .ok r := ⟨_, by rw [compile, hlogic]⟩
    have hfits := h f r "a" [] [] hr hlogic htests (List.forall_mem_nil _) (.ofRaw (Utf8.encode s))
      (List.infix_refl _)
    rw [fits_of_compile hr hlogic htests (List.forall_mem_nil _)] at hfits
    exact Text.isAsciiCased_of_contains hfits
  · intro hs f r label before after hr hlogic htests hafter c hbody
    rw [fits_of_compile hr hlogic htests hafter]
    exact hs.contains_lower (hbody.trans c.bodyOrRaw_suffix.isInfix)

/-! ## All of them -/

/-- A rule, a hub record, an EHole finger or a Goby finger that looks for a literal finds it in
every response whose body has the text of the literal, exactly if all letters of the literal outside
ASCII are in lower case. -/
theorem literals_found_iff (s : String) :
    (Rule.FindsLiteral s ↔ Text.IsAsciiCased s) ∧ (HubRecord.FindsKeyword s ↔ Text.IsAsciiCased s) ∧
      (EHoleFinger.FindsKeyword s ↔ Text.IsAsciiCased s) ∧
      (GobyFinger.FindsFeature s ↔ Text.IsAsciiCased s) :=
  ⟨Rule.findsLiteral_iff s, HubRecord.findsKeyword_iff s, EHoleFinger.findsKeyword_iff s,
    GobyFinger.findsFeature_iff s⟩

end Fingerprinting
