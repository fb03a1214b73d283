/-
# Icons known by rules and by the index

A finger that is known by its icons is found in two ways.  Its rules compare the hashes that they
list with those of a response, one rule after the other.  The collection files all hashes under the
names of their products, where a later finger takes the place of an earlier one.  Both ways know the
same icons, although only one of them forgets names.

* `CompiledFinger.isSome_passive?_iff_listsIcon` says what the rules know, and
  `Fingers.IsIndexed.knows_iff` what the index knows;
* `Fingers.Built.icons_agree` says that they agree in every collection of such fingers;
* `Fingers.new_icons_agree` says that such a collection can always be built.
-/
import Fingerprinting.Proofs.Finger.Index
import Fingerprinting.Proofs.Frame.Agreement
import Fingerprinting.Proofs.Rule.Matching

namespace Fingerprinting

/-! ## Rules -/

/-- Whether a written rule names nothing to look for but icons, and sends nothing. -/
structure Rule.IsIconRule (written : Rule) : Prop where
  patterns : written.patterns.getD {} = {}
  payload : written.payload = ""

namespace CompiledRule

/-- Whether a rule looks for nothing but icons. -/
structure LooksForIcons (r : CompiledRule) : Prop where
  tests : r.tests = Rule.iconTests (r.rule.favicon.getD {})
  certs : r.certs = []

/-- A rule without icons lists no hashes. -/
theorem iconHashes_eq {hashes : RuleIcon → List String} (hempty : hashes {} = [])
    (r : CompiledRule) : r.iconHashes hashes = hashes (r.rule.favicon.getD {}) := by
  unfold iconHashes
  cases r.rule.favicon with
  | none => exact hempty.symm
  | some icon => rfl

/-- A rule that looks for icons matches the responses whose hashes it lists. -/
theorem LooksForIcons.isSome_match?_iff {r : CompiledRule} (h : r.LooksForIcons) (c : Content)
    (isHttp : Bool) :
    (r.match? c isHttp).isSome = true ↔
      Fingerprinting.md5 c.bodyOrRaw ∈ r.iconHashes RuleIcon.digests ∨
        Fingerprinting.mmh3 c.bodyOrRaw ∈ r.iconHashes RuleIcon.numbers := by
  have hcert (cert : String) : ¬ ∃ s ∈ r.certs, s.toList <:+: cert.toList := by
    simp [h.certs]
  rw [r.isSome_match?_iff c isHttp, iconHashes_eq rfl, iconHashes_eq rfl, h.tests]
  simp only [hcert, and_false, exists_false, or_false, Rule.iconTests, List.mem_append,
    or_and_right, exists_or, List.mem_map, RuleIcon.digests, RuleIcon.numbers,
    exists_exists_and_eq_and, Passes]
  simp only [eq_comm]

end CompiledRule

namespace Rule.IsIconRule

variable {written : Rule} (h : written.IsIconRule) (product : String) (caseSensitive : Bool)

include h

/-- A rule for icons is compiled to the tests for them. -/
theorem compile_eq : written.compile product caseSensitive =
    .ok (written.assemble caseSensitive none [] []) := by
  refine (compile_eq_ok_iff _ _ _ _).mpr ⟨none, [], [], if_pos h.payload, ?_, ?_, rfl⟩
  · rw [h.patterns]
    rfl
  · rw [h.patterns]
    rfl

theorem looksForIcons : (written.assemble caseSensitive none [] []).LooksForIcons where
  tests := getD_iconTests written.favicon
  certs := congrArg RulePatterns.cert h.patterns

end Rule.IsIconRule

/-! ## Fingers -/

/-- Whether a finger is for HTTP, and its rules name nothing to look for but icons. -/
structure Finger.IsIconFinger (f : Finger) : Prop where
  protocol : f.protocol = "" ∨ f.protocol = httpProtocol
  rules : ∀ written ∈ f.rules, written.IsIconRule

namespace CompiledFinger

/-- Whether the rules of a finger look for nothing but icons. -/
def LooksForIcons (f : CompiledFinger) : Prop := ∀ r ∈ f.rules, r.LooksForIcons

/-- Whether a finger lists one of the hashes of some bytes. -/
def ListsIcon (f : CompiledFinger) (b : Bytes) : Prop :=
  Fingerprinting.md5 b ∈ f.iconHashes RuleIcon.digests ∨
    Fingerprinting.mmh3 b ∈ f.iconHashes RuleIcon.numbers

/-- A finger that looks for icons is found in the responses whose hashes it lists. -/
theorem isSome_passive?_iff_listsIcon {f : CompiledFinger} (h : f.LooksForIcons) (c : Content)
    (options : FingerOptions) :
    (f.passive? c options).isSome = true ↔ f.ListsIcon c.bodyOrRaw := by
  have hrule (r : CompiledRule) (hr : r ∈ f.rules) := (h r hr).isSome_match?_iff c f.isHttp
  unfold passive? ListsIcon iconHashes
  simp only [List.findSome?_isSome_iff, Option.isSome_map, List.mem_flatMap, ← exists_or,
    ← and_or_left]
  exact exists_congr fun r => and_congr_right fun hr => hrule r hr

end CompiledFinger

namespace Finger.IsIconFinger

variable {f : Finger} (h : f.IsIconFinger)

include h

theorem exists_compile : ∃ g, f.compile false = .ok g := by
  obtain ⟨rules, hrules⟩ := Results.exists_mapM (Rule.compile f.name false) fun written hwritten =>
    ⟨_, (h.rules written hwritten).compile_eq f.name false⟩
  exact ⟨_, (f.compile_eq_ok_iff false _).mpr ⟨rules, hrules, rfl⟩⟩

/-- A finger for icons, compiled, is for HTTP and looks for nothing but icons. -/
theorem of_compile {g : CompiledFinger} (hg : f.compile false = .ok g) :
    g.finger = f ∧ g.isHttp = true ∧ g.LooksForIcons := by
  obtain ⟨rules, hrules, rfl⟩ := (f.compile_eq_ok_iff false g).mp hg
  refine ⟨rfl, ?_, fun r hr => ?_⟩
  · rw [CompiledFinger.isHttp, beq_iff_eq]
    exact ite_eq_left_iff.mpr h.protocol.resolve_left
  · obtain ⟨written, hwritten, hr⟩ := Results.exists_of_mem_mapM _ hrules r hr
    have hicons := h.rules written hwritten
    rw [hicons.compile_eq, Except.ok.injEq] at hr
    exact hr ▸ hicons.looksForIcons false

end Finger.IsIconFinger

/-! ## The index -/

/-- A response that is not empty is found in an index when one of its hashes is filed. -/
theorem Favicons.isEmpty_matchWeb_iff (s : Favicons) {c : Content} (hne : c.bodyOrRaw ≠ []) :
    (s.matchWeb c).isEmpty = false ↔
      (s.md5.get? (Fingerprinting.md5 c.bodyOrRaw)).isSome = true ∨
        (s.mmh3.get? (Fingerprinting.mmh3 c.bodyOrRaw)).isSome = true := by
  rw [matchWeb, Frames.isEmpty_ofList, ofIcon?, if_neg (by rwa [List.isEmpty_iff]), ofHashes?,
    name?]
  cases s.md5.get? (Fingerprinting.md5 c.bodyOrRaw) with
  | some name => simp
  | none => cases s.mmh3.get? (Fingerprinting.mmh3 c.bodyOrRaw) <;> simp

/-- An index that takes over all icons of another knows the same ones. -/
theorem Favicons.isEmpty_matchWeb_extend (s : Favicons) {c : Content} (hne : c.bodyOrRaw ≠ []) :
    ((empty.extend s).matchWeb c).isEmpty = (s.matchWeb c).isEmpty := by
  rw [← Bool.not_inj_iff, Bool.eq_iff_iff, Bool.not_eq_true', Bool.not_eq_true',
    isEmpty_matchWeb_iff _ hne, isEmpty_matchWeb_iff _ hne, extend,
    Dictionary.isSome_get?_extend_iff, Dictionary.isSome_get?_extend_iff]
  simp [empty]

namespace Fingers

variable {s : Fingers}

/-- A hash is listed by some finger when there is a last one that lists it. -/
theorem isSome_lastLister?_iff (hashes : RuleIcon → List String) (fs : List CompiledFinger)
    (hash : String) :
    (lastLister? hashes fs hash).isSome = true ↔ ∃ f ∈ fs, hash ∈ f.iconHashes hashes := by
  rw [lastLister?, List.getLast?_isSome, ne_eq, List.filter_eq_nil_iff]
  simp

/-- The index knows the icons that the fingers for HTTP list. -/
theorem IsIndexed.knows_iff (h : s.IsIndexed) (b : Bytes) :
    (s.favicons.md5.get? (Fingerprinting.md5 b)).isSome = true ∨
        (s.favicons.mmh3.get? (Fingerprinting.mmh3 b)).isSome = true ↔
      ∃ f ∈ s.http, f.ListsIcon b := by
  rw [h.md5_eq, h.mmh3_eq, Option.isSome_map, Option.isSome_map, isSome_lastLister?_iff,
    isSome_lastLister?_iff, ← exists_or]
  simp only [← and_or_left]
  rfl

/-- Some finger for HTTP is found when one of them is. -/
theorem isEmpty_matchHttp_iff (s : Fingers) (c : Content) :
    (s.matchHttp c).1.isEmpty = false ↔
      ∃ f ∈ s.http, (f.passive? c s.options).isSome = true := by
  rw [matchHttp, collect, Frames.isEmpty_ofList, List.isEmpty_map,
    List.isEmpty_eq_false_iff_exists_mem]
  simp only [List.mem_filterMap, Option.isSome_iff_exists]
  exact ⟨fun ⟨hit, f, hf, hhit⟩ => ⟨f, hf, hit, hhit⟩, fun ⟨f, hf, hit, hhit⟩ => ⟨hit, f, hf, hhit⟩⟩

/-- In a collection of fingers that look for icons, the rules and the index know the same ones. -/
theorem Built.icons_agree (h : s.Built) (hicons : ∀ f ∈ s.http, f.LooksForIcons) {c : Content}
    (hne : c.bodyOrRaw ≠ []) : (s.matchHttp c).1.isEmpty = (s.favicons.matchWeb c).isEmpty := by
  rw [← Bool.not_inj_iff, Bool.eq_iff_iff, Bool.not_eq_true', Bool.not_eq_true',
    isEmpty_matchHttp_iff, Favicons.isEmpty_matchWeb_iff _ hne, h.isIndexed.knows_iff]
  exact exists_congr fun f => and_congr_right fun hf =>
    CompiledFinger.isSome_passive?_iff_listsIcon (hicons f hf) c s.options

/-- Fingers for HTTP that list nothing but icons are all filed.  In every response that is not
empty their rules find something when the index of their icons does, and also when an index that
takes over those icons does. -/
theorem new_icons_agree (fingers : List Finger) (h : ∀ f ∈ fingers, f.IsIconFinger)
    (options : FingerOptions) :
    ∃ s, new fingers [] options = .ok s ∧ s.http.map CompiledFinger.finger = fingers ∧
      ∀ c : Content, c.bodyOrRaw ≠ [] →
        (s.matchHttp c).1.isEmpty = (s.favicons.matchWeb c).isEmpty ∧
        (s.matchHttp c).1.isEmpty = ((Favicons.empty.extend s.favicons).matchWeb c).isEmpty := by
  obtain ⟨fs, hfs⟩ := Results.exists_mapM (Finger.compile · false) fun f hf =>
    (h f hf).exists_compile
  have hicon (g : CompiledFinger) (hg : g ∈ fs) : g.isHttp = true ∧ g.LooksForIcons := by
    obtain ⟨f, hf, hcompile⟩ := Results.exists_of_mem_mapM _ hfs g hg
    exact ((h f hf).of_compile hcompile).2
  have hnew : new fingers [] options = .ok (fs.foldl file { options }) := by
    rw [new, List.append_nil, append_of_mapM _ hfs]
  -- All of the fingers are filed among those for HTTP, so the index is made of all their icons.
  have hhttp : (fs.foldl file { options }).http = fs := by
    rw [http_foldl_file, List.nil_append, List.filter_eq_self]
    exact fun g hg => (hicon g hg).1
  have hicons : ∀ f ∈ (fs.foldl file { options }).http, f.LooksForIcons := by
    rw [hhttp]
    exact fun g hg => (hicon g hg).2
  refine ⟨_, hnew, ?_, fun c hne => ?_⟩
  · rw [hhttp]
    refine Results.map_of_mapM _ CompiledFinger.finger (fun f g hg => ?_) hfs
    obtain ⟨rules, -, rfl⟩ := (f.compile_eq_ok_iff false g).mp hg
    rfl
  · have hagree := (Built.new hnew).icons_agree hicons hne
    exact ⟨hagree, hagree.trans (Favicons.isEmpty_matchWeb_extend _ hne).symm⟩

/-- Two products with one icon, whose digest is written in two ways. -/
def sameIcon : List Finger := [
  { name := "old"
    rules := [{ favicon := some { md5 := [" 900150983CD24FB0D6963F7D28E17F72"] } }] },
  { name := "new", protocol := "http"
    rules := [{ favicon := some { md5 := ["900150983cd24fb0d6963f7d28e17f72"], mmh3 := ["1"] } }] }]

/-- The rules find both products, and the index finds the later one. -/
theorem new_icons_agree_of_sameIcon :
    (∀ f ∈ sameIcon, f.IsIconFinger) ∧ ∃ s, new sameIcon [] {} = .ok s ∧
      let c := Content.ofRaw (Utf8.encode "abc")
      (s.matchHttp c).1.names = ["old", "new"] ∧ (s.favicons.matchWeb c).names = ["new"] ∧
      (s.matchHttp c).1.isEmpty = (s.favicons.matchWeb c).isEmpty := by
  have hicons : ∀ f ∈ sameIcon, f.IsIconFinger := by
    simp only [sameIcon, List.forall_mem_cons, List.not_mem_nil, false_implies, implies_true,
      and_true]
    refine ⟨⟨.inl rfl, ?_⟩, ⟨.inr rfl, ?_⟩⟩
    · simpa using Rule.IsIconRule.mk rfl rfl
    · simpa using Rule.IsIconRule.mk rfl rfl
  obtain ⟨s, hs, -, hagree⟩ := new_icons_agree sameIcon hicons {}
  have hnames : (new sameIcon [] {}).toOption.map (fun s =>
      ((s.matchHttp (.ofRaw (Utf8.encode "abc"))).1.names,
        (s.favicons.matchWeb (.ofRaw (Utf8.encode "abc"))).names)) =
      some (["old", "new"], ["new"]) := by
    decide +kernel
  rw [hs] at hnames
  obtain ⟨hrules, hindex⟩ := Prod.ext_iff.mp (Option.some.inj hnames)
  exact ⟨hicons, s, hs, hrules, hindex, (hagree _ (by decide)).1⟩

end Fingers

end Fingerprinting
