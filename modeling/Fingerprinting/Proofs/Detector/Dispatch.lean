/-
# What a detector reports for a response

A detector asks its engines one after the other and folds what they find into one set.  The set is
that of all frames of all engines under the names that the aliases give them, so the names, and the
provenances, tags and focus under each name, depend on which engines are asked and on nothing else.

* `matchWeb_eq` and `matchWebWith_eq` say of which frames the sets are made;
* `dispatch_agrees` compares detectors that ask the same engines in other orders and numbers.
-/
import Fingerprinting.Proofs.Corpus.Packed
import Fingerprinting.Proofs.Detector.Building
import Fingerprinting.Proofs.Detector.Frames
import Fingerprinting.Proofs.Text.Utf8

namespace Fingerprinting.Detector

/-! ## The frames of a dispatch -/

/-- The frames that are reported for an engine. -/
def reports (d : Detector) (c : Content) (e : Engine) : List Frame :=
  (e.matchWeb c).toList.filterMap (d.aliases.apply e.name.name)

/-- An engine is asked about a response: it is there and enabled, and matches responses other than
by their icons. -/
def IsAsked (d : Detector) (e : Engine) : Prop :=
  e ∈ d.engines ∧ d.isEnabled e.name = true ∧ e.name ≠ .favicon ∧ e.capability.web = true

/-- Folding what engines find makes the set of all that is reported for them. -/
theorem foldl_fold (d : Detector) (c : Content) (es : List Engine) :
    es.foldl (d.fold c) .empty = .ofList (es.flatMap (d.reports c)) := by
  have hrun (s : Frames) : es.foldl (d.fold c) s = (es.flatMap (d.reports c)).foldl .add s := by
    induction es generalizing s with
    | nil => rfl
    | cons e rest ih =>
        rw [List.foldl_cons, ih, List.flatMap_cons, List.foldl_append]
        rfl
  exact hrun .empty

/-- The set of the enabled engines. -/
theorem matchWeb_eq (d : Detector) (c : Content) :
    d.matchWeb c =
      .ofList ((d.active.filter fun e => e.name != .favicon && e.capability.web).flatMap
        (d.reports c)) :=
  d.foldl_fold c _

/-- The set of the engines in a listing. -/
theorem matchWebWith_eq (d : Detector) (names : List EngineName) (c : Content) :
    d.matchWebWith names c =
      .ofList (((names.filterMap d.engine?).filter fun e => e.capability.web).flatMap
        (d.reports c)) :=
  d.foldl_fold c _

/-- What is reported for engines is made from their rules and renamed by aliases. -/
theorem made_of_mem_reports (d : Detector) (c : Content) (es : List Engine) :
    ∀ f ∈ es.flatMap (d.reports c), f.Made := by
  intro f hf
  obtain ⟨e, -, hreport⟩ := List.mem_flatMap.mp hf
  obtain ⟨g, hg, happly⟩ := List.mem_filterMap.mp hreport
  exact (e.made_of_mem_matchWeb c g hg).apply d.aliases e.name.name happly

/-! ## The engines that are asked -/

theorem mem_asked_iff (d : Detector) (e : Engine) :
    (e ∈ d.active.filter fun e => e.name != .favicon && e.capability.web) ↔ d.IsAsked e := by
  rw [active, List.mem_filter, List.mem_filter, Bool.and_eq_true, bne_iff_ne]
  constructor
  · rintro ⟨⟨he, hon⟩, hicon, hweb⟩
    exact ⟨he, hon, hicon, hweb⟩
  · rintro ⟨he, hon, hicon, hweb⟩
    exact ⟨⟨he, hon⟩, hicon, hweb⟩

/-- The engine of a name is the only one with the name. -/
theorem engine?_eq_some_iff (d : Detector) (h : (d.engines.map Engine.name).Nodup)
    (name : EngineName) (e : Engine) : d.engine? name = some e ↔ e ∈ d.engines ∧ e.name = name := by
  unfold engine?
  constructor
  · intro hfound
    have hname := List.find?_some hfound
    exact ⟨List.mem_of_find?_eq_some hfound, beq_iff_eq.mp hname⟩
  · rintro ⟨he, rfl⟩
    cases hfound : d.engines.find? fun e' => e'.name == e.name with
    | none =>
        have hnone := List.find?_eq_none.mp hfound e he
        exact absurd (beq_self_eq_true _) hnone
    | some e' =>
        have hname := List.find?_some hfound
        rw [List.inj_on_of_nodup_map h (List.mem_of_find?_eq_some hfound) he (beq_iff_eq.mp hname)]

/-- A listing of exactly the engines that are asked asks those. -/
theorem mem_listed_iff (d : Detector) (h : (d.engines.map Engine.name).Nodup)
    (names : List EngineName) (hnames : ∀ n, n ∈ names ↔ ∃ e, d.IsAsked e ∧ e.name = n)
    (e : Engine) :
    (e ∈ (names.filterMap d.engine?).filter fun e => e.capability.web) ↔ d.IsAsked e := by
  rw [List.mem_filter, List.mem_filterMap]
  constructor
  · rintro ⟨⟨name, hname, hengine⟩, -⟩
    obtain ⟨e', hasked, rfl⟩ := (hnames name).mp hname
    rw [(d.engine?_eq_some_iff h _ e').mpr ⟨hasked.1, rfl⟩] at hengine
    cases hengine
    exact hasked
  · intro hasked
    have hmem := (hnames e.name).mpr ⟨e, hasked, rfl⟩
    exact ⟨⟨e.name, hmem, (d.engine?_eq_some_iff h _ e).mpr ⟨hasked.1, rfl⟩⟩, hasked.2.2.2⟩

/-! ## Reported names -/

/-- A name is in the set of some engines when it is reported for a frame of one of them. -/
theorem mem_names_iff (d : Detector) (haliases : d.aliases.IsLowered) (c : Content)
    (es : List Engine) (name : String) :
    name ∈ (Frames.ofList (es.flatMap (d.reports c))).toList.map Frame.name ↔
      ∃ e ∈ es, ∃ f ∈ (e.matchWeb c).toList,
        d.aliases.reportedName? e.name.name f.name = some name := by
  rw [(Frames.records_ofList _).names, List.mem_eraseDups, List.mem_map]
  simp only [List.mem_flatMap, reports, List.mem_filterMap, ← Aliases.key_apply haliases,
    Option.map_eq_some_iff]
  constructor
  · rintro ⟨g, ⟨e, he, f, hf, happly⟩, hkey⟩
    exact ⟨e, he, f, hf, g, happly, hkey⟩
  · rintro ⟨e, he, f, hf, g, happly, hkey⟩
    exact ⟨g, ⟨e, he, f, hf, happly⟩, hkey⟩

/-- Detectors with the same aliases that ask the same engines agree. -/
theorem agrees_of_asked (d d' : Detector) (c : Content) (haliases : d'.aliases = d.aliases)
    (es es' : List Engine) (hsame : ∀ e, e ∈ es' ↔ e ∈ es) :
    Frames.Agrees (.ofList (es'.flatMap (d'.reports c))) (.ofList (es.flatMap (d.reports c))) := by
  have hreports (e : Engine) : d'.reports c e = d.reports c e := by
    unfold reports
    rw [haliases]
  apply Frames.agrees_ofList
  · exact fun f hf => (d'.made_of_mem_reports c es' f hf).isCoherent.rooted
  · intro f
    simp only [List.mem_flatMap, hreports, hsame]

/-! ## Dispatches -/

/-- What a detector reports for a response after any changes to which engines are enabled: a name
for every frame that an engine finds and no alias blocks, and each name once.  A listing of the same
engines, in any order and with any repetitions, and a detector whose options are in another order
agree with it, once the same engines are enabled. -/
theorem dispatch_agrees (o : EngineOptions) (built : Detector) (hbuilt : new o = .ok built)
    (changes : List Switch) (c : Content) :
    let d := built.switched changes
    (∀ name, name ∈ (d.matchWeb c).toList.map Frame.name ↔
      ∃ e, d.IsAsked e ∧ ∃ f ∈ (e.matchWeb c).toList,
        d.aliases.reportedName? e.name.name f.name = some name) ∧
    ((d.matchWeb c).toList.map Frame.name).Nodup ∧
    (∀ names, (∀ n, n ∈ names ↔ ∃ e, d.IsAsked e ∧ e.name = n) →
      Frames.Agrees (d.matchWebWith names c) (d.matchWeb c)) ∧
    (∀ engines : List String, engines.Perm o.engines →
      ∃ built', new { o with engines } = .ok built' ∧
        ∀ changes', (∀ n, (built'.switched changes').isEnabled n = d.isEnabled n) →
          Frames.Agrees ((built'.switched changes').matchWeb c) (d.matchWeb c)) := by
  intro d
  obtain ⟨hengines, haliases⟩ := built.switched_keeps changes
  have hlowered : d.aliases.IsLowered := by
    rw [haliases]
    exact isLowered_of_new o built hbuilt
  have hnodup : (d.engines.map Engine.name).Nodup := by
    rw [hengines]
    exact names_of_new o built hbuilt
  refine ⟨fun name => ?_, ?_, fun names hnames => ?_, fun engines hperm => ?_⟩
  · rw [matchWeb_eq, d.mem_names_iff hlowered]
    simp only [mem_asked_iff]
  · rw [matchWeb_eq, (Frames.records_ofList _).names]
    exact Lists.nodup_eraseDups _
  · -- The listing and the detector ask the same engines, in other orders and numbers.
    rw [matchWebWith_eq, matchWeb_eq]
    apply agrees_of_asked d d c rfl
    intro e
    rw [d.mem_listed_iff hnodup names hnames, mem_asked_iff]
  · obtain ⟨built', hbuilt', haliases', hengines'⟩ := new_of_perm o built hbuilt engines hperm
    refine ⟨built', hbuilt', fun changes' henabled => ?_⟩
    obtain ⟨hkeep, hkeep'⟩ := built'.switched_keeps changes'
    -- The aliases are the same, and so are the engines other than the one for icons.
    rw [matchWeb_eq, matchWeb_eq]
    apply agrees_of_asked d _ c (by rw [hkeep', haliases', haliases])
    intro e
    rw [mem_asked_iff, mem_asked_iff]
    unfold IsAsked
    rw [henabled, hkeep, hengines]
    constructor
    · rintro ⟨he, hon, hicon, hweb⟩
      exact ⟨(hengines' e hicon).mp he, hon, hicon, hweb⟩
    · rintro ⟨he, hon, hicon, hweb⟩
      exact ⟨(hengines' e hicon).mpr he, hon, hicon, hweb⟩

/-! ## Two engines that find one product -/

/-- A corpus with a finger for a product. -/
def gobyCorpus : String :=
  "[\x7b\"name\":\"Coyote\",\"logic\":\"a\"," ++
    "\"rule\":[\x7b\"label\":\"a\",\"feature\":\"tomcat\",\"is_equal\":true\x7d]\x7d]"

/-- A corpus with a record for the same product under another name, and one for a product that
comes with it. -/
def hubCorpus : String :=
  "[\x7b\"name\":\"Catalina\",\"keyword\":[\"tomcat\"]\x7d," ++
    "\x7b\"name\":\"Jetty\",\"keyword\":[\"tomcat\"]\x7d]"

/-- An alias for the two names of the product, and one that blocks an engine. -/
def aliasCorpus : String :=
  "- name: tomcat\n  alias:\n    goby: [Coyote]\n    fingerprinthub: [Catalina]\n" ++
    "- name: jetty\n  alias:\n    fingerprinthub: [Jetty]\n  block: [fingerprinthub]\n"

/-- The corpora of two engines and of the aliases. -/
def tomcatCorpora : Corpora where
  aliases := some (Utf8.encode aliasCorpus)
  fingerprintHub := some (Utf8.encode hubCorpus)
  goby := some (Utf8.encode gobyCorpus)

/-- The finger of the one engine. -/
def coyote : GobyFinger := ⟨"Coyote", "a", [⟨"a", "tomcat", true⟩]⟩

/-- The records of the other. -/
def catalina : List HubRecord :=
  [{ name := "Catalina", keywords := ["tomcat"] }, { name := "Jetty", keywords := ["tomcat"] }]

/-- The one engine. -/
def tomcatGoby : Goby := ⟨[⟨coyote, some (.label "a")⟩]⟩

/-- The other. -/
def tomcatHub : Hub := .ofRecords catalina

/-- The alias for the two names of the product. -/
def tomcatAlias : Alias where
  name := "tomcat"
  spellings := ⟨[("fingerprinthub", ["Catalina"]), ("goby", ["Coyote"])]⟩

/-- The alias that blocks the second engine. -/
def jettyAlias : Alias where
  name := "jetty"
  spellings := ⟨[("fingerprinthub", ["Jetty"])]⟩
  block := ["fingerprinthub"]

/-- The table of the aliases. -/
def tomcatAliases : Aliases where
  records := ⟨[("jetty", jettyAlias), ("tomcat", tomcatAlias)]⟩
  claims :=
    ⟨[("fingerprinthub", ⟨[("catalina", "tomcat"), ("jetty", "jetty")]⟩),
      ("goby", ⟨[("coyote", "tomcat")]⟩)]⟩

-- The corpora are read from lists of characters, because those of a long text are slow to find.

theorem load_gobyCorpus : Goby.load (Utf8.encode gobyCorpus) = .ok tomcatGoby := by
  have htext : gobyCorpus = String.ofList _ := String.ofList_append.symm
  have hread : (Corpus.ofJson (Document.listOf? GobyFinger.ofDocument?)
      (Utf8.encode gobyCorpus)).toOption.map id = some [coyote] := by
    rw [htext, Utf8.encode, String.toList_ofList]
    rfl
  have hplain : Gzip.isGzip (Utf8.encode gobyCorpus) = false := by
    rw [htext, Utf8.encode, String.toList_ofList]
    rfl
  obtain ⟨_, hfingers, rfl⟩ := Results.exists_of_map_toOption _ _ _ hread
  refine (Results.bind_eq_ok_iff _ _ _).mpr ⟨_, Corpus.unpack_of_plain hplain, ?_⟩
  exact (Results.bind_eq_ok_iff _ _ _).mpr ⟨_, hfingers, rfl⟩

theorem load_hubCorpus : Hub.load (Utf8.encode hubCorpus) = .ok tomcatHub := by
  have htext : hubCorpus = String.ofList _ := String.ofList_append.symm
  have hread : (Corpus.ofJson (Document.listOf? HubRecord.ofDocument?)
      (Utf8.encode hubCorpus)).toOption.map id = some catalina := by
    rw [htext, Utf8.encode, String.toList_ofList]
    rfl
  have hplain : Gzip.isGzip (Utf8.encode hubCorpus) = false := by
    rw [htext, Utf8.encode, String.toList_ofList]
    rfl
  have hfirst : Corpus.firstByte? (Utf8.encode hubCorpus) = some 0x5B := by
    rw [htext, Utf8.encode, String.toList_ofList]
    rfl
  obtain ⟨_, hrecords, rfl⟩ := Results.exists_of_map_toOption _ _ _ hread
  refine (Results.bind_eq_ok_iff _ _ _).mpr ⟨_, Corpus.unpack_of_plain hplain, ?_⟩
  dsimp only
  rw [hfirst]
  exact (Results.bind_eq_ok_iff _ _ _).mpr ⟨_, hrecords, rfl⟩

theorem load_aliasCorpus :
    Aliases.load [] (some (Utf8.encode aliasCorpus)) = .ok tomcatAliases := by
  have htext : aliasCorpus = String.ofList _ := String.ofList_append.symm
  have hplain : Gzip.isGzip (Utf8.encode aliasCorpus) = false := by
    rw [htext, Utf8.encode, String.toList_ofList]
    rfl
  have hread : (Corpus.ofYaml (Document.listOf? Alias.ofDocument?)
      (Utf8.encode aliasCorpus)).toOption.map id = some [tomcatAlias, jettyAlias] := by
    rw [Corpus.ofYaml_of_plain _ hplain, Document.ofYaml?, Utf8.decode?_encode,
      Option.bind_eq_bind, Option.bind_some, htext, String.toList_ofList]
    decide +kernel
  have htable : Aliases.empty.extend [tomcatAlias, jettyAlias] = tomcatAliases := rfl
  obtain ⟨_, haliases, rfl⟩ := Results.exists_of_map_toOption _ _ _ hread
  exact (Results.bind_eq_ok_iff _ _ _).mpr ⟨_, haliases, congrArg Except.ok htable⟩

/-- An engine whose corpus is there is loaded from it. -/
theorem loadOr_of_corpus {α : Type} (empty : α) {load : Bytes → Except Error α}
    {corpus? : Option Bytes} {data : Bytes} {rules : α} (engine : α → Engine)
    (hcorpus : corpus? = some data) (h : load data = .ok rules) :
    (Engine.loadOr empty load corpus? >>= fun r => .ok (engine r)) = .ok (engine rules) := by
  rw [hcorpus, Engine.loadOr, h]
  rfl

/-- The two engines, and one without rules. -/
def tomcatEngines : List Engine :=
  [.goby tomcatGoby, .fingerprintHub tomcatHub, .eHole ⟨[], .empty⟩]

/-- The detector that has these engines in some order. -/
def tomcatDetector (engines : List Engine) : Detector where
  engines := (withFavicon engines).map (fillIcons (iconsOf engines))
  enabled := (engines.map Engine.name).filter (· != .favicon)
  aliases := tomcatAliases

/-- It is built from the corpora. -/
theorem new_tomcat (engines : List String) (loaded : List Engine) (h : loaded.Perm tomcatEngines)
    (hnames : EngineOptions.names { engines, corpora := tomcatCorpora } =
      loaded.map fun e => e.name.name) :
    new { engines, corpora := tomcatCorpora } = .ok (tomcatDetector loaded) := by
  have hload : ∀ e ∈ tomcatEngines,
      Engine.load { engines, corpora := tomcatCorpora } e.name = .ok e := by
    simp only [tomcatEngines, List.forall_mem_cons]
    exact ⟨loadOr_of_corpus _ .goby rfl load_gobyCorpus,
      loadOr_of_corpus _ .fingerprintHub rfl load_hubCorpus, rfl, List.forall_mem_nil _⟩
  have hseeds : loaded.flatMap seedOf = [] := by
    rw [flatMap_seedOf_perm h (by decide)]
    rfl
  refine (new_eq_ok_iff _ _).mpr ⟨loaded, tomcatAliases, ?_, ?_, rfl⟩
  · rw [Results.mapM_eq_ok_iff, hnames, List.forall₂_map_left_iff, List.forall₂_same]
    intro e he
    rw [Engine.loadNamed, EngineName.ofName?_name]
    exact hload e (h.subset he)
  · rw [hseeds]
    exact load_aliasCorpus

/-- A page of the product. -/
def tomcatPage : Content := .ofHttp (Utf8.encode "HTTP/1.1 200 OK\r\n\r\nTomcat")

/-- Two engines find the product under two names, and one of them what comes with it too.  The
aliases rename the two onto one name and block the third, in either order of the engines. -/
theorem dispatch_agrees_of_two_engines :
    ∃ built built' : Detector,
      new { engines := ["goby", "FingerprintHub", "EHole"], corpora := tomcatCorpora } =
        .ok built ∧
      new { engines := ["EHole", "FingerprintHub", "goby"], corpora := tomcatCorpora } =
        .ok built' ∧
      let d := built.switched [.disable .eHole]
      let d' := built'.switched [.disable .eHole]
      d.active.map (fun e => (e.name, (e.matchWeb tomcatPage).toList.map Frame.name)) =
        [(.goby, ["coyote"]), (.fingerprintHub, ["catalina", "jetty"])] ∧
      (d.matchWeb tomcatPage).toList.map (fun f => (f.name, f.tags)) =
        [("tomcat", ["goby", "fingerprinthub"])] ∧
      (d'.matchWeb tomcatPage).toList.map (fun f => (f.name, f.tags)) =
        [("tomcat", ["fingerprinthub", "goby"])] ∧
      Frames.Agrees (d.matchWebWith [.fingerprintHub, .goby, .fingerprintHub] tomcatPage)
        (d.matchWeb tomcatPage) ∧
      Frames.Agrees (d'.matchWeb tomcatPage) (d.matchWeb tomcatPage) := by
  let built := tomcatDetector tomcatEngines
  let built' := tomcatDetector tomcatEngines.reverse
  have hbuilt := new_tomcat ["goby", "FingerprintHub", "EHole"] tomcatEngines (.refl _) rfl
  have hbuilt' := new_tomcat ["EHole", "FingerprintHub", "goby"] tomcatEngines.reverse
    tomcatEngines.reverse_perm rfl
  refine ⟨built, built', hbuilt, hbuilt', rfl, rfl, rfl, ?_⟩
  obtain ⟨-, -, hlisting, horder⟩ := dispatch_agrees _ built hbuilt [.disable .eHole] tomcatPage
  have hasked : ∀ n, n ∈ [.fingerprintHub, .goby, .fingerprintHub] ↔
      ∃ e, (built.switched [.disable .eHole]).IsAsked e ∧ e.name = n := by
    intro n
    have hnames : ((built.switched [.disable .eHole]).active.filter fun e =>
        e.name != .favicon && e.capability.web).map Engine.name = [.goby, .fingerprintHub] := by
      rfl
    simp only [← mem_asked_iff, ← List.mem_map, hnames]
    cases n <;> decide
  refine ⟨hlisting _ hasked, ?_⟩
  obtain ⟨other, hother, hagrees⟩ :=
    horder ["EHole", "FingerprintHub", "goby"]
      (List.reverse_perm ["goby", "FingerprintHub", "EHole"])
  obtain rfl := Except.ok.inj (hbuilt'.symm.trans hother)
  exact hagrees [.disable .eHole] fun n => by cases n <;> rfl

end Fingerprinting.Detector
