/-
# Names that stay as they are

A service is reported under the spelling that `serviceName` gives, and its names pass through it more
than once: when a rule is compiled, and again when a frame is made of what the rule recognised.  A
spelling that was given already stays as it is (`IsReported`), unless it came from nothing but the
prefix of SSL written twice or more (`IsLayered`): such a spelling begins with the prefix again.

* `isReported_serviceChars_or` says which spellings are given, by recursion on what is inside SSL;
* `serviceChars_layers` and `serviceChars_hung` follow the layers through two spellings;
* `spelled_once` says so of every name, and of the names that are kept and reported.
-/
import Mathlib
import Fingerprinting.Nmap.Scanner
import Fingerprinting.Proofs.Frame.Agreement
import Fingerprinting.Proofs.Results

namespace Fingerprinting.Nmap

/-! ## Spellings that stay -/

/-- The prefix of a service inside SSL. -/
def sslPrefix : List Char := "ssl/".toList

/-- The ending of the reported name of a service inside SSL. -/
def sslSuffix : List Char := "-ssl".toList

/-- A spelling that no rule for spellings changes. -/
structure IsReported (cs : List Char) : Prop where
  unlisted : ∀ e ∈ reportedNames, e.1.toList ≠ cs
  bare : sslPrefix <+: cs → cs = sslPrefix
  start : ∀ c ∈ cs.head?, ¬('0' ≤ c ∧ c ≤ '9')

/-- A text is not among the spellings that are listed. -/
theorem lookup_eq_none_iff (cs : List Char) :
    reportedNames.lookup (String.ofList cs) = none ↔ ∀ e ∈ reportedNames, e.1.toList ≠ cs := by
  have hkey (e : String × String) : String.ofList cs ≠ e.1 ↔ e.1.toList ≠ cs := by
    rw [Ne, Ne, not_iff_not]
    constructor
    · intro h
      rw [← h, String.toList_ofList]
    · rintro rfl
      exact String.ofList_toList
  simp only [List.lookup_eq_none_iff, bne_iff_ne, hkey]

/-- What a spelling is listed with. -/
theorem mem_of_lookup {names : List (String × String)} {key name : String}
    (h : names.lookup key = some name) : (key, name) ∈ names := by
  obtain ⟨before, behind, hsplit, -⟩ := List.lookup_eq_some_iff.mp h
  rw [hsplit]
  exact List.mem_append_right _ List.mem_cons_self

/-- No service is listed to be reported with the prefix of SSL. -/
theorem not_prefix_of_mem : ∀ e ∈ reportedNames, ¬sslPrefix <+: e.2.toList := by decide

/-- Every listed name is one that stays. -/
theorem isReported_of_mem : ∀ e ∈ reportedNames, IsReported e.2.toList := by
  have hunlisted : ∀ e ∈ reportedNames, ∀ e' ∈ reportedNames, e'.1.toList ≠ e.2.toList := by
    decide
  have hstart : ∀ e ∈ reportedNames,
      e.2.toList.head?.all (fun c => !decide ('0' ≤ c ∧ c ≤ '9')) = true := by
    decide
  intro e he
  refine ⟨hunlisted e he, fun h => absurd h (not_prefix_of_mem e he), ?_⟩
  intro c hc
  have hfirst := (Option.all_eq_true _ _).mp (hstart e he) c hc
  rwa [Bool.not_eq_true', decide_eq_false_iff_not] at hfirst

/-- A name that stays does so with the ending for SSL, unless it is the prefix of SSL. -/
theorem IsReported.inside {cs : List Char} (h : IsReported cs) (hne : cs ≠ sslPrefix) :
    IsReported (cs ++ sslSuffix) where
  unlisted := by
    intro e he heq
    have hsuffix : ∀ e ∈ reportedNames, ¬sslSuffix <:+ e.1.toList := by decide
    exact hsuffix e he ⟨cs, heq.symm⟩
  bare := by
    intro hprefix
    rcases List.prefix_or_prefix_of_prefix hprefix (List.prefix_append cs sslSuffix) with hcs | hcs
    · exact absurd (h.bare hcs) hne
    · -- A part of the prefix is not made whole by the ending.
      have hparts : ∀ part ∈ sslPrefix.inits, sslPrefix <+: part ++ sslSuffix →
          part = sslPrefix := by
        decide
      exact absurd (hparts cs ((List.mem_inits _ _).mpr hcs) hprefix) hne
  start := by
    cases cs with
    | nil =>
        rintro _ ⟨⟩
        decide
    | cons c rest => exact h.start

/-- A spelling that no rule changes is given for itself. -/
theorem serviceChars_of_isReported {cs : List Char} (h : IsReported cs) :
    serviceChars cs = cs := by
  fun_cases serviceChars cs with
  | case1 _ name hname =>
      rw [(lookup_eq_none_iff cs).mpr h.unlisted] at hname
      cases hname
  | case2 c rest =>
      have hprefix : sslPrefix <+: 's' :: 's' :: 'l' :: '/' :: c :: rest := ⟨c :: rest, rfl⟩
      cases h.bare hprefix
  | case3 c rest _ hdigit => exact absurd hdigit (h.start c rfl)
  | case4 c rest => rfl
  | case5 => rfl

/-! ## Spellings that are given -/

/-- The prefix of SSL, some number of times. -/
def layers (n : Nat) : List Char := (List.replicate n sslPrefix).flatten

/-- The ending for SSL, some number of times. -/
def hung (n : Nat) : List Char := (List.replicate n sslSuffix).flatten

/-- Nothing but the prefix of SSL, twice or more. -/
def IsLayered (name : String) : Prop := ∃ n, name.toList = layers (n + 2)

/-- What is inside SSL is spelled first, unless the whole is listed. -/
theorem serviceChars_inside {inner : List Char} (hinner : inner ≠ [])
    (h : ∀ e ∈ reportedNames, e.1.toList ≠ sslPrefix ++ inner) :
    serviceChars (sslPrefix ++ inner) = serviceChars inner ++ sslSuffix := by
  obtain ⟨c, rest, rfl⟩ := List.exists_cons_of_ne_nil hinner
  conv_lhs => rw [serviceChars.eq_def, (lookup_eq_none_iff _).mpr h]
  rfl

/-- Only the bare prefix of SSL is spelled so. -/
theorem eq_of_serviceChars_eq {cs : List Char} (h : serviceChars cs = sslPrefix) :
    cs = sslPrefix := by
  revert h
  fun_cases serviceChars cs with
  | case1 _ name hname =>
      intro h
      exact absurd (h ▸ List.prefix_rfl) (not_prefix_of_mem _ (mem_of_lookup hname))
  | case2 c rest =>
      intro h
      have hsuffix : ¬sslSuffix <:+ sslPrefix := by decide
      exact absurd ⟨_, h⟩ hsuffix
  | case3 c rest =>
      intro h
      cases h
  | case4 c rest => exact id
  | case5 =>
      intro h
      cases h

/-- A spelling that is given stays, or comes from layers of SSL alone. -/
theorem isReported_serviceChars_or (cs : List Char) :
    IsReported (serviceChars cs) ∨ ∃ n, cs = layers (n + 2) := by
  fun_induction serviceChars cs with
  | case1 _ name hname => exact .inl (isReported_of_mem _ (mem_of_lookup hname))
  | case2 c rest hnone ih =>
      rcases ih with h | ⟨n, hn⟩
      · by_cases hbare : serviceChars (c :: rest) = sslPrefix
        · exact .inr ⟨0, by rw [eq_of_serviceChars_eq hbare]; rfl⟩
        · exact .inl (h.inside hbare)
      · exact .inr ⟨n + 1, by rw [hn]; rfl⟩
  | case3 c rest _ hdigit hnone =>
      have hcapital : ∀ e ∈ reportedNames, e.1.toList.head? ≠ some 'S' := by decide
      refine .inl ⟨?_, ?_, ?_⟩
      · intro e he heq
        exact hcapital e he (by rw [heq]; rfl)
      · rintro ⟨rest', h⟩
        cases h
      · simp
  | case4 c rest hbare hdigit hnone =>
      refine .inl ⟨(lookup_eq_none_iff _).mp hnone, ?_, ?_⟩
      · rintro ⟨inner, h⟩
        cases inner with
        | nil => exact h.symm
        | cons d rest' =>
            obtain ⟨rfl, rfl⟩ := List.cons.inj h
            exact (hbare d rest' rfl rfl).elim
      · rintro _ ⟨⟩
        exact hdigit
  | case5 hnone => exact .inl ⟨(lookup_eq_none_iff _).mp hnone, by decide, by simp⟩

/-! ## Layers -/

theorem hung_succ (n : Nat) : hung (n + 1) = hung n ++ sslSuffix := by
  rw [hung, List.replicate_succ', List.flatten_append, List.flatten_singleton, hung]

/-- Layers of SSL become endings, but for the innermost, which has nothing inside. -/
theorem serviceChars_layers (n : Nat) : serviceChars (layers (n + 1)) = sslPrefix ++ hung n := by
  induction n with
  | zero =>
      have hunlisted : ∀ e ∈ reportedNames, e.1.toList ≠ sslPrefix := by decide
      refine serviceChars_of_isReported ⟨hunlisted, fun _ => rfl, ?_⟩
      rintro _ ⟨⟩
      decide
  | succ n ih =>
      have hinner : layers (n + 1) ≠ [] := List.cons_ne_nil _ _
      have hunlisted : ∀ e ∈ reportedNames, e.1.toList ≠ sslPrefix ++ layers (n + 1) := by
        intro e he heq
        have htwice : ∀ e ∈ reportedNames, ¬sslPrefix ++ sslPrefix <+: e.1.toList := by decide
        exact htwice e he ⟨layers n, by rw [heq]; rfl⟩
      calc serviceChars (layers (n + 2))
          = serviceChars (layers (n + 1)) ++ sslSuffix := serviceChars_inside hinner hunlisted
        _ = sslPrefix ++ hung (n + 1) := by rw [ih, hung_succ, List.append_assoc]

/-- Endings alone stay. -/
theorem isReported_hung (n : Nat) : IsReported (hung (n + 1)) where
  unlisted := by
    intro e he heq
    have hhyphen : ∀ e ∈ reportedNames, e.1.toList.head? ≠ some '-' := by decide
    exact hhyphen e he (by rw [heq]; rfl)
  bare := by
    rintro ⟨rest, h⟩
    cases h
  start := by
    rintro _ ⟨⟩
    decide

/-- The prefix that is left is one more layer for the next spelling. -/
theorem serviceChars_hung (n : Nat) :
    serviceChars (sslPrefix ++ hung (n + 1)) = hung (n + 2) := by
  have hunlisted : ∀ e ∈ reportedNames, e.1.toList ≠ sslPrefix ++ hung (n + 1) := by
    intro e he heq
    have hhyphen : ∀ e ∈ reportedNames, ¬sslPrefix ++ ['-'] <+: e.1.toList := by decide
    exact hhyphen e he ⟨"ssl".toList ++ hung n, by rw [heq]; rfl⟩
  have hinner : hung (n + 1) ≠ [] := List.cons_ne_nil _ _
  rw [serviceChars_inside hinner hunlisted,
    serviceChars_of_isReported (isReported_hung n), hung_succ (n + 1)]

/-! ## Names -/

/-- No underscore is left after hyphens were put for them. -/
theorem not_mem_hyphenate (cs : List Char) : '_' ∉ hyphenate cs := by
  rw [hyphenate, List.mem_map]
  rintro ⟨c, -, hc⟩
  split at hc
  · cases hc
  · exact absurd hc ‹_›

/-- Without underscores there is nothing to put hyphens for. -/
theorem hyphenate_of_not_mem {cs : List Char} (h : '_' ∉ cs) : hyphenate cs = cs := by
  have hid : ∀ c ∈ cs, (if c = '_' then '-' else c) = c := by
    intro c hc
    rw [if_neg]
    rintro rfl
    exact h hc
  rw [hyphenate, List.map_congr_left hid, List.map_id']

/-- No underscore is left in a spelling that is given. -/
theorem not_mem_serviceChars {cs : List Char} (h : '_' ∉ cs) : '_' ∉ serviceChars cs := by
  fun_induction serviceChars cs with
  | case1 _ name hname =>
      have hall : ∀ e ∈ reportedNames, '_' ∉ e.2.toList := by decide
      exact hall _ (mem_of_lookup hname)
  | case2 c rest hnone ih =>
      have hinner : '_' ∉ c :: rest := by
        simp only [List.mem_cons, not_or] at h ⊢
        exact h.2.2.2.2
      have hsuffix : '_' ∉ sslSuffix := by decide
      exact fun hmem => (List.mem_append.mp hmem).elim (ih hinner) hsuffix
  | case3 c rest => simpa using h
  | case4 c rest => exact h
  | case5 => exact h

/-- What a name is reported as is spelled again without looking for underscores. -/
theorem serviceName_ofList_serviceChars {cs : List Char} (h : '_' ∉ cs) :
    serviceName (String.ofList (serviceChars cs)) =
      String.ofList (serviceChars (serviceChars cs)) := by
  rw [serviceName, String.toList_ofList, hyphenate_of_not_mem (not_mem_serviceChars h)]

/-- Layers of SSL are written without hyphens and underscores. -/
theorem hyphenate_eq_layers_iff (cs : List Char) (n : Nat) :
    hyphenate cs = layers n ↔ cs = layers n := by
  have hletters : ∀ c ∈ layers n, c ∈ sslPrefix := by
    intro c hc
    obtain ⟨part, hpart, hmem⟩ := List.mem_flatten.mp hc
    rwa [List.eq_of_mem_replicate hpart] at hmem
  constructor
  · intro h
    have hfree : '_' ∉ cs := by
      intro hmem
      have hhyphen : '-' ∈ hyphenate cs := List.mem_map.mpr ⟨'_', hmem, rfl⟩
      exact absurd (hletters _ (h ▸ hhyphen)) (by decide)
    rwa [hyphenate_of_not_mem hfree] at h
  · rintro rfl
    exact hyphenate_of_not_mem fun hmem => absurd (hletters _ hmem) (by decide)

/-- How layers of SSL are spelled, and how that is spelled. -/
theorem serviceName_of_layers {name : String} {n : Nat} (h : name.toList = layers (n + 2)) :
    serviceName name = String.ofList (sslPrefix ++ hung (n + 1)) ∧
      serviceName (serviceName name) = String.ofList (hung (n + 2)) := by
  have honce : serviceName name = String.ofList (serviceChars (layers (n + 2))) := by
    rw [serviceName, (hyphenate_eq_layers_iff _ _).mpr h]
  have hfree : '_' ∉ layers (n + 2) := by
    rw [← (hyphenate_eq_layers_iff _ _).mpr h]
    exact not_mem_hyphenate _
  refine ⟨by rw [honce, serviceChars_layers], ?_⟩
  rw [honce, serviceName_ofList_serviceChars hfree, serviceChars_layers, serviceChars_hung]

/-- A name is spelled the same again, unless it is made of layers of SSL alone. -/
theorem serviceName_serviceName_iff (name : String) :
    serviceName (serviceName name) = serviceName name ↔ ¬IsLayered name := by
  constructor
  · rintro h ⟨n, hn⟩
    obtain ⟨honce, htwice⟩ := serviceName_of_layers hn
    rw [htwice, honce] at h
    cases String.ofList_injective h
  · intro hlayers
    have hagain := serviceName_ofList_serviceChars (not_mem_hyphenate name.toList)
    rw [show serviceName name = String.ofList (serviceChars (hyphenate name.toList)) from rfl,
      hagain]
    rcases isReported_serviceChars_or (hyphenate name.toList) with h | ⟨n, hn⟩
    · rw [serviceChars_of_isReported h]
    · exact absurd ⟨n, (hyphenate_eq_layers_iff _ _).mp hn⟩ hlayers

/-- A name that was spelled twice stays. -/
theorem serviceName_settles (name : String) :
    serviceName (serviceName (serviceName name)) = serviceName (serviceName name) := by
  by_cases hlayers : IsLayered name
  · obtain ⟨n, hn⟩ := hlayers
    rw [serviceName_serviceName_iff, (serviceName_of_layers hn).1]
    rintro ⟨m, hm⟩
    rw [String.toList_ofList] at hm
    cases hm
  · rw [(serviceName_serviceName_iff name).mpr hlayers,
      (serviceName_serviceName_iff name).mpr hlayers]

/-! ## Rules and frames -/

/-- A rule was compiled for a service. -/
def MatchRule.IsFor (m : MatchRule) (service : String) : Prop :=
  ∃ pattern flags soft info, compile service pattern flags soft info = .ok (some m)

/-- A rule keeps its service as it is reported. -/
theorem MatchRule.IsFor.service_eq {m : MatchRule} {service : String} (h : m.IsFor service) :
    m.service = serviceName service := by
  obtain ⟨pattern, flags, soft, info, hcompile⟩ := h
  rw [compile] at hcompile
  split at hcompile
  · cases hcompile
  · split at hcompile
    · cases hcompile
      rfl
    · cases hcompile

/-- A rule describes its own service, or nothing. -/
theorem MatchRule.service_describe (m : MatchRule) (data : Bytes) :
    (m.describe data).service = "" ∨ (m.describe data).service = m.service := by
  rw [describe]
  split
  · exact .inl rfl
  · exact .inr rfl

/-- A reply is taken for the service of one of the rules, if for any. -/
theorem MatchRule.service_respond (data : Bytes) (soft : Option MatchRule)
    (rules : List MatchRule) :
    (respond data soft rules).service = "" ∨
      ∃ m ∈ soft.toList ++ rules, (respond data soft rules).service = m.service := by
  induction rules generalizing soft with
  | nil =>
      cases soft with
      | none => exact .inl rfl
      | some m => exact .inr ⟨m, List.mem_singleton_self m, rfl⟩
  | cons m rest ih =>
      rw [respond]
      split
      · refine (ih soft).imp_right ?_
        rintro ⟨m', hm', h⟩
        refine ⟨m', ?_, h⟩
        rcases List.mem_append.mp hm' with hsoft | hrest
        · exact List.mem_append_left _ hsoft
        · exact List.mem_append_right _ (List.mem_cons_of_mem m hrest)
      · split
        · refine (ih (some m)).imp_right ?_
          rintro ⟨m', hm', h⟩
          exact ⟨m', List.mem_append_right _ hm', h⟩
        · exact (m.service_describe data).imp_right fun h =>
            ⟨m, List.mem_append_right _ List.mem_cons_self, h⟩

namespace Fingerprint

theorem name_tagged (lead value : String) (frame : Frame) :
    (tagged lead value frame).name = frame.name := by
  unfold tagged
  split
  · rfl
  · exact Frame.name_addTag _ _

theorem name_decorate (f : Fingerprint) (frame : Frame) : (f.decorate frame).name = frame.name := by
  have htags (g : Frame) :
      (f.applications.foldl (fun frame c => frame.addTag ("cpe:" ++ c.1)) g).name = g.name :=
    List.foldlRecOn (motive := fun h : Frame => h.name = g.name) f.applications _ rfl
      fun h hname c _ => by rw [Frame.name_addTag, hname]
  have hlast (g : Frame) : (g.addFrom .active).name = g.name := rfl
  simp only [decorate, hlast, htags, name_tagged]

theorem name_applicationFrame (service : String) (a : Cpe) :
    (applicationFrame service a).name = service := by
  have hupdated : ((Frame.new service .nmap).update a).name = service := Frame.name_new _ _
  simp only [applicationFrame, name_tagged]
  split <;> split <;> exact hupdated

theorem name_plainFrame (f : Fingerprint) (service : String) :
    (f.plainFrame service).name = service := by
  have hnew : (Frame.new service .nmap).name = service := Frame.name_new _ _
  simp only [plainFrame]
  split <;> split <;> exact hnew

/-- Every frame of a fingerprint is named after its service. -/
theorem name_of_mem_frames {f : Fingerprint} {frame : Frame} (h : frame ∈ f.frames) :
    f.service ≠ "" ∧ frame.name = serviceName f.service := by
  unfold frames at h
  split at h
  next hmatched =>
    refine ⟨by simpa [isMatched] using hmatched, ?_⟩
    dsimp only at h
    split at h
    · rw [List.mem_singleton.mp h, name_decorate, name_plainFrame]
    · obtain ⟨c, -, rfl⟩ := List.mem_map.mp h
      rw [name_decorate, name_applicationFrame]
  next => cases h

end Fingerprint

/-- A service that is guessed by its port is named after an entry of the table of ports. -/
theorem Scanner.name_of_guess {s : Scanner} {port : Nat} {udp : Bool} {frame : Frame}
    (h : s.guess? port udp = some frame) :
    ∃ name, s.catalog.guess? port udp = some name ∧ frame.name = serviceName name := by
  obtain ⟨name, hname, rfl⟩ := Option.map_eq_some_iff.mp h
  exact ⟨name, hname, by rw [Frame.name_addTag, Frame.name_new]⟩

/-! ## The names of an engine -/

/-- A name is spelled the same again exactly when it is not the prefix of SSL twice or more, and
after two spellings it always is.  So rules keep and frames carry spellings that stay, but for rules
for such a service, whose frames are named after one spelling more, and for services that a table of
ports calls so. -/
theorem spelled_once (name : String) :
    (serviceName (serviceName name) = serviceName name ↔ ¬IsLayered name) ∧
    (∀ n, name.toList = layers (n + 2) →
      serviceName name = String.ofList (sslPrefix ++ hung (n + 1)) ∧
      serviceName (serviceName name) = String.ofList (hung (n + 2))) ∧
    serviceName (serviceName (serviceName name)) = serviceName (serviceName name) ∧
    (∀ m : MatchRule, m.IsFor name → (serviceName m.service = m.service ↔ ¬IsLayered name)) ∧
    (∀ rules data, (∀ m ∈ rules, ∃ service, MatchRule.IsFor m service) →
      ∀ f ∈ (MatchRule.respond data none rules).frames, serviceName f.name = f.name ∧
        ∃ m ∈ rules, ∃ service, m.IsFor service ∧ f.name = serviceName m.service ∧
          (f.name = m.service ↔ ¬IsLayered service)) ∧
    ∀ (s : Scanner) port udp f, s.guess? port udp = some f →
      ∃ service, s.catalog.guess? port udp = some service ∧ f.name = serviceName service ∧
        (serviceName f.name = f.name ↔ ¬IsLayered service) := by
  refine ⟨serviceName_serviceName_iff name, fun n => serviceName_of_layers,
    serviceName_settles name, ?_, ?_, ?_⟩
  · intro m hm
    rw [hm.service_eq, serviceName_serviceName_iff]
  · intro rules data hrules f hf
    obtain ⟨hservice, hname⟩ := Fingerprint.name_of_mem_frames hf
    rcases MatchRule.service_respond data none rules with hnone | ⟨m, hm, hm'⟩
    · exact absurd hnone hservice
    · obtain ⟨service, hfor⟩ := hrules m hm
      rw [hm'] at hname
      have hkept := hfor.service_eq
      refine ⟨?_, m, hm, service, hfor, hname, ?_⟩
      · rw [hname, hkept, serviceName_settles]
      · rw [hname, hkept, serviceName_serviceName_iff]
  · intro s port udp f hf
    obtain ⟨service, hguess, hname⟩ := Scanner.name_of_guess hf
    exact ⟨service, hguess, hname, by rw [hname, serviceName_serviceName_iff]⟩

/-- A rule for two layers of SSL keeps one spelling and its frames carry another, and what a port is
guessed to be is spelled differently again. -/
theorem spelled_once_of_two_layers :
    let table : ServiceTable := ({} : ServiceTable).insert 7 "ssl/ssl/" false
    let scanner : Scanner := ⟨.new {} table, false⟩
    let data := Utf8.encode "x"
    "ssl/ssl/".toList = layers 2 ∧ serviceName "ssl/ssl/" = "ssl/-ssl" ∧
    (∃ m, MatchRule.parse "ssl/ssl/ m|x|" false = .ok (some m) ∧ m.IsFor "ssl/ssl/" ∧
      m.service = "ssl/-ssl" ∧ serviceName m.service ≠ m.service ∧
      (MatchRule.respond data none [m]).frames.map Frame.name = ["-ssl-ssl"] ∧
      ∀ f ∈ (MatchRule.respond data none [m]).frames, serviceName f.name = f.name) ∧
    ∃ f, scanner.guess? 7 false = some f ∧ f.name = "ssl/-ssl" ∧ serviceName f.name ≠ f.name := by
  intro table scanner data
  have hlayers : "ssl/ssl/".toList = layers 2 := by decide
  have hlayered : ¬¬IsLayered "ssl/ssl/" := fun h => h ⟨0, hlayers⟩
  obtain ⟨-, hspelled, -, hkept, hframes, hguess⟩ := spelled_once "ssl/ssl/"
  have honce : serviceName "ssl/ssl/" = "ssl/-ssl" := (hspelled 0 hlayers).1.trans (by decide)
  refine ⟨hlayers, honce, ?_, ?_⟩
  · have hshown : ((MatchRule.parse "ssl/ssl/ m|x|" false).toOption.map fun rule =>
        rule.map fun m =>
          (m.service, (MatchRule.respond data none [m]).frames.map Frame.name)) =
        some (some ("ssl/-ssl", ["-ssl-ssl"])) := by
      cbv
    obtain ⟨rule, hparse, hrule⟩ := Results.exists_of_map_toOption _ _ _ hshown
    obtain ⟨m, rfl, hm⟩ := Option.map_eq_some_iff.mp hrule
    obtain ⟨hservice, hnames⟩ := Prod.mk.inj hm
    have hparts : MatchRule.parts? "ssl/ssl/ m|x|" = some ("ssl/ssl/", "x", "", "") := by
      decide +kernel
    have hfor : m.IsFor "ssl/ssl/" := by
      rw [MatchRule.parse, hparts] at hparse
      exact ⟨"x", "", false, .parse "", hparse⟩
    refine ⟨m, hparse, hfor, hservice, fun h => hlayered ((hkept m hfor).mp h), hnames, ?_⟩
    intro f hf
    have hrules : ∀ m' ∈ [m], ∃ service, m'.IsFor service := by
      intro m' hm'
      rw [List.mem_singleton.mp hm']
      exact ⟨_, hfor⟩
    exact (hframes [m] data hrules f hf).1
  · have htable : scanner.catalog.guess? 7 false = some "ssl/ssl/" := by decide +kernel
    obtain ⟨f, hf⟩ : ∃ f, scanner.guess? 7 false = some f := ⟨_, by rw [Scanner.guess?, htable]; rfl⟩
    obtain ⟨service, hservice, hname, hiff⟩ := hguess scanner 7 false f hf
    rw [htable] at hservice
    cases hservice
    exact ⟨f, hf, hname.trans honce, fun h => hlayered (hiff.mp h)⟩

end Fingerprinting.Nmap
