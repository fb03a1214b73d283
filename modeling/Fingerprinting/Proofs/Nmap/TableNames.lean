/-
# Names that a table of ports keeps

A table keeps a service under its name in lower case, with hyphens for underscores, but for some
names that are listed with another one.  A name is looked up in the list before it gets its hyphens,
so a listed name with a hyphen is not found when it is written with an underscore (`IsHidden`).  What
is kept then is the listed name, which is found the next time.

* `lower_hyphenated` says that hyphens and lower case may be put in either order, and
  `respelled_iff` says what names come to that differ in letter case and underscores;
* `kept_hyphenated` is what the canonical name of all such names rests on;
* `ServiceTable.extend_congr` and `ServiceTable.ofEntries_congr` say that a table is made of
  canonical names.

Main statement: `table_spellings`.
-/
import Mathlib.Data.List.Forall2
import Fingerprinting.Nmap.ServiceTable
import Fingerprinting.Proofs.Nmap.ReportedNames
import Fingerprinting.Proofs.Text.AsciiCase
import Fingerprinting.Proofs.Unicode.Membership

namespace Fingerprinting.Nmap

/-! ## Hyphens and lower case -/

/-- A text with hyphens for underscores. -/
def hyphenated (s : String) : String := String.ofList (hyphenate s.toList)

theorem hyphenated_of_not_mem {s : String} (h : '_' ∉ s.toList) : hyphenated s = s := by
  rw [hyphenated, hyphenate_of_not_mem h, String.ofList_toList]

theorem hyphenated_hyphenated (s : String) : hyphenated (hyphenated s) = hyphenated s := by
  apply hyphenated_of_not_mem
  rw [hyphenated, String.toList_ofList]
  exact not_mem_hyphenate s.toList

theorem hyphenate_cons_of_ne {c : Char} (h : c ≠ '_') (rest : List Char) :
    hyphenate (c :: rest) = c :: hyphenate rest := by
  rw [hyphenate, List.map_cons, if_neg h, hyphenate]

theorem hyphenate_append (cs ds : List Char) :
    hyphenate (cs ++ ds) = hyphenate cs ++ hyphenate ds := List.map_append

/-- Only an underscore has an underscore for its lower case. -/
theorem not_mem_lowerChar {c : Char} (h : c ≠ '_') : '_' ∉ Text.lowerChar c := by
  by_cases hascii : c.toNat < 0x80
  · have hall : ∀ n < 0x80, Char.ofNat n ≠ '_' → '_' ∉ Text.lowerChar (Char.ofNat n) := by
      decide +kernel
    rw [← Char.ofNat_toNat c] at h ⊢
    exact hall c.toNat hascii h
  · rw [Text.lowerChar, if_neg hascii]
    split
    · decide
    · intro hmem
      have hcode := congrArg Char.toNat (List.mem_singleton.mp hmem)
      have hunderscore : '_'.toNat = 0x5F := rfl
      rw [hunderscore] at hcode
      rcases Text.lowerShift_eq_zero_or c.toNat Text.lowerRuns with
        ⟨hzero, -⟩ | ⟨run, hrun, hin, hshift⟩
      · rw [hzero, Int.add_zero, Int.toNat_natCast, Char.ofNat_toNat] at hcode
        omega
      · -- Every run leads beyond the underscore.
        obtain ⟨hvalid, -, -⟩ := Text.outside_of_inRun c.toNat run hrun hin
        have hruns : ∀ run ∈ Text.lowerRuns, 0x5F < run.1 + run.2.2.2 := by decide +kernel
        have hbeyond := hruns run hrun
        have hlow : run.1 ≤ c.toNat := hin.1
        have himage :
            (Char.ofNat (c.toNat + run.2.2.2).toNat).toNat = (c.toNat + run.2.2.2).toNat := by
          rw [Char.ofNat, dif_pos hvalid]
          rfl
        rw [hshift, himage] at hcode
        omega

/-- A search for a character with case does not tell hyphens from underscores. -/
theorem startsCased_hyphenate (cs : List Char) :
    Text.startsCased (hyphenate cs) = Text.startsCased cs := by
  have hunderscore := Text.isCaseless_of_mem '_' (by decide)
  have hhyphen := Text.isCaseless_of_mem '-' (by decide)
  induction cs with
  | nil => rfl
  | cons c rest ih =>
      by_cases hc : c = '_'
      · have hboth : hyphenate (c :: rest) = '-' :: hyphenate rest := by
          rw [hc]
          rfl
        rw [hboth, hc, Text.startsCased_cons, Text.startsCased_cons, hunderscore.1, hunderscore.2,
          hhyphen.1, hhyphen.2, if_neg Bool.false_ne_true, if_neg Bool.false_ne_true]
      · rw [hyphenate_cons_of_ne hc, Text.startsCased_cons, Text.startsCased_cons, ih]

/-- Hyphens may be put before or after lower case is taken. -/
theorem lowerFrom_hyphenate (before cs : List Char) :
    Text.lowerFrom (hyphenate before) (hyphenate cs) = hyphenate (Text.lowerFrom before cs) := by
  induction cs generalizing before with
  | nil => rfl
  | cons c rest ih =>
      by_cases hc : c = '_'
      · subst hc
        exact congrArg ('-' :: ·) (ih ('_' :: before))
      · -- The lower case of the character is the same between texts with hyphens.
        have hlow : Text.lowerIn (hyphenate before) c (hyphenate rest) =
            hyphenate (Text.lowerIn before c rest) := by
          rw [Text.lowerIn, Text.lowerIn, startsCased_hyphenate, startsCased_hyphenate]
          split
          · split
            · rfl
            · rfl
          · exact (hyphenate_of_not_mem (not_mem_lowerChar hc)).symm
        have hrest := ih (c :: before)
        rw [hyphenate_cons_of_ne hc] at hrest
        rw [hyphenate_cons_of_ne hc, Text.lowerFrom_cons, Text.lowerFrom_cons, hyphenate_append,
          hlow, hrest]

theorem lower_hyphenated (s : String) : Text.lower (hyphenated s) = hyphenated (Text.lower s) := by
  rw [Text.lower, hyphenated, String.toList_ofList, hyphenated, Text.lower, String.toList_ofList]
  exact congrArg String.ofList (lowerFrom_hyphenate [] s.toList)

/-! ## Names that differ in spelling -/

/-- Two names differ in nothing but letter case and underscores for hyphens. -/
inductive Respelled : String → String → Prop where
  | case {s t : String} (h : Text.lower s = Text.lower t) : Respelled s t
  | mark {s t : String} (h : hyphenated s = hyphenated t) : Respelled s t
  | trans {s t u : String} (h : Respelled s t) (h' : Respelled t u) : Respelled s u

/-- Such names are the same in lower case and with hyphens. -/
theorem respelled_iff (s t : String) :
    Respelled s t ↔ hyphenated (Text.lower s) = hyphenated (Text.lower t) := by
  constructor
  · intro h
    induction h with
    | case h => rw [h]
    | mark h => rw [← lower_hyphenated, ← lower_hyphenated, h]
    | trans _ _ ih ih' => rw [ih, ih']
  · intro h
    -- Each name is respelled in lower case first, and then with hyphens.
    have hcase (s : String) : Respelled s (Text.lower s) := .case (Text.lower_lower s).symm
    have hback : Respelled (Text.lower t) t := .case (Text.lower_lower t)
    exact (hcase s).trans ((Respelled.mark h).trans hback)

/-! ## Listed names -/

/-- Names in lower case that are listed, and what a table keeps for each of them. -/
def listedNames : List (String × String) :=
  [("", "unknown"), ("www", "http"), ("www-http", "http"), ("https", "https"),
    ("http-ssl", "https"), ("domain", "dns"), ("nameserver", "dns")]

/-- What a table keeps for a name in lower case. -/
def kept (a : String) : String := (listedNames.lookup a).getD (hyphenated a)

theorem tableName_eq (s : String) : tableName s = kept (Text.lower s) := by
  unfold tableName
  dsimp only
  generalize Text.lower s = a
  have hlisted (names : List String) (name : String) (h : names.contains a = true)
      (hall : ∀ x ∈ names, kept x = name) : name = kept a :=
    (hall a (List.contains_iff_mem.mp h)).symm
  split
  · rename_i hempty
    rw [hempty]
    decide
  · split
    · exact hlisted ["www", "www-http"] "http" ‹_› (by decide)
    · split
      · exact hlisted ["https", "http-ssl"] "https" ‹_› (by decide)
      · split
        · exact hlisted ["domain", "nameserver"] "dns" ‹_› (by decide)
        · have hnone : listedNames.lookup a = none := by
            rw [List.lookup_eq_none_iff]
            simp_all [listedNames]
          rw [kept, hnone]
          rfl

/-- Listed names with an underscore for their hyphen. -/
def hiddenNames : List String := ["www_http", "http_ssl"]

/-- A name is a listed one in other letters, but written with an underscore for its hyphen. -/
def IsHidden (s : String) : Prop := Text.lower s ∈ hiddenNames

instance (s : String) : Decidable (IsHidden s) :=
  inferInstanceAs (Decidable (Text.lower s ∈ hiddenNames))

/-- The texts that have hyphens where a text has, or underscores. -/
def spellings : List Char → List (List Char)
  | [] => [[]]
  | c :: rest =>
      (if c = '-' then ['-', '_'] else [c]).flatMap fun d => (spellings rest).map (d :: ·)

theorem mem_spellings (cs : List Char) : cs ∈ spellings (hyphenate cs) := by
  induction cs with
  | nil => exact List.mem_singleton_self []
  | cons c rest ih =>
      have htail : c :: rest ∈ (spellings (hyphenate rest)).map (c :: ·) := List.mem_map_of_mem ih
      by_cases hc : c = '_'
      · have hboth : hyphenate (c :: rest) = '-' :: hyphenate rest := by
          rw [hc]
          rfl
        rw [hboth, spellings, if_pos rfl]
        exact List.mem_flatMap.mpr ⟨c, by simp [hc], htail⟩
      · rw [hyphenate_cons_of_ne hc, spellings]
        refine List.mem_flatMap.mpr ⟨c, ?_, htail⟩
        split
        · rename_i hhyphen
          rw [hhyphen]
          exact List.mem_cons_self
        · exact List.mem_singleton_self c

/-- Listed names, and what is kept for them, have no underscore. -/
theorem not_mem_of_listed : ∀ e ∈ listedNames, '_' ∉ e.1.toList ∧ '_' ∉ e.2.toList := by decide

theorem hyphenated_of_lookup {a name : String} (h : listedNames.lookup a = some name) :
    hyphenated a = a ∧ '_' ∉ name.toList := by
  obtain ⟨hkey, hname⟩ := not_mem_of_listed _ (mem_of_lookup h)
  exact ⟨hyphenated_of_not_mem hkey, hname⟩

/-- A name that is not hidden is listed exactly when it is with hyphens. -/
theorem lookup_hyphenated {a : String} (h : a ∉ hiddenNames) :
    listedNames.lookup (hyphenated a) = listedNames.lookup a := by
  cases hlisted : listedNames.lookup a with
  | some name => rw [(hyphenated_of_lookup hlisted).1, hlisted]
  | none =>
      rw [List.lookup_eq_none_iff]
      intro e he
      rw [bne_iff_ne]
      intro heq
      -- Whatever has a listed name for its hyphens is listed or hidden.
      have hall : ∀ e ∈ listedNames, ∀ cs ∈ spellings e.1.toList,
          String.ofList cs ∈ hiddenNames ∨ (listedNames.lookup (String.ofList cs)).isSome := by
        decide
      have hspelled : a.toList ∈ spellings e.1.toList := by
        rw [← heq, hyphenated, String.toList_ofList]
        exact mem_spellings a.toList
      rcases hall e he a.toList hspelled with hhidden | hsome
      · rw [String.ofList_toList] at hhidden
        exact h hhidden
      · rw [String.ofList_toList, hlisted] at hsome
        cases hsome

/-- What is kept for a name that is not hidden is what is kept for it with hyphens. -/
theorem kept_hyphenated {a : String} (h : a ∉ hiddenNames) : kept (hyphenated a) = kept a := by
  rw [kept, lookup_hyphenated h, hyphenated_hyphenated, kept]

theorem kept_of_mem_hiddenNames : ∀ a ∈ hiddenNames,
    kept a = hyphenated a ∧ kept (hyphenated a) ≠ kept a := by
  decide

/-- What is kept has no underscore. -/
theorem hyphenated_kept (a : String) : hyphenated (kept a) = kept a := by
  rw [kept]
  cases hlisted : listedNames.lookup a with
  | some name => exact hyphenated_of_not_mem (hyphenated_of_lookup hlisted).2
  | none => exact hyphenated_hyphenated a

/-! ## Canonical names -/

theorem not_isHidden_of_hyphenated {s : String} (h : hyphenated s = s) : ¬ IsHidden s := by
  have hall : ∀ a ∈ hiddenNames, hyphenated a ≠ a := by decide
  intro hhidden
  have hlower := lower_hyphenated s
  rw [h] at hlower
  exact hall _ hhidden hlower.symm

/-- What is kept for a name is not hidden. -/
theorem not_isHidden_tableName (s : String) : ¬ IsHidden (tableName s) := by
  apply not_isHidden_of_hyphenated
  rw [tableName_eq, hyphenated_kept]

/-- What is kept for the canonical name of a name is what is kept for its lower case with hyphens. -/
theorem tableName_tableName (s : String) :
    tableName (tableName s) = kept (hyphenated (Text.lower s)) := by
  have hlisted : ∀ e ∈ listedNames, kept (Text.lower e.2) = e.2 := by decide +kernel
  rw [tableName_eq, tableName_eq]
  cases hlookup : listedNames.lookup (Text.lower s) with
  | some name =>
      have hkept : kept (Text.lower s) = name := by rw [kept, hlookup, Option.getD_some]
      rw [(hyphenated_of_lookup hlookup).1, hkept]
      exact hlisted (Text.lower s, name) (mem_of_lookup hlookup)
  | none =>
      have hkept : kept (Text.lower s) = hyphenated (Text.lower s) := by
        rw [kept, hlookup, Option.getD_none]
      rw [hkept, lower_hyphenated, Text.lower_lower]

/-- The canonical name of a name stays the same unless the name is hidden. -/
theorem tableName_tableName_iff (s : String) :
    tableName (tableName s) = tableName s ↔ ¬ IsHidden s := by
  rw [tableName_tableName, tableName_eq]
  constructor
  · intro h hhidden
    exact (kept_of_mem_hiddenNames _ hhidden).2 h
  · intro h
    exact kept_hyphenated h

/-- Another spelling of a hidden name has another canonical name. -/
theorem lower_eq_of_isHidden {s t : String} (hs : IsHidden s) (h : Respelled s t)
    (hname : tableName s = tableName t) : Text.lower s = Text.lower t := by
  have hall : ∀ a ∈ hiddenNames, ∀ cs ∈ spellings (hyphenated a).toList,
      kept a = kept (String.ofList cs) → a = String.ofList cs := by
    decide
  -- The other name has the same hyphens, so it is among the spellings of the hidden one.
  have hspelled := mem_spellings (Text.lower t).toList
  have hsame := congrArg String.toList ((respelled_iff s t).mp h)
  rw [hyphenated, hyphenated, String.toList_ofList, String.toList_ofList] at hsame
  have hmem : (Text.lower t).toList ∈ spellings (hyphenated (Text.lower s)).toList := by
    rw [hyphenated, String.toList_ofList, hsame]
    exact hspelled
  rw [tableName_eq, tableName_eq] at hname
  have hlower := hall _ hs _ hmem
  rw [String.ofList_toList] at hlower
  exact hlower hname

/-- Two spellings of a name have one canonical name exactly when neither is hidden, or they differ in
letter case only. -/
theorem tableName_eq_iff {s t : String} (h : Respelled s t) :
    tableName s = tableName t ↔
      Text.lower s = Text.lower t ∨ (¬ IsHidden s ∧ ¬ IsHidden t) := by
  have hsame := (respelled_iff s t).mp h
  have hback : Respelled t s := (respelled_iff t s).mpr hsame.symm
  constructor
  · intro hname
    by_cases hs : IsHidden s
    · exact .inl (lower_eq_of_isHidden hs h hname)
    · by_cases ht : IsHidden t
      · exact .inl (lower_eq_of_isHidden ht hback hname.symm).symm
      · exact .inr ⟨hs, ht⟩
  · rintro (hlower | ⟨hs, ht⟩)
    · rw [tableName_eq, hlower, tableName_eq]
    · rw [tableName_eq, tableName_eq, ← kept_hyphenated hs, ← kept_hyphenated ht, hsame]

/-! ## Tables -/

namespace ServiceTable

theorem lookup_put (port : Nat) (name : String) (names : List (Nat × String)) :
    (put port name names).lookup port = some name := by
  induction names with
  | nil => simp [put]
  | cons e rest ih =>
      unfold put
      split
      · simp
      · rename_i hport
        rw [List.lookup_cons, beq_eq_false_iff_ne.mpr (Ne.symm hport)]
        exact ih

/-- A port has the canonical name of the service that it was given last, if that is known. -/
theorem guess?_insert (t : ServiceTable) (port : Nat) (name : String) (udp : Bool) :
    (t.insert port name udp).guess? port udp = (some (tableName name)).filter (· != "unknown") := by
  unfold guess? insert
  cases udp with
  | true => simp only [if_true, lookup_put, Option.some_or]
  | false => simp only [Bool.false_eq_true, if_false, lookup_put]

/-- Two services of a port are guessed alike exactly when they have one canonical name. -/
theorem guess?_insert_eq_iff (t : ServiceTable) (port : Nat) (name other : String) (udp : Bool) :
    (t.insert port name udp).guess? port udp = (t.insert port other udp).guess? port udp ↔
      tableName name = tableName other := by
  rw [guess?_insert, guess?_insert, Option.filter_some, Option.filter_some]
  constructor
  · intro h
    split at h
    · rename_i hname
      split at h
      · exact Option.some.inj h
      · cases h
    · rename_i hname
      split at h
      · cases h
      · rename_i hother
        simp only [bne_iff_ne, not_not] at hname hother
        rw [hname, hother]
  · intro h
    rw [h]

/-- A table is extended by the canonical names of services. -/
theorem extend_congr (t : ServiceTable) {services others : Dictionary String}
    (h : List.Forall₂ (fun e e' => e.1 = e'.1 ∧ tableName e.2 = tableName e'.2)
      services.entries others.entries) : t.extend services = t.extend others := by
  unfold extend
  refine List.rel_foldl (fun t t' ht e e' he => ?_) rfl h
  obtain ⟨port, name⟩ := e
  obtain ⟨port', name'⟩ := e'
  obtain ⟨hport, hname⟩ := he
  dsimp only at hport hname
  subst ht hport
  dsimp only
  split
  · rw [insert, hname, insert]
  · rfl

/-- Two entries are the same but for the spelling of a name. -/
def SameService (e e' : Entry) : Prop :=
  e' = { e with name := e'.name } ∧ tableName e.name = tableName e'.name

/-- Two candidates for a port are the same but for the spelling of a name. -/
def SameCandidate (x x' : (Nat × Bool) × (Float × String)) : Prop :=
  x.1 = x'.1 ∧ x.2.1 = x'.2.1 ∧ tableName x.2.2 = tableName x'.2.2

theorem consider_congr {e e' : Entry} (he : SameService e e') {best best' : Candidates}
    (h : List.Forall₂ SameCandidate best best') :
    List.Forall₂ SameCandidate (consider e best) (consider e' best') := by
  obtain ⟨heq, hname⟩ := he
  generalize e'.name = name at heq hname
  subst heq
  -- Both lists have the same ports and probabilities, so both take the same branch at each place.
  induction h with
  | nil =>
      unfold consider
      refine .cons ⟨rfl, ?_⟩ .nil
      split
      · exact ⟨rfl, hname⟩
      · exact ⟨rfl, rfl⟩
  | @cons x x' rest rest' hx hrest ih =>
      obtain ⟨key, best⟩ := x
      obtain ⟨key', best'⟩ := x'
      obtain ⟨hkey, hprobability, hbest⟩ := hx
      dsimp only at hkey hprobability hbest
      subst hkey
      unfold consider
      have hudp : consider.isUdp { e with name := name } = consider.isUdp e := rfl
      rw [hudp]
      dsimp only
      split
      · refine .cons ⟨rfl, ?_⟩ hrest
        rw [← hprobability]
        dsimp only
        split
        · exact ⟨rfl, hname⟩
        · exact ⟨hprobability, hbest⟩
      · exact .cons ⟨rfl, hprobability, hbest⟩ ih

/-- A table is made of the canonical names of entries. -/
theorem ofEntries_congr {entries others : List Entry}
    (h : List.Forall₂ SameService entries others) : ofEntries entries = ofEntries others := by
  have hkept : List.Forall₂ SameService (entries.filter fun e => e.port ≤ Text.max16)
      (others.filter fun e => e.port ≤ Text.max16) := by
    refine List.rel_filter (fun e e' he => ?_) h
    rw [he.1]
  have hbest := List.rel_foldl (R := SameService)
    (fun best best' hbest e e' he => consider_congr he hbest)
    (List.Forall₂.nil : List.Forall₂ SameCandidate [] []) hkept
  unfold ofEntries
  refine List.rel_foldl (R := SameCandidate) (fun t t' ht x x' hx => ?_) rfl hbest
  obtain ⟨⟨port, udp⟩, probability, name⟩ := x
  obtain ⟨⟨port', udp'⟩, probability', name'⟩ := x'
  obtain ⟨hkey, -, hname⟩ := hx
  cases hkey
  dsimp only at hname ⊢
  rw [ht, insert, hname, insert]

end ServiceTable

/-- Two names differ in spelling only, and neither is hidden. -/
def Alike (s t : String) : Prop := Respelled s t ∧ ¬ IsHidden s ∧ ¬ IsHidden t

theorem Alike.tableName_eq {s t : String} (h : Alike s t) : tableName s = tableName t :=
  (tableName_eq_iff h.1).mpr (.inr h.2)

/-- A canonical name stays the same when it is taken again, unless it is that of a listed name with an
underscore for its hyphen; it stays the same from the second time on.  Names that differ in letter
case and underscores only have one canonical name, unless one of them is such a name and they differ
in more than letter case; they have one when it is taken again.  A port is guessed to have the same
service from two names exactly when they have one canonical name.  So two corpora with the same
services in different spellings, none of them such a name, make the same table. -/
theorem table_spellings (s t : String) :
    (tableName (tableName s) = tableName s ↔ ¬ IsHidden s) ∧
    tableName (tableName (tableName s)) = tableName (tableName s) ∧
    (Respelled s t → (tableName s = tableName t ↔
      Text.lower s = Text.lower t ∨ (¬ IsHidden s ∧ ¬ IsHidden t))) ∧
    (Respelled s t → tableName (tableName s) = tableName (tableName t)) ∧
    (∀ (table : ServiceTable) port udp,
      (table.insert port s udp).guess? port udp = (table.insert port t udp).guess? port udp ↔
        tableName s = tableName t) ∧
    (∀ (table : ServiceTable) (services others : Dictionary String),
      List.Forall₂ (fun e e' => e.1 = e'.1 ∧ Alike e.2 e'.2) services.entries others.entries →
        table.extend services = table.extend others) ∧
    (∀ entries others : List ServiceTable.Entry,
      List.Forall₂ (fun e e' => e' = { e with name := e'.name } ∧ Alike e.name e'.name)
        entries others →
        ServiceTable.ofEntries entries = ServiceTable.ofEntries others) := by
  refine ⟨tableName_tableName_iff s, (tableName_tableName_iff _).mpr (not_isHidden_tableName s),
    tableName_eq_iff, fun h => ?_, fun table port udp => ?_, fun table services others h => ?_,
    fun entries others h => ?_⟩
  · rw [tableName_tableName, tableName_tableName, (respelled_iff s t).mp h]
  · exact table.guess?_insert_eq_iff port s t udp
  · exact table.extend_congr (h.imp fun e e' he => ⟨he.1, he.2.tableName_eq⟩)
  · exact ServiceTable.ofEntries_congr (h.imp fun e e' he => ⟨he.1, he.2.tableName_eq⟩)

/-- A listed name in capitals with an underscore: with a hyphen it is kept under another name, and
with an underscore it is kept as it is listed. -/
theorem table_spellings_of_underscore :
    let s := "WWW_HTTP"
    let t := "www-http"
    Respelled s t ∧ IsHidden s ∧ tableName s = "www-http" ∧ tableName t = "http" ∧
      tableName (tableName s) ≠ tableName s ∧ tableName s ≠ tableName t ∧
      tableName (tableName s) = tableName (tableName t) ∧
      (({} : ServiceTable).insert 8000 s false).guess? 8000 false ≠
        (({} : ServiceTable).insert 8000 t false).guess? 8000 false := by
  intro s t
  have hcase : Text.lower s = Text.lower "www_http" := by decide +kernel
  have hmark : hyphenated "www_http" = hyphenated t := by decide +kernel
  have hrespelled : Respelled s t := (Respelled.case hcase).trans (.mark hmark)
  have hs : IsHidden s := by decide +kernel
  have hlower : Text.lower s ≠ Text.lower t := by decide +kernel
  obtain ⟨hagain, -, hsame, htwice, hguess, -, -⟩ := table_spellings s t
  have hne : tableName s ≠ tableName t := by
    rw [Ne, hsame hrespelled]
    rintro (h | ⟨h, -⟩)
    · exact hlower h
    · exact h hs
  have hsKept : tableName s = "www-http" := by decide +kernel
  have htKept : tableName t = "http" := by decide +kernel
  have hguessed := mt (hguess {} 8000 false).mp hne
  exact ⟨hrespelled, hs, hsKept, htKept, fun h => hagain.mp h hs, hne, htwice hrespelled, hguessed⟩

end Fingerprinting.Nmap
