/-
# Printing match rules

How a rule of a record is printed as a directive: service, pattern between delimiters, flags, and
one field after the other.  A directive printed so compiles to what the record compiles to, since
each part ends where it was made to end: the service at the blank, the pattern at its delimiter, the
flags at the next blank and a field at its slash.

* `parts?_directive` finds the parts of a directive again;
* `fieldsOf_written` finds its fields again;
* `parse_written` says that they make the templates of the record.
-/
import Fingerprinting.Proofs.Nmap.Printing
import Fingerprinting.Proofs.Results

namespace Fingerprinting.Nmap

/-! ## Directives of records -/

/-- The key of a field. -/
def VersionField.key : VersionField → String
  | .product => "p"
  | .version => "v"
  | .info => "i"
  | .hostname => "h"
  | .system => "o"
  | .device => "d"
  | .cpe => "cpe:"

/-- A field after a blank, with its text between slashes. -/
def fieldText (field : VersionField × String) : String :=
  " " ++ field.1.key ++ "/" ++ field.2 ++ "/"

namespace VersionRecord

/-- The fields of a record that are texts alone. -/
def fields (v : VersionRecord) : List (VersionField × String) :=
  [(.product, v.product), (.version, v.version), (.info, v.info), (.hostname, v.hostname),
    (.system, v.system), (.device, v.device)]

/-- The fields of a record as a directive writes them; the lead of a name of a product is its key
and the first slash. -/
def written (v : VersionRecord) : String :=
  Text.join "" (v.fields.map fieldText ++ v.cpes.map fun name => " " ++ name ++ "/")

/-- No text of a record has a slash, but for the lead of its names of products. -/
structure IsPlain (v : VersionRecord) : Prop where
  fields : ∀ f ∈ v.fields, '/' ∉ f.2.toList
  cpes : ∀ name ∈ v.cpes, ∃ s, name = "cpe:/" ++ s ∧ '/' ∉ s.toList

end VersionRecord

/-- What follows `match` or `softmatch` in a directive for a record, with a delimiter for its
pattern. -/
def MatchRecord.directive (r : MatchRecord) (delimiter : Char) : String :=
  r.service ++ " " ++ ("m" ++ String.singleton delimiter ++ r.pattern ++
    String.singleton delimiter ++ r.flags ++ r.info.elim "" VersionRecord.written)

/-! ## Fields -/

namespace VersionInfo

/-- Fields as a directive writes them. -/
def written (fields : List (VersionField × String)) : List Char :=
  fields.flatMap fun f => ' ' :: (f.1.key.toList ++ '/' :: (f.2.toList ++ ['/']))

theorem toList_fieldText (f : VersionField × String) :
    (fieldText f).toList = ' ' :: (f.1.key.toList ++ '/' :: (f.2.toList ++ ['/'])) := by
  simp [fieldText]

/-- A key is read as that of its field. -/
theorem key?_key (field : VersionField) (rest : List Char) :
    key? (field.key.toList ++ '/' :: rest) = some (field, '/' :: rest) := by
  cases field <;> rfl

/-- No key begins with a blank. -/
theorem exists_head_key (field : VersionField) (rest : List Char) :
    ∃ c more, field.key.toList ++ '/' :: rest = c :: more ∧ Text.isBlank c = false := by
  cases field
  all_goals exact ⟨_, _, rfl, by decide⟩

/-- A text without a slash is read up to the slash after it. -/
theorem value?_slash (value : String) (rest : List Char) (h : '/' ∉ value.toList) :
    value? ('/' :: (value.toList ++ '/' :: rest)) = some (value, rest) := by
  have hcut := Text.cutWhere_append (· == '/') value.toList rest '/'
    (Text.beq_eq_false_of_not_mem h) (beq_self_eq_true '/')
  rw [value?, hcut, Option.map_some]
  dsimp only
  rw [String.ofList_toList]

/-- A field is read first, and then what follows the word that it is in. -/
theorem fieldsOf_field {cs body after : List Char} {field : VersionField} {value : String}
    (hkey : key? cs = some (field, body)) (hvalue : value? body = some (value, after)) :
    fieldsOf cs = (field, value) :: fieldsOf (skipWord after) := by
  cases cs with
  | nil => cases hkey
  | cons c rest =>
      rw [fieldsOf]
      split
      · rename_i hnone
        rw [hkey] at hnone
        cases hnone
      · rename_i hsome
        rw [hkey] at hsome
        cases hsome
        split
        · rename_i hnone
          rw [hvalue] at hnone
          cases hnone
        · rename_i hsome
          rw [hvalue] at hsome
          cases hsome
          rfl

/-- Fields are read back. -/
theorem fieldsOf_written (fields : List (VersionField × String))
    (h : ∀ f ∈ fields, '/' ∉ f.2.toList) :
    fieldsOf ((written fields).dropWhile Text.isBlank) = fields := by
  induction fields with
  | nil => rw [written, List.flatMap_nil, List.dropWhile_nil, fieldsOf]
  | cons f fields ih =>
      have hblank : Text.isBlank ' ' = true := by decide
      have hwritten : written (f :: fields) =
          ' ' :: (f.1.key.toList ++ '/' :: (f.2.toList ++ '/' :: written fields)) := by
        simp [written]
      obtain ⟨c, more, hhead, hc⟩ := exists_head_key f.1 (f.2.toList ++ '/' :: written fields)
      have hskip : skipWord (written fields) = (written fields).dropWhile Text.isBlank := by
        cases fields with
        | nil => rfl
        | cons g fields => simp [skipWord, written, hblank]
      rw [hwritten, List.dropWhile_cons_of_pos hblank, hhead,
        List.dropWhile_cons_of_neg (by simp [hc]), ← hhead,
        fieldsOf_field (key?_key _ _) (value?_slash _ _ (h f List.mem_cons_self)), hskip,
        ih fun g hg => h g (List.mem_cons_of_mem _ hg)]

/-- Names of products add up. -/
theorem foldl_set_cpes (names : List String) (v : VersionInfo) :
    (names.map fun s => (VersionField.cpe, s)).foldl (fun v f => v.set f.2 f.1) v =
      { v with cpes := v.cpes ++ names.map fun s => .parse ("cpe:/" ++ s) } := by
  induction names generalizing v with
  | nil => simp
  | cons s names ih =>
      rw [List.map_cons, List.foldl_cons, ih]
      simp [set]

/-- Names of products without their lead. -/
theorem exists_names (cpes : List String)
    (h : ∀ name ∈ cpes, ∃ s, name = "cpe:/" ++ s ∧ '/' ∉ s.toList) :
    ∃ names : List String, cpes = names.map (fun s => "cpe:/" ++ s) ∧
      ∀ s ∈ names, '/' ∉ s.toList := by
  induction cpes with
  | nil => exact ⟨[], rfl, by simp⟩
  | cons name cpes ih =>
      obtain ⟨s, rfl, hs⟩ := h name List.mem_cons_self
      obtain ⟨names, rfl, hnames⟩ := ih fun name hname => h name (List.mem_cons_of_mem _ hname)
      exact ⟨s :: names, rfl, List.forall_mem_cons.mpr ⟨hs, hnames⟩⟩

/-- The fields of a record are read as its templates. -/
theorem parse_written (v : VersionRecord) (h : v.IsPlain) : parse v.written = .ofRecord v := by
  obtain ⟨names, hnames, hslash⟩ := exists_names v.cpes h.cpes
  have hchars : v.written.toList = written (v.fields ++ names.map fun s => (.cpe, s)) := by
    have hcpes : (v.cpes.map fun name => " " ++ name ++ "/") =
        (names.map fun s => (VersionField.cpe, s)).map fieldText := by
      rw [hnames, List.map_map, List.map_map]
      refine List.map_congr_left fun s _ => ?_
      have hlead : " " ++ "cpe:/" = " " ++ VersionField.cpe.key ++ "/" := by decide
      rw [Function.comp_apply, Function.comp_apply, fieldText, ← String.append_assoc, hlead]
    rw [VersionRecord.written, hcpes, ← List.map_append, Text.toList_join_empty, written]
    simp only [List.flatMap_map, toList_fieldText]
  have hfields : ∀ f ∈ v.fields ++ names.map fun s => (.cpe, s), '/' ∉ f.2.toList := by
    intro f hf
    rcases List.mem_append.mp hf with hf | hf
    · exact h.fields f hf
    · obtain ⟨s, hs, rfl⟩ := List.mem_map.mp hf
      exact hslash s hs
  have hcpes : v.cpes.map Template.parse = names.map fun s => .parse ("cpe:/" ++ s) := by
    rw [hnames, List.map_map]
    rfl
  rw [parse, Text.trimStartChars, hchars, fieldsOf_written _ hfields, List.foldl_append,
    foldl_set_cpes, ofRecord, hcpes]
  rfl

end VersionInfo

/-! ## Rules -/

/-- What a record says about its fields follows the flags after a blank, or nothing does. -/
theorem head?_written (info : Option VersionRecord) :
    ((info.elim "" VersionRecord.written).toList.head?).all (· == ' ') = true := by
  cases info with
  | none => rfl
  | some v =>
      rw [Option.elim_some, VersionRecord.written, Text.toList_join_empty, VersionRecord.fields,
        List.map_cons, List.cons_append, List.flatMap_cons, VersionInfo.toList_fieldText]
      rfl

namespace MatchRule

/-- Flags are read up to the end or to the blank that follows them. -/
theorem takeWhile_flags (flags fields : List Char) (hflags : flags.all isFlag = true)
    (hfields : fields.head?.all (· == ' ') = true) :
    (flags ++ fields).takeWhile isFlag = flags ∧ (flags ++ fields).dropWhile isFlag = fields := by
  have hall : ∀ c ∈ flags, isFlag c = true := List.all_eq_true.mp hflags
  rw [List.takeWhile_append_of_pos hall, List.dropWhile_append_of_pos hall]
  cases fields with
  | nil => exact ⟨List.append_nil flags, rfl⟩
  | cons c fields =>
      have hc : c = ' ' := eq_of_beq hfields
      subst hc
      have hblank : ¬ isFlag ' ' = true := by decide
      exact ⟨by rw [List.takeWhile_cons_of_neg hblank, List.append_nil],
        List.dropWhile_cons_of_neg hblank⟩

/-- The parts of a directive for a record are those that it was printed from. -/
theorem parts?_directive (r : MatchRecord) (delimiter : Char)
    (hservice : r.service.toList.all isNameChar = true)
    (hpattern : r.pattern ≠ "" ∧ delimiter ∉ r.pattern.toList)
    (hflags : r.flags.toList.all isFlag = true) :
    parts? (r.directive delimiter) =
      some (r.service, r.pattern, r.flags, r.info.elim "" VersionRecord.written) := by
  have hblank : ' ' ∉ r.service.toList := fun hmem =>
    absurd (List.all_eq_true.mp hservice ' ' hmem) (by decide)
  generalize hfields : r.info.elim "" VersionRecord.written = fields
  have hhead : fields.toList.head?.all (· == ' ') = true := hfields ▸ head?_written r.info
  have hrest : ("m" ++ String.singleton delimiter ++ r.pattern ++ String.singleton delimiter ++
      r.flags ++ fields).toList = 'm' :: delimiter :: (r.pattern.toList ++
        delimiter :: (r.flags.toList ++ fields.toList)) := by
    simp
  have hcut := Text.cutWhere_append (· == delimiter) r.pattern.toList
    (r.flags.toList ++ fields.toList) delimiter (Text.beq_eq_false_of_not_mem hpattern.2)
    (beq_self_eq_true delimiter)
  have hne : r.pattern.toList.isEmpty = false := by
    rw [List.isEmpty_eq_false_iff]
    exact fun h => hpattern.1 (String.toList_eq_nil_iff.mp h)
  obtain ⟨htake, hdrop⟩ := takeWhile_flags r.flags.toList fields.toList hflags hhead
  have hend : fields.toList.head?.all Text.isBlank = true := by
    cases hc : fields.toList.head? with
    | none => rfl
    | some c =>
        rw [hc] at hhead
        rw [eq_of_beq hhead]
        decide
  have hcutBlank (rest : String) :
      Text.cut ' ' (r.service ++ " " ++ rest) = some (r.service, rest) :=
    Text.cut_append ' ' r.service rest hblank
  simp only [parts?, MatchRecord.directive, hfields, hcutBlank, hservice, hrest, hcut, hne, htake,
    hdrop, hend, guard, Bool.not_false, if_true, Option.bind_eq_bind, Option.pure_def,
    Option.bind_some, String.ofList_toList]

/-- A compiled expression keeps its source. -/
theorem source_of_compile {source : String} {regex : Regex} (h : Regex.compile source = .ok regex) :
    regex.source = source := by
  obtain ⟨p, -, h⟩ := (Results.bind_eq_ok_iff _ _ _).mp h
  obtain ⟨e, -, h⟩ := (Results.bind_eq_ok_iff _ _ _).mp h
  split at h
  · cases h
  · cases h
    rfl

/-- A rule that compiles has the soft flag, the service, the pattern and the templates that it was
given, and the expression for its pattern and flags. -/
theorem of_compile {service pattern flags : String} {soft : Bool} {info : VersionInfo}
    {m : MatchRule} (h : compile service pattern flags soft info = .ok (some m)) :
    m.soft = soft ∧ m.service = serviceName service ∧ m.pattern = pattern ∧
      m.regex.source = regexSource pattern flags ∧ m.info = info := by
  unfold compile at h
  split at h
  · cases h
  · split at h
    · rename_i regex hregex
      cases h
      exact ⟨rfl, rfl, rfl, source_of_compile hregex, rfl⟩
    · cases h

end MatchRule

/-- The directive that is printed from a record compiles to what the record compiles to, whatever
delimiter the pattern leaves free.  It is no error, and the rule, if the expression is supported,
has the soft flag, service, pattern and templates of the record and the expression for its pattern
and flags. -/
theorem parse_directive (r : MatchRecord) (delimiter : Char)
    (hservice : r.service ≠ "" ∧ r.service.toList.all MatchRule.isNameChar = true)
    (hpattern : r.pattern ≠ "" ∧ delimiter ∉ r.pattern.toList)
    (hflags : r.flags.toList.all MatchRule.isFlag = true) (hinfo : ∀ v ∈ r.info, v.IsPlain) :
    MatchRule.parse (r.directive delimiter) r.soft = r.compile ∧
      (r.compile = .ok none ∨ ∃ m, r.compile = .ok (some m) ∧ m.soft = r.soft ∧
        m.service = serviceName r.service ∧ m.pattern = r.pattern ∧
        m.regex.source = regexSource r.pattern r.flags ∧
        m.info = r.info.elim {} VersionInfo.ofRecord) := by
  constructor
  · have hfields : VersionInfo.parse (r.info.elim "" VersionRecord.written) =
        r.info.elim {} .ofRecord := by
      cases hr : r.info with
      | none =>
          have hempty : VersionInfo.fieldsOf [] = [] := by rw [VersionInfo.fieldsOf]
          show (VersionInfo.fieldsOf []).foldl (fun (v : VersionInfo) f => v.set f.2 f.1) {} =
            ({} : VersionInfo)
          rw [hempty, List.foldl_nil]
      | some v => exact VersionInfo.parse_written v (hinfo v hr)
    rw [MatchRule.parse, MatchRule.parts?_directive r delimiter hservice.2 hpattern hflags]
    dsimp only
    rw [hfields, MatchRecord.compile]
  · cases hcompile : r.compile with
    | error e =>
        unfold MatchRecord.compile MatchRule.compile at hcompile
        rw [if_neg hservice.1] at hcompile
        split at hcompile <;> cases hcompile
    | ok m? =>
        cases m? with
        | none => exact .inl rfl
        | some m => exact .inr ⟨m, rfl, MatchRule.of_compile hcompile⟩

/-- A record whose texts have blanks, dollar signs and words that begin as fields do. -/
def lookalike : MatchRecord where
  service := "x/1.0_a-b"
  pattern := "^m|a| p/(.)/$"
  flags := "is"
  info := some { product := "v $1 i cpe:", version := "p v", cpes := ["cpe:/a:x y:$P(1)"] }

theorem parse_directive_of_lookalike :
    lookalike.directive '=' =
        "x/1.0_a-b m=^m|a| p/(.)/$=is p/v $1 i cpe:/ v/p v/ i// h// o// d// cpe:/a:x y:$P(1)/" ∧
      MatchRule.parse (lookalike.directive '=') false = lookalike.compile := by
  refine ⟨by decide, (parse_directive lookalike '=' ⟨by decide, by decide⟩ ⟨by decide, by decide⟩
    (by decide) ?_).1⟩
  rintro v ⟨⟩
  exact ⟨by decide, fun name hname => ⟨"a:x y:$P(1)", by simpa using hname, by decide⟩⟩

end Fingerprinting.Nmap
