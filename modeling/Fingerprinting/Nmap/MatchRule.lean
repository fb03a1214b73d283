/-
# Match rules

A match rule recognises a service by a regular expression.  It is written as

    service m|pattern|flags p/product/ v/version/ i/info/ h/host/ o/system/ d/device/ cpe:/name/

where any character may stand for the bars and for the slashes, and every field after the flags may
be left out. The fields are templates that take what the groups of the match took.  A soft rule
names the service and leaves the rest to later rules for the same service.
-/
import Fingerprinting.Nmap.Fingerprint
import Fingerprinting.Nmap.Template

namespace Fingerprinting.Nmap

/-! ## Version fields -/

/-- The templates for what a match says about a service. -/
structure VersionInfo where
  product : Template := []
  version : Template := []
  info : Template := []
  hostname : Template := []
  system : Template := []
  device : Template := []
  cpes : List Template := []
deriving DecidableEq, Repr, Inhabited

/-- The fields of a rule. -/
inductive VersionField where
  | product
  | version
  | info
  | hostname
  | system
  | device
  | cpe
deriving DecidableEq, Repr

namespace VersionInfo

/-- Set a field from its text; names of products add up. -/
def set (v : VersionInfo) (value : String) : VersionField → VersionInfo
  | .product => { v with product := .parse value }
  | .version => { v with version := .parse value }
  | .info => { v with info := .parse value }
  | .hostname => { v with hostname := .parse value }
  | .system => { v with system := .parse value }
  | .device => { v with device := .parse value }
  | .cpe => { v with cpes := v.cpes ++ [.parse ("cpe:/" ++ value)] }

/-- The field that begins here, and what follows its key. -/
def key? : List Char → Option (VersionField × List Char)
  | 'c' :: 'p' :: 'e' :: ':' :: rest => some (.cpe, rest)
  | 'p' :: rest => some (.product, rest)
  | 'v' :: rest => some (.version, rest)
  | 'i' :: rest => some (.info, rest)
  | 'h' :: rest => some (.hostname, rest)
  | 'o' :: rest => some (.system, rest)
  | 'd' :: rest => some (.device, rest)
  | _ => none

/-- What follows the word that begins here, and the blanks after it. -/
def skipWord (cs : List Char) : List Char :=
  (cs.dropWhile fun c => !Text.isBlank c).dropWhile Text.isBlank

theorem length_dropWhile_le (p : Char → Bool) (cs : List Char) :
    (cs.dropWhile p).length ≤ cs.length :=
  (List.dropWhile_sublist p).length_le

/-- Skipping a word makes a text shorter. -/
theorem length_skipWord_lt (c : Char) (rest : List Char) :
    (skipWord (c :: rest)).length < (c :: rest).length := by
  unfold skipWord
  have h1 := length_dropWhile_le (fun c => !Text.isBlank c) rest
  have h2 := length_dropWhile_le Text.isBlank (rest.dropWhile fun c => !Text.isBlank c)
  have h3 := length_dropWhile_le Text.isBlank rest
  by_cases h : Text.isBlank c <;> simp [List.dropWhile, h] <;> omega

/-- What a key is followed by: a delimiter, a value up to the next delimiter, and the rest. -/
def value? : List Char → Option (String × List Char)
  | [] => none
  | delimiter :: rest =>
      (Text.cutWhere (· == delimiter) rest).map fun (value, rest) => (String.ofList value, rest)

theorem length_cutWhere_lt {p : Char → Bool} {cs before after : List Char}
    (h : Text.cutWhere p cs = some (before, after)) : after.length < cs.length := by
  unfold Text.cutWhere at h
  have := length_dropWhile_le (fun c => !p c) cs
  split at h
  · simp at h
  · rename_i hd
    simp only [Option.some.injEq, Prod.mk.injEq] at h
    obtain ⟨-, rfl⟩ := h
    rw [hd] at this
    exact this

theorem length_value_lt {cs rest : List Char} {value : String}
    (h : value? cs = some (value, rest)) : rest.length < cs.length := by
  cases cs with
  | nil => simp [value?] at h
  | cons d cs =>
      simp only [value?, Option.map_eq_some_iff, Prod.mk.injEq] at h
      obtain ⟨⟨a, b⟩, hab, -, rfl⟩ := h
      have := length_cutWhere_lt hab
      simp only [List.length_cons]
      omega

theorem length_key_lt {cs rest : List Char} {field : VersionField}
    (h : key? cs = some (field, rest)) : rest.length < cs.length := by
  unfold key? at h
  split at h <;> grind

/-- The fields that a text lists.  A word that is no field is passed over, and a field without an
end ends the list. -/
def fieldsOf (cs : List Char) : List (VersionField × String) :=
  match cs with
  | [] => []
  | c :: rest =>
      match _hk : key? (c :: rest) with
      | none => fieldsOf (skipWord (c :: rest))
      | some (field, body) =>
          match _hv : value? body with
          | none => []
          | some (value, after) => (field, value) :: fieldsOf (skipWord after)
termination_by cs.length
decreasing_by
  · exact length_skipWord_lt c rest
  · have h1 := length_key_lt _hk
    have h2 := length_value_lt _hv
    have h3 : (skipWord after).length ≤ after.length := by
      cases after with
      | nil => simp [skipWord]
      | cons c rest => exact Nat.le_of_lt (length_skipWord_lt c rest)
    omega

/-- Read the fields of a rule. -/
def parse (s : String) : VersionInfo :=
  (fieldsOf (Text.trimStartChars Text.isBlank s.toList)).foldl (fun v f => v.set f.2 f.1) {}

end VersionInfo

/-! ## Patterns -/

/-- A pattern in which NUL is written in hexadecimal. -/
def spellNul : List Char → List Char
  | '\\' :: '0' :: rest => '\\' :: 'x' :: '0' :: '0' :: spellNul rest
  | c :: rest => c :: spellNul rest
  | [] => []

/-- A pattern without the circumflex at its start, and whether it has one. -/
def splitStart : List Char → List Char × List Char
  | '^' :: rest => (['^'], rest)
  | cs => ([], cs)

/-- A pattern without the dollar sign at its end, unless that is escaped, and the dollar sign. -/
def splitEnd (cs : List Char) : List Char × List Char :=
  match cs.reverse with
  | '$' :: inner => if inner.head? = some '\\' then (cs, []) else (inner.reverse, ['$'])
  | _ => (cs, [])

/-- The flags of a group: case never counts when there are flags. -/
def groupFlags (flags : List Char) : List Char :=
  if flags.contains 'i' then flags else flags ++ ['i']

/-- A pattern with its flags: they hold for a group around what stands between its anchors. -/
def wrapped (flags : String) (cs : List Char) : List Char :=
  if flags = "" then cs
  else
    let (start, body) := splitStart cs
    let (body, finish) := splitEnd body
    start ++ ['(', '?'] ++ groupFlags flags.toList ++ [':'] ++ body ++ [')'] ++ finish

/-- The regular expression for a pattern.  It matches bytes, and flags hold between the anchors of
the pattern. -/
def regexSource (pattern flags : String) : String :=
  "(?-u)" ++ String.ofList (wrapped flags (spellNul pattern.toList))

/-! ## Rules -/

/-- A compiled match rule. -/
structure MatchRule where
  soft : Bool
  service : String
  pattern : String
  regex : Regex
  info : VersionInfo

namespace MatchRule

/-- Compile a rule.  There is none when the regular expression is not supported. -/
def compile (service pattern flags : String) (soft : Bool) (info : VersionInfo) :
    Except RuleError (Option MatchRule) :=
  if service = "" then .error (.noService pattern)
  else
    match Regex.compile (regexSource pattern flags) with
    | .ok regex => .ok (some { soft, service := serviceName service, pattern, regex, info })
    | .error _ => .ok none

/-- Whether a character may stand in the name of a service or a probe. -/
def isNameChar (c : Char) : Bool :=
  c.isAlphanum || c == '-' || c == '_' || c == '.' || c == '/'

/-- Whether a character is a flag of a directive. -/
def isFlag (c : Char) : Bool := c == 'i' || c == 's'

/-- The parts of a directive: service, pattern, flags and fields. -/
def parts? (args : String) : Option (String × String × String × String) := do
  let (service, rest) ← Text.cut ' ' args
  guard (service.toList.all isNameChar)
  match rest.toList with
  | 'm' :: delimiter :: rest => do
      let (pattern, rest) ← Text.cutWhere (· == delimiter) rest
      guard (!pattern.isEmpty)
      let flags := rest.takeWhile isFlag
      let fields := rest.dropWhile isFlag
      guard (fields.head?.all Text.isBlank)
      some (service, String.ofList pattern, String.ofList flags, String.ofList fields)
  | _ => none

/-- Read what follows `match` or `softmatch`. -/
def parse (args : String) (soft : Bool) : Except RuleError (Option MatchRule) :=
  match parts? args with
  | some (service, pattern, flags, fields) => compile service pattern flags soft (.parse fields)
  | none => .error (.matchDirective args)

/-- Whether a rule matches a reply. -/
def isMatch (m : MatchRule) (data : Bytes) : Bool := m.regex.isMatch data

/-- The names of products that the templates of a rule give.  A name that cannot be read is left
out. -/
def cpesOf (m : MatchRule) (group : Nat → String) : List (String × Cpe) :=
  (m.info.cpes.map fun t => t.render group).filterMap fun name =>
    if name = "" then none else (Cpe.parse name).toOption.map fun a => (name, a)

/-- What a rule says about a reply. -/
def describe (m : MatchRule) (data : Bytes) : Fingerprint :=
  match m.regex.captures? data with
  | none => {}
  | some captures =>
      let text (t : Template) : String := t.render captures.text
      { service := m.service
        product := text m.info.product
        version := text m.info.version
        info := text m.info.info
        hostname := text m.info.hostname
        system := text m.info.system
        device := text m.info.device
        cpes := m.cpesOf captures.text }

/-! ## Replies -/

/-- What some rules say about a reply, in their order.  The first rule that is not soft decides.
Once a soft rule has matched, only rules for its service count, and the last such rule stands if no
other decides. -/
def respond (data : Bytes) (soft : Option MatchRule) : List MatchRule → Fingerprint
  | [] =>
      match soft with
      | some m => { service := m.service, regex := m.regex.source }
      | none => {}
  | m :: rest =>
      if soft.any (fun s => s.service != m.service) || !m.isMatch data then respond data soft rest
      else if m.soft then respond data (some m) rest
      else { m.describe data with regex := m.regex.source }

end MatchRule

/-! ## Records -/

/-- The fields of a rule as a corpus of records holds them. -/
structure VersionRecord where
  product : String := ""
  version : String := ""
  info : String := ""
  hostname : String := ""
  system : String := ""
  device : String := ""
  /-- Names of products, each with its lead. -/
  cpes : List String := []

/-- A rule as a corpus of records holds it. -/
structure MatchRecord where
  soft : Bool := false
  service : String := ""
  pattern : String := ""
  flags : String := ""
  info : Option VersionRecord := none

/-- The templates of a record's fields. -/
def VersionInfo.ofRecord (r : VersionRecord) : VersionInfo where
  product := .parse r.product
  version := .parse r.version
  info := .parse r.info
  hostname := .parse r.hostname
  system := .parse r.system
  device := .parse r.device
  cpes := r.cpes.map .parse

/-- Read the version fields of a record. -/
def VersionRecord.ofDocument? (d : Document) : Option VersionRecord := do
  match ← d.slots? [["product_name"], ["version"], ["info"], ["hostname"], ["operating_system"],
    ["device_type"], ["cpes"]] with
  | [product, version, info, hostname, system, device, cpes] =>
      some
        { product := ← Document.text? product
          version := ← Document.text? version
          info := ← Document.text? info
          hostname := ← Document.text? hostname
          system := ← Document.text? system
          device := ← Document.text? device
          cpes := ← Document.strings? cpes }
  | _ => none

/-- Read a record. -/
def MatchRecord.ofDocument? (d : Document) : Option MatchRecord := do
  match ← d.slots? [["soft"], ["service"], ["pattern"], ["options"], ["version_info"]] with
  | [soft, service, pattern, flags, info] =>
      some
        { soft := ← Document.flag? soft
          service := ← Document.text? service
          pattern := ← Document.text? pattern
          flags := ← Document.text? flags
          info := ← Document.orElse? none (Document.optional? VersionRecord.ofDocument?) info }
  | _ => none

/-- Compile a record. -/
def MatchRecord.compile (r : MatchRecord) : Except RuleError (Option MatchRule) :=
  MatchRule.compile r.service r.pattern r.flags r.soft (r.info.elim {} .ofRecord)

end Fingerprinting.Nmap
