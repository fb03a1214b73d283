/-
# Printing probes

How a probe without rules is printed as directives: a line that begins it, with the payload as
numerals in hexadecimal, and a line for each of its other fields.  What is printed of a field is
read as the field.

* `unescapePayload_escape` says so of payloads;
* `parse_portsText` says so of lists of ports;
* `probeOf_header` and `after_directive` say so of whole directives.
-/
import Fingerprinting.Nmap.ProbeSet
import Fingerprinting.Proofs.Nmap.PortList
import Fingerprinting.Proofs.Text.Utf8

namespace Fingerprinting.Nmap

/-! ## Probes without rules -/

/-- The name of a probe, as a directive writes it. -/
structure ProbeName where
  text : String
  ne : text ≠ ""
  all : text.toList.all MatchRule.isNameChar = true

theorem ProbeName.isNameChar (name : ProbeName) :
    ∀ c ∈ name.text.toList, MatchRule.isNameChar c = true :=
  List.all_eq_true.mp name.all

/-- A probe without rules. -/
structure PlainProbe where
  protocol : Protocol
  name : ProbeName
  payload : Bytes
  rarity : UInt8
  ports : List (UInt16 × UInt16)
  sslPorts : List (UInt16 × UInt16)
  fallback : Option ProbeName

/-- The fields of a probe that have directives of their own. -/
inductive Field where
  | rarity
  | ports
  | sslPorts
  | fallback
deriving DecidableEq, Repr

/-- Ranges of ports as a list. -/
def portList (ranges : List (UInt16 × UInt16)) : PortList :=
  ⟨ranges.map fun r => (r.1.toNat, r.2.toNat)⟩

namespace PlainProbe

/-- What is known of a probe when some of its fields have been read. -/
def upTo (p : PlainProbe) (fields : List Field) : Probe where
  name := p.protocol.name ++ "_" ++ p.name.text
  protocol := p.protocol
  rarity := if .rarity ∈ fields then p.rarity.toNat else 0
  ports := if .ports ∈ fields then portList p.ports else {}
  sslPorts := if .sslPorts ∈ fields then portList p.sslPorts else {}
  fallback := if .fallback ∈ fields then p.fallback.map ProbeName.text else none
  payload := p.payload

/-- The probe with all its fields. -/
def probe (p : PlainProbe) : Probe where
  name := p.protocol.name ++ "_" ++ p.name.text
  protocol := p.protocol
  rarity := p.rarity.toNat
  ports := portList p.ports
  sslPorts := portList p.sslPorts
  fallback := p.fallback.map ProbeName.text
  payload := p.payload

/-- A field has the value that it has without a directive. -/
def IsDefault (p : PlainProbe) : Field → Prop
  | .rarity => p.rarity = 0
  | .ports => p.ports = []
  | .sslPorts => p.sslPorts = []
  | .fallback => p.fallback = none

end PlainProbe

/-! ## Directives -/

/-- A byte as the numeral that stands for it in a payload. -/
def escape (b : UInt8) : List Char := '\\' :: 'x' :: Text.hexByte b

/-- A range of ports, or a port alone. -/
def rangeText (r : UInt16 × UInt16) : String :=
  if r.1 = r.2 then Text.decimal r.1.toNat
  else Text.decimal r.1.toNat ++ "-" ++ Text.decimal r.2.toNat

/-- Ranges of ports with commas between them. -/
def portsText (ranges : List (UInt16 × UInt16)) : String := Text.join "," (ranges.map rangeText)

/-- The names of the directives for fields. -/
def fieldCommands : List String := ["rarity", "ports", "sslports", "fallback"]

/-- The names of the directives that a probe is printed with. -/
def commands : List String := "Probe" :: fieldCommands

/-- A directive and what follows it. -/
def directive (command args : String) : String := command ++ " " ++ args

namespace PlainProbe

/-- What follows `Probe`. -/
def header (p : PlainProbe) : String :=
  p.protocol.name ++ " " ++ (p.name.text ++ " " ++
    ("q|" ++ String.ofList (p.payload.flatMap escape) ++ "|"))

/-- The directive for a field, if there is anything to say: its name and what follows it. -/
def line? (p : PlainProbe) : Field → Option (String × String)
  | .rarity => some ("rarity", Text.decimal p.rarity.toNat)
  | .ports => if p.ports = [] then none else some ("ports", portsText p.ports)
  | .sslPorts => if p.sslPorts = [] then none else some ("sslports", portsText p.sslPorts)
  | .fallback => p.fallback.map fun name => ("fallback", name.text)

/-- The lines of a probe, with the directives for its fields in some order. -/
def lines (p : PlainProbe) (fields : List Field) : List String :=
  directive "Probe" p.header ::
    (fields.filterMap p.line?).map fun (command, args) => directive command args

end PlainProbe

/-! ## Payloads -/

theorem numeralByte?_hexByte (b : UInt8) :
    numeralByte? (UInt8.ofNat (Text.hexDigit (b.toNat / 16)).toNat)
      (UInt8.ofNat (Text.hexDigit (b.toNat % 16)).toNat) = some b := by
  have hbyte : b.toNat < 256 := b.toNat_lt
  have hhigh := Text.hexDigit_lt (b.toNat / 16) (by omega)
  have hlow := Text.hexDigit_lt (b.toNat % 16) (by omega)
  have hencode : Utf8.encode (String.ofList (Text.hexByte b)) =
      [UInt8.ofNat (Text.hexDigit (b.toNat / 16)).toNat,
        UInt8.ofNat (Text.hexDigit (b.toNat % 16)).toNat] := by
    simp [Utf8.encode, Text.hexByte, Utf8.encodeChar_of_lt _ hhigh, Utf8.encodeChar_of_lt _ hlow]
  rw [numeralByte?, ← hencode, Utf8.decode?_encode, Option.bind_eq_bind, Option.bind_some,
    Text.hexadecimal?_hexByte, Option.map_some, Nat.toUInt8, UInt8.ofNat_toNat]

/-- The numeral of a byte is read as that byte, whatever follows it. -/
theorem unescapeBytes?_escape (b : UInt8) (rest : Bytes) :
    unescapeBytes? (Utf8.encode (String.ofList (escape b)) ++ rest) =
      (unescapeBytes? rest).map (b :: ·) := by
  have hbyte : b.toNat < 256 := b.toNat_lt
  have hhigh := Text.hexDigit_lt (b.toNat / 16) (by omega)
  have hlow := Text.hexDigit_lt (b.toNat % 16) (by omega)
  have hencode : Utf8.encode (String.ofList (escape b)) =
      [0x5C, 0x78, UInt8.ofNat (Text.hexDigit (b.toNat / 16)).toNat,
        UInt8.ofNat (Text.hexDigit (b.toNat % 16)).toNat] := by
    simp only [Utf8.encode, escape, Text.hexByte, String.toList_ofList, List.flatMap_cons,
      List.flatMap_nil, List.append_nil, Utf8.encodeChar_of_lt _ hhigh,
      Utf8.encodeChar_of_lt _ hlow]
    rfl
  rw [hencode]
  exact (unescapeBytes?_numeral _ _ rest).trans (by rw [numeralByte?_hexByte, Option.bind_some])

/-- A payload is read back, whatever its bytes. -/
theorem unescapePayload_escape (payload : Bytes) :
    unescapePayload (String.ofList (payload.flatMap escape)) = .ok payload := by
  have hread : unescapeBytes? (Utf8.encode (String.ofList (payload.flatMap escape))) =
      some payload := by
    induction payload with
    | nil => rfl
    | cons b rest ih =>
        rw [List.flatMap_cons, String.ofList_append, Utf8.encode_append, unescapeBytes?_escape, ih]
        rfl
  rw [unescapePayload, hread]

/-! ## Lists of ports -/

/-- A port is read back. -/
theorem decimal?_port (port : UInt16) :
    Text.decimal? Text.max16 (Text.decimal port.toNat) = some port.toNat :=
  Text.decimal?_decimal _ _ (Nat.le_of_lt_succ port.toNat_lt)

/-- The characters of a range are digits and the hyphen. -/
theorem of_mem_rangeText (r : UInt16 × UInt16) (c : Char) (h : c ∈ (rangeText r).toList) :
    c.isDigit = true ∨ c = '-' := by
  unfold rangeText at h
  split_ifs at h
  · exact .inl (Text.isDigit_of_mem_decimal _ c h)
  · rw [String.toList_append, String.toList_append, List.mem_append, List.mem_append] at h
    rcases h with (h | h) | h
    · exact .inl (Text.isDigit_of_mem_decimal _ c h)
    · exact .inr (by simpa using h)
    · exact .inl (Text.isDigit_of_mem_decimal _ c h)

theorem decimal_ne_empty (n : Nat) : Text.decimal n ≠ "" := by
  intro h
  have hchars := congrArg String.toList h
  rw [Text.decimal, Nat.toList_repr] at hchars
  exact Nat.toDigits_ne_nil hchars

theorem rangeText_ne_empty (r : UInt16 × UInt16) : rangeText r ≠ "" := by
  unfold rangeText
  split_ifs
  · exact decimal_ne_empty _
  · simp

/-- Characters of names lie between the hyphen and the last letter. -/
theorem bounds_of_isNameChar {c : Char} (h : MatchRule.isNameChar c = true) :
    0x2D ≤ c.toNat ∧ c.toNat ≤ 0x7A := by
  have hranges : (c.isUpper || c.isLower || c.isDigit || c == '-' || c == '_' || c == '.' ||
      c == '/') = true := h
  simp only [Bool.or_eq_true, beq_iff_eq] at hranges
  rcases hranges with (((((hupper | hlower) | hdigit) | rfl) | rfl) | rfl) | rfl
  · have hbounds : 0x41 ≤ c.toNat ∧ c.toNat ≤ 0x5A := of_decide_eq_true hupper
    omega
  · have hbounds : 0x61 ≤ c.toNat ∧ c.toNat ≤ 0x7A :=
      ((Bool.and_eq_true _ _).mp hlower).imp of_decide_eq_true of_decide_eq_true
    omega
  · have hbounds : 0x30 ≤ c.toNat ∧ c.toNat ≤ 0x39 :=
      ((Bool.and_eq_true _ _).mp hdigit).imp of_decide_eq_true of_decide_eq_true
    omega
  · decide
  · decide
  · decide
  · decide

/-- The characters of names are not blank. -/
theorem isBlank_of_isNameChar {c : Char} (h : MatchRule.isNameChar c = true) :
    Text.isBlank c = false := by
  have hbounds := bounds_of_isNameChar h
  simp only [Text.isBlank, Bool.or_eq_false_iff, Bool.and_eq_false_iff, decide_eq_false_iff_not,
    beq_eq_false_iff_ne]
  omega

/-- Digits and hyphens may stand in names. -/
theorem isNameChar_of_isDigit {c : Char} (h : c.isDigit = true ∨ c = '-') :
    MatchRule.isNameChar c = true := by
  rcases h with h | rfl
  · simp [MatchRule.isNameChar, Char.isAlphanum, h]
  · decide

/-- What may stand in names has no blanks to trim. -/
theorem trim_of_isNameChar (s : String) (h : ∀ c ∈ s.toList, MatchRule.isNameChar c = true) :
    Text.trim s = s :=
  Text.trim_of_isTrimmed _ (Text.isTrimmed_of_forall _ fun c hc => isBlank_of_isNameChar (h c hc))

theorem trim_decimal (n : Nat) : Text.trim (Text.decimal n) = Text.decimal n :=
  trim_of_isNameChar _ fun c hc => isNameChar_of_isDigit (.inl (Text.isDigit_of_mem_decimal _ c hc))

/-- A range is read back. -/
theorem rangeOf_rangeText (r : UInt16 × UInt16) :
    PortList.rangeOf (rangeText r) = .ok (r.1.toNat, r.2.toNat) := by
  have hhead : ∀ c ∈ ['T', 'U'], (rangeText r).toList.head? ≠ some c := by
    intro c hc hhead
    have hdigit := of_mem_rangeText r c (List.mem_of_head? hhead)
    simp only [List.mem_cons, List.not_mem_nil, or_false] at hc
    rcases hc with rfl | rfl
    · exact absurd hdigit (by decide)
    · exact absurd hdigit (by decide)
  have hbare : PortList.bare (rangeText r) = rangeText r := by
    have hlead : "" ∈ PortList.leads := by decide
    have hbare := PortList.bare_append hlead (hhead 'T' (by simp)) (hhead 'U' (by simp))
    rwa [String.empty_append] at hbare
  have hrange : PortList.range? (rangeText r) = some (r.1.toNat, r.2.toNat) := by
    unfold PortList.range?
    rw [hbare]
    have hhyphen (port : UInt16) : '-' ∉ (Text.decimal port.toNat).toList := fun hc =>
      absurd (Text.isDigit_of_mem_decimal _ _ hc) (by decide)
    unfold rangeText
    split_ifs with h
    · rw [Text.cut_eq_none _ _ (hhyphen r.1)]
      dsimp only
      rw [decimal?_port, ← h]
      rfl
    · have hcut := Text.cut_append '-' (Text.decimal r.1.toNat) (Text.decimal r.2.toNat)
        (hhyphen r.1)
      rw [show String.singleton '-' = "-" from rfl] at hcut
      rw [hcut]
      dsimp only
      rw [trim_decimal, trim_decimal, decimal?_port, decimal?_port]
      rfl
  unfold PortList.rangeOf
  rw [hrange]

/-- A list of ports is read back. -/
theorem parse_portsText (ranges : List (UInt16 × UInt16)) (hne : ranges ≠ []) :
    PortList.parse (portsText ranges) = .ok (portList ranges) := by
  have hitems : PortList.items (portsText ranges) = ranges.map rangeText := by
    obtain ⟨first, rest, rfl⟩ := List.exists_cons_of_ne_nil hne
    have hcomma : ∀ s ∈ rangeText first :: rest.map rangeText, ',' ∉ s.toList := by
      rw [← List.map_cons]
      intro s hs hc
      obtain ⟨r, -, rfl⟩ := List.mem_map.mp hs
      exact absurd (of_mem_rangeText r _ hc) (by decide)
    have htrim : ∀ r, Text.trim (rangeText r) = rangeText r := fun r =>
      trim_of_isNameChar _ fun c hc => isNameChar_of_isDigit (of_mem_rangeText r c hc)
    have hsplit := Text.splitOn_join ',' _ _ hcomma
    rw [show String.singleton ',' = "," from rfl, ← List.map_cons] at hsplit
    rw [PortList.items, portsText, hsplit, List.map_map,
      show Text.trim ∘ rangeText = rangeText from funext htrim, List.filter_eq_self]
    intro s hs
    obtain ⟨r, -, rfl⟩ := List.mem_map.mp hs
    simpa using rangeText_ne_empty r
  have hranges : (ranges.map rangeText).mapM PortList.rangeOf =
      .ok (ranges.map fun r => (r.1.toNat, r.2.toNat)) := by
    rw [Results.mapM_eq_ok_iff, List.forall₂_map_left_iff, List.forall₂_map_right_iff]
    exact List.forall₂_same.mpr fun r _ => rangeOf_rangeText r
  rw [PortList.parse, hitems, hranges]
  rfl

/-! ## Directives -/

/-- No bar is part of a numeral, and no line feed. -/
theorem of_mem_escape (b : UInt8) (c : Char) (h : c ∈ escape b) : c ≠ '|' ∧ c ≠ '\n' := by
  have hdigit : ∀ n < 16, Text.hexDigit n ≠ '|' ∧ Text.hexDigit n ≠ '\n' := by decide
  have hbyte : b.toNat < 256 := b.toNat_lt
  simp only [escape, Text.hexByte, List.mem_cons, List.not_mem_nil, or_false] at h
  rcases h with rfl | rfl | rfl | rfl
  · decide
  · decide
  · exact hdigit _ (by omega)
  · exact hdigit _ (by omega)

namespace PlainProbe

section

variable (p : PlainProbe)

/-- The line that begins a probe is read as the probe without its other fields. -/
theorem probeOf_header : probeOf p.header = .ok (p.upTo []) := by
  have hparts : probeParts? p.header =
      some (p.protocol.name, p.name.text, String.ofList (p.payload.flatMap escape)) := by
    have hprotocol : ' ' ∉ p.protocol.name.toList := by
      cases p.protocol <;> decide
    have hname : ' ' ∉ p.name.text.toList := fun hc => absurd (p.name.isNameChar _ hc) (by decide)
    have hbar : ∀ c ∈ p.payload.flatMap escape, (c == '|') = false := by
      intro c hc
      obtain ⟨b, -, hb⟩ := List.mem_flatMap.mp hc
      exact beq_false_of_ne (of_mem_escape b c hb).1
    have hquoted : ("q|" ++ String.ofList (p.payload.flatMap escape) ++ "|").toList =
        'q' :: '|' :: (p.payload.flatMap escape ++ ['|']) := by
      simp
    have hallowed : (p.protocol.name == "UDP" || p.protocol.name == "TCP") = true := by
      cases p.protocol <;> decide
    have hspelled : (p.name.text != "" && p.name.text.toList.all MatchRule.isNameChar) = true := by
      rw [p.name.all, Bool.and_true]
      simpa using p.name.ne
    have hfirst := Text.cut_append ' ' p.protocol.name (p.name.text ++ " " ++
      ("q|" ++ String.ofList (p.payload.flatMap escape) ++ "|")) hprotocol
    have hsecond := Text.cut_append ' ' p.name.text
      ("q|" ++ String.ofList (p.payload.flatMap escape) ++ "|") hname
    have hthird := Text.cutWhere_append (· == '|') (p.payload.flatMap escape) [] '|' hbar rfl
    rw [show String.singleton ' ' = " " from rfl] at hfirst hsecond
    unfold probeParts? header
    simp only [hfirst, hsecond, hquoted, hthird, hallowed, hspelled, guard, if_true, List.head?_nil,
      Option.all_none, Option.bind_eq_bind, Option.bind_some, Option.pure_def]
  have hprotocol : Protocol.parse p.protocol.name = .ok p.protocol := by
    cases p.protocol <;> rfl
  unfold probeOf
  rw [hparts]
  dsimp only
  rw [hprotocol, unescapePayload_escape]
  rfl

/-- The name of a fallback is read back. -/
theorem fallbackOf_text (name : ProbeName) : fallbackOf name.text = .ok name.text := by
  have hcomma : ∀ c ∈ name.text.toList, (c == ',') = false := by
    intro c hc
    refine beq_false_of_ne ?_
    rintro rfl
    exact absurd (name.isNameChar _ hc) (by decide)
  have hsplit : Text.splitOn ',' name.text = [name.text] := by
    rw [Text.splitOn, Text.splitWhere_eq_singleton _ _ hcomma, List.map_singleton,
      String.ofList_toList]
  have hspelled : (name.text != "" && name.text.toList.all MatchRule.isNameChar) = true := by
    rw [name.all, Bool.and_true]
    simpa using name.ne
  unfold fallbackOf
  rw [hsplit, List.headD_cons, trim_of_isNameChar _ name.isNameChar, if_pos hspelled]

/-- A rarity is read back. -/
theorem numberOf_rarity (rarity : UInt8) :
    numberOf Text.max8 (Text.decimal rarity.toNat) = .ok rarity.toNat := by
  have hread : Text.decimal? Text.max8 (Text.decimal rarity.toNat) = some rarity.toNat :=
    Text.decimal?_decimal _ _ (Nat.le_of_lt_succ rarity.toNat_lt)
  unfold numberOf
  rw [trim_decimal, hread]

/-- A directive for a field adds the field to what has been read, and nothing changes where there is
none. -/
theorem after_directive (fields : List Field) (f : Field) (command args : String)
    (h : p.line? f = some (command, args)) :
    (p.upTo fields).after command args = .ok (p.upTo (f :: fields)) := by
  cases f with
  | rarity =>
      cases h
      simp only [Probe.after, numberOf_rarity]
      simp [upTo, bind, Except.bind]
  | ports =>
      rw [line?] at h
      split_ifs at h with hports
      cases h
      simp only [Probe.after, parse_portsText p.ports hports]
      simp [upTo, bind, Except.bind]
  | sslPorts =>
      rw [line?] at h
      split_ifs at h with hports
      cases h
      simp only [Probe.after, parse_portsText p.sslPorts hports]
      simp [upTo, bind, Except.bind]
  | fallback =>
      obtain ⟨name, hname, hargs⟩ := Option.map_eq_some_iff.mp h
      cases hargs
      simp only [Probe.after, fallbackOf_text]
      simp [upTo, hname, bind, Except.bind]

theorem upTo_of_line?_eq_none (fields : List Field) (f : Field) (h : p.line? f = none) :
    p.upTo (f :: fields) = p.upTo fields := by
  cases f with
  | rarity => cases h
  | ports =>
      rw [line?] at h
      split_ifs at h with hports
      simp [upTo, hports, portList]
  | sslPorts =>
      rw [line?] at h
      split_ifs at h with hports
      simp [upTo, hports, portList]
  | fallback =>
      have hnone : p.fallback = none := Option.map_eq_none_iff.mp h
      simp [upTo, hnone]

/-- Fields without a directive do not matter when they have the values that they have without
one. -/
theorem upTo_eq_probe (fields : List Field) (h : ∀ f ∉ fields, p.IsDefault f) :
    p.upTo fields = p.probe := by
  have hread {α : Type} (f : Field) (a default : α) (ha : f ∉ fields → a = default) :
      (if f ∈ fields then a else default) = a := by
    split_ifs with hmem
    · rfl
    · exact (ha hmem).symm
  have hrarity := hread .rarity p.rarity.toNat 0 fun hmem => congrArg UInt8.toNat (h _ hmem)
  have hports := hread .ports (portList p.ports) {} fun hmem => congrArg portList (h _ hmem)
  have hsslPorts := hread .sslPorts (portList p.sslPorts) {} fun hmem =>
    congrArg portList (h _ hmem)
  have hfallback := hread .fallback (p.fallback.map ProbeName.text) none fun hmem =>
    congrArg (Option.map ProbeName.text) (h _ hmem)
  rw [upTo, probe, hrarity, hports, hsslPorts, hfallback]

end

end PlainProbe

/-! ## Lines -/

/-- A line has no line feed and does not end in a blank. -/
structure IsLine (s : String) : Prop where
  lineFeed : '\n' ∉ s.toList
  last : ∃ c, s.toList.getLast? = some c ∧ Text.isBlank c = false

/-- A text without blanks is a line. -/
theorem isLine_of_forall (s : String) (hne : s ≠ "") (h : ∀ c ∈ s.toList, Text.isBlank c = false) :
    IsLine s where
  lineFeed hmem := absurd (h _ hmem) (by decide)
  last := by
    cases hlast : s.toList.getLast? with
    | none => exact absurd (by simpa using hlast) hne
    | some c => exact ⟨c, rfl, h c (List.mem_of_getLast? hlast)⟩

theorem isLine_portsText (ranges : List (UInt16 × UInt16)) (hne : ranges ≠ []) :
    IsLine (portsText ranges) := by
  refine isLine_of_forall _ (fun hempty => ?_) fun c hc => ?_
  · have hparse := parse_portsText ranges hne
    rw [hempty] at hparse
    cases ranges with
    | nil => exact hne rfl
    | cons r rest => cases hparse
  · rcases Text.mem_of_mem_join "," _ c hc with hc | ⟨s, hs, hc⟩
    · rw [List.mem_singleton.mp hc]
      decide
    · obtain ⟨r, -, rfl⟩ := List.mem_map.mp hs
      exact isBlank_of_isNameChar (isNameChar_of_isDigit (of_mem_rangeText r c hc))

/-- A text that ends in a line is a line. -/
theorem IsLine.append {s : String} (h : IsLine s) (before : String)
    (hbefore : '\n' ∉ before.toList) : IsLine (before ++ s) where
  lineFeed := by
    rw [String.toList_append, List.mem_append, not_or]
    exact ⟨hbefore, h.lineFeed⟩
  last := by
    obtain ⟨c, hc, hblank⟩ := h.last
    exact ⟨c, by rw [String.toList_append, List.getLast?_append, hc, Option.some_or], hblank⟩

theorem IsLine.directive {args : String} (h : IsLine args) {command : String}
    (hcommand : command ∈ commands) : IsLine (directive command args) := by
  have hnames : ∀ command ∈ commands, '\n' ∉ (command ++ " ").toList := by decide
  exact h.append _ (hnames command hcommand)

namespace PlainProbe

theorem isLine_header (p : PlainProbe) : IsLine p.header := by
  have hprotocol : '\n' ∉ (p.protocol.name ++ " ").toList := by
    cases p.protocol <;> decide
  have hname : '\n' ∉ (p.name.text ++ " ").toList := by
    rw [String.toList_append, List.mem_append, not_or]
    exact ⟨fun hc => absurd (p.name.isNameChar _ hc) (by decide), by decide⟩
  have hpayload : '\n' ∉ ("q|" ++ String.ofList (p.payload.flatMap escape)).toList := by
    rw [String.toList_append, List.mem_append, not_or]
    refine ⟨by decide, fun hc => ?_⟩
    rw [String.toList_ofList] at hc
    obtain ⟨b, -, hb⟩ := List.mem_flatMap.mp hc
    exact (of_mem_escape b _ hb).2 rfl
  have hbar : IsLine "|" := by
    refine isLine_of_forall _ (by decide) fun c hc => ?_
    rw [List.mem_singleton.mp hc]
    decide
  exact ((hbar.append _ hpayload).append _ hname).append _ hprotocol

/-- What follows the name of a directive for a field. -/
theorem of_line? (p : PlainProbe) (f : Field) (command args : String)
    (h : p.line? f = some (command, args)) :
    command ∈ fieldCommands ∧ IsLine args := by
  cases f with
  | rarity =>
      cases h
      refine ⟨by decide, isLine_of_forall _ (decimal_ne_empty _) fun c hc => ?_⟩
      exact isBlank_of_isNameChar
        (isNameChar_of_isDigit (.inl (Text.isDigit_of_mem_decimal _ c hc)))
  | ports =>
      rw [line?] at h
      split_ifs at h with hports
      cases h
      exact ⟨by decide, isLine_portsText p.ports hports⟩
  | sslPorts =>
      rw [line?] at h
      split_ifs at h with hports
      cases h
      exact ⟨by decide, isLine_portsText p.sslPorts hports⟩
  | fallback =>
      obtain ⟨name, -, hargs⟩ := Option.map_eq_some_iff.mp h
      cases hargs
      refine ⟨by decide, isLine_of_forall _ name.ne fun c hc => ?_⟩
      exact isBlank_of_isNameChar (name.isNameChar c hc)

/-- What is printed of a probe is lines. -/
theorem isLine_of_mem_lines (p : PlainProbe) (fields : List Field) (line : String)
    (h : line ∈ p.lines fields) : IsLine line := by
  rcases List.mem_cons.mp h with rfl | h
  · exact p.isLine_header.directive (by decide)
  · obtain ⟨⟨command, args⟩, hdirective, rfl⟩ := List.mem_map.mp h
    obtain ⟨f, -, hf⟩ := List.mem_filterMap.mp hdirective
    obtain ⟨hcommand, hargs⟩ := p.of_line? f command args hf
    exact hargs.directive (List.mem_cons_of_mem _ hcommand)

end PlainProbe

end Fingerprinting.Nmap
