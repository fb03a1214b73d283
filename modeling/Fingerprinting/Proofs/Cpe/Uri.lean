/-
# Names as URIs

A URI keeps every attribute of a name.  Its bytes are plain or in percent notation, so none of the
marks around components stands inside one, and what is left out at the end is empty.

* `unbindUri_bindUri` reads one component;
* `splitOn_join_dropEmptyEnd` finds the components of a URI again between its colons;
* `parse_uri` reads a whole name.
-/
import Fingerprinting.Cpe.Binding
import Fingerprinting.Proofs.Text.Numeral
import Fingerprinting.Proofs.Text.Pieces
import Fingerprinting.Proofs.Text.Utf8

namespace Fingerprinting.Cpe

/-! ## Percent notation -/

theorem lt_of_isPlainByte (b : UInt8) (h : isPlainByte b = true) : b.toNat < 0x80 ∧ b ≠ 0x25 := by
  simp only [isPlainByte, Bool.or_eq_true, Bool.and_eq_true, decide_eq_true_eq, beq_iff_eq,
    UInt8.le_iff_toNat_le, ← UInt8.toNat_inj, UInt8.reduceToNat] at h
  refine ⟨by omega, ?_⟩
  rintro rfl
  revert h
  decide

/-- The bytes of a plain byte. -/
theorem encode_percent_plain (b : UInt8) (h : isPlainByte b = true) :
    Utf8.encode (String.ofList (percent b)) = [b] := by
  obtain ⟨hlt, -⟩ := lt_of_isPlainByte b h
  have hvalid : b.toNat.isValidChar := Or.inl (by omega)
  have hchar : (Char.ofNat b.toNat).toNat = b.toNat := by
    rw [Char.ofNat, dif_pos hvalid]
    rfl
  rw [percent, if_pos h, Utf8.encode, String.toList_ofList, List.flatMap_singleton,
    Utf8.encodeChar_of_lt _ (by omega), hchar, UInt8.ofNat_toNat]

/-- The bytes of a byte in percent notation. -/
theorem encode_percent (b : UInt8) (h : isPlainByte b = false) :
    Utf8.encode (String.ofList (percent b)) =
      [0x25, UInt8.ofNat (Text.hexDigit (b.toNat / 16)).toNat,
        UInt8.ofNat (Text.hexDigit (b.toNat % 16)).toNat] := by
  have hbyte : b.toNat < 256 := b.toNat_lt
  have hhigh := Text.hexDigit_lt (b.toNat / 16) (by omega)
  have hlow := Text.hexDigit_lt (b.toNat % 16) (by omega)
  rw [percent, if_neg (by simp [h]), Utf8.encode, String.toList_ofList]
  simp only [Text.hexByte, List.flatMap_cons, List.flatMap_nil, List.append_nil,
    Utf8.encodeChar_of_lt _ hhigh, Utf8.encodeChar_of_lt _ hlow]
  rfl

/-- The two digits of a byte are read as that byte. -/
theorem pairValue?_hexDigit (b : UInt8) :
    pairValue? (UInt8.ofNat (Text.hexDigit (b.toNat / 16)).toNat)
      (UInt8.ofNat (Text.hexDigit (b.toNat % 16)).toNat) = some b := by
  have hbyte : b.toNat < 256 := b.toNat_lt
  have hhigh := Text.hexDigit_lt (b.toNat / 16) (by omega)
  have hlow := Text.hexDigit_lt (b.toNat % 16) (by omega)
  have hascii : UInt8.ofNat (Text.hexDigit (b.toNat / 16)).toNat < 0x80 ∧
      UInt8.ofNat (Text.hexDigit (b.toNat % 16)).toNat < 0x80 :=
    ⟨(Utf8.ofNat_lt_iff (by omega) _).mpr hhigh, (Utf8.ofNat_lt_iff (by omega) _).mpr hlow⟩
  have hread := Text.hexadecimal?_hexByte b
  rw [Text.hexByte] at hread
  rw [pairValue?, if_pos hascii, Utf8.toNat_ofNat (by omega), Utf8.toNat_ofNat (by omega),
    Char.ofNat_toNat, Char.ofNat_toNat, hread, Option.map_some, Nat.toUInt8, UInt8.ofNat_toNat]

/-- A byte is read back, whatever follows it. -/
theorem unpercent_percent (b : UInt8) (rest : Bytes) :
    unpercent (Utf8.encode (String.ofList (percent b)) ++ rest) = b :: unpercent rest := by
  cases hplain : isPlainByte b with
  | true =>
      obtain ⟨-, hne⟩ := lt_of_isPlainByte b hplain
      rw [encode_percent_plain b hplain, List.singleton_append, unpercent]
      rintro a c more rfl
      exact absurd rfl hne
  | false =>
      rw [encode_percent b hplain]
      simp only [List.cons_append, List.nil_append, unpercent, pairValue?_hexDigit]

/-- Bytes are read back. -/
theorem unpercent_flatMap_percent (b : Bytes) :
    unpercent (Utf8.encode (String.ofList (b.flatMap percent))) = b := by
  induction b with
  | nil => rfl
  | cons x rest ih =>
      rw [List.flatMap_cons, String.ofList_append, Utf8.encode_append, unpercent_percent, ih]

/-! ## Components -/

/-- The value that does not apply is plain, and is no exception to percent notation. -/
theorem toList_bindUri (s : String) : (bindUri s).toList = (Utf8.encode s).flatMap percent := by
  unfold bindUri
  split
  · rename_i h
    rw [h]
    decide
  · rw [String.toList_ofList]

/-- A component is read as the value that it was written for. -/
theorem unbindUri_bindUri (s : String) : unbindUri (bindUri s) = s := by
  have hchars : bindUri s = String.ofList ((Utf8.encode s).flatMap percent) := by
    rw [← toList_bindUri, String.ofList_toList]
  rw [unbindUri, hchars, unpercent_flatMap_percent, Utf8.lossy_encode]

/-- The characters that end components, and those that end a URI. -/
def isMark (c : Char) : Bool := c == ':' || c == '~' || c == '/' || Text.isBlank c

/-- No mark is a plain byte or stands in percent notation. -/
theorem isMark_of_mem_percent (b : UInt8) (c : Char) (hc : c ∈ percent b) : isMark c = false := by
  have hall : ((List.range 256).all fun n =>
      (percent (UInt8.ofNat n)).all fun c => !isMark c) = true := by
    decide +kernel
  have hb := List.all_eq_true.mp hall b.toNat (List.mem_range.mpr b.toNat_lt)
  rw [UInt8.ofNat_toNat] at hb
  simpa using List.all_eq_true.mp hb c hc

/-- No mark stands inside a component. -/
theorem isMark_of_mem_bindUri (s : String) (c : Char) (h : c ∈ (bindUri s).toList) :
    isMark c = false := by
  rw [toList_bindUri] at h
  obtain ⟨b, -, hc⟩ := List.mem_flatMap.mp h
  exact isMark_of_mem_percent b c hc

theorem not_mem_bindUri (s : String) (c : Char) (h : isMark c = true) : c ∉ (bindUri s).toList :=
  fun hmem => Bool.false_ne_true ((isMark_of_mem_bindUri s c hmem).symm.trans h)

/-- A component that is missing has no value, as an empty one has. -/
theorem component_eq (parts : List String) (i : Nat) :
    component parts i = unbindUri (parts[i]?.getD "") := by
  unfold component
  cases parts[i]? with
  | some s => rfl
  | none => exact (unbindUri_bindUri "").symm

/-- What is left out at the end is empty. -/
theorem dropEmptyEnd_append (parts : List String) :
    ∃ n, parts = dropEmptyEnd parts ++ List.replicate n "" := by
  refine ⟨(parts.reverse.takeWhile (· == "")).length, ?_⟩
  have hempty : (parts.reverse.takeWhile (· == "")).reverse =
      List.replicate (parts.reverse.takeWhile (· == "")).length "" := by
    refine List.eq_replicate_iff.mpr ⟨List.length_reverse, fun s hs => ?_⟩
    have htaken := List.mem_takeWhile_imp (List.mem_reverse.mp hs)
    exact eq_of_beq htaken
  rw [dropEmptyEnd, ← hempty, ← List.reverse_append, List.takeWhile_append_dropWhile,
    List.reverse_reverse]

/-- A component stays in its place when empty ones at the end are left out. -/
theorem getElem?_dropEmptyEnd (parts : List String) (i : Nat) :
    (dropEmptyEnd parts)[i]?.getD "" = parts[i]?.getD "" := by
  obtain ⟨n, hparts⟩ := dropEmptyEnd_append parts
  conv_rhs => rw [hparts, List.getElem?_append]
  split
  · rfl
  · rename_i hlength
    rw [List.getElem?_eq_none (Nat.le_of_not_lt hlength), List.getElem?_replicate]
    split <;> rfl

theorem length_dropEmptyEnd_le (parts : List String) :
    (dropEmptyEnd parts).length ≤ parts.length := by
  rw [dropEmptyEnd, List.length_reverse]
  exact (List.dropWhile_sublist _).length_le.trans_eq List.length_reverse

/-- A text without components has one that is empty, which counts as missing. -/
theorem splitOn_join (parts : List String) (h : ∀ s ∈ parts, ':' ∉ s.toList) :
    (Text.splitOn ':' (Text.join ":" parts)).length ≤ max 1 parts.length ∧
      ∀ i : Nat, (Text.splitOn ':' (Text.join ":" parts))[i]?.getD "" = parts[i]?.getD "" := by
  cases parts with
  | nil =>
      have hnone : Text.splitOn ':' (Text.join ":" []) = [""] := by decide
      rw [hnone]
      refine ⟨by simp, fun i => ?_⟩
      cases i <;> rfl
  | cons first rest =>
      have hsplit : Text.splitOn ':' (Text.join ":" (first :: rest)) = first :: rest :=
        Text.splitOn_join ':' first rest h
      rw [hsplit]
      exact ⟨Nat.le_max_right _ _, fun i => rfl⟩

/-- The components of a URI are found again in their places, and there are no more of them. -/
theorem splitOn_join_dropEmptyEnd (parts : List String) (h : ∀ s ∈ parts, ':' ∉ s.toList) :
    (Text.splitOn ':' (Text.join ":" (dropEmptyEnd parts))).length ≤ max 1 parts.length ∧
      ∀ i : Nat, (Text.splitOn ':' (Text.join ":" (dropEmptyEnd parts)))[i]?.getD "" =
        parts[i]?.getD "" := by
  have hkept : ∀ s ∈ dropEmptyEnd parts, ':' ∉ s.toList := by
    intro s hs
    obtain ⟨n, hparts⟩ := dropEmptyEnd_append parts
    exact h s (hparts ▸ List.mem_append_left _ hs)
  obtain ⟨hlength, hplaces⟩ := splitOn_join _ hkept
  have hle := length_dropEmptyEnd_le parts
  exact ⟨by omega, fun i => (hplaces i).trans (getElem?_dropEmptyEnd parts i)⟩

/-! ## Editions -/

/-- The component for the edition of a name, in which four more attributes may be packed. -/
def uriEdition (a : Cpe) : String :=
  if a.swEdition = "" ∧ a.targetSw = "" ∧ a.targetHw = "" ∧ a.other = "" then bindUri a.edition
  else
    "~" ++ bindUri a.edition ++ "~" ++ bindUri a.swEdition ++ "~" ++ bindUri a.targetSw ++ "~" ++
      bindUri a.targetHw ++ "~" ++ bindUri a.other

theorem uriComponents_eq (a : Cpe) :
    a.uriComponents =
      [bindUri a.part, bindUri a.vendor, bindUri a.product, bindUri a.version, bindUri a.update,
        uriEdition a, bindUri a.language] := rfl

/-- The attributes that are packed. -/
def packedValues (a : Cpe) : List String :=
  [a.edition, a.swEdition, a.targetSw, a.targetHw, a.other]

/-- A packed edition begins with a tilde, which no attribute does. -/
theorem uriEdition_eq (a : Cpe) :
    (Text.after "~" (uriEdition a) = none ∧ uriEdition a = bindUri a.edition ∧
      a.swEdition = "" ∧ a.targetSw = "" ∧ a.targetHw = "" ∧ a.other = "") ∨
    uriEdition a = "~" ++ Text.join "~" (a.packedValues.map bindUri) := by
  unfold uriEdition
  split
  · rename_i hnone
    refine .inl ⟨?_, rfl, hnone⟩
    refine Text.after_of_head "~" _ '~' [] rfl fun hhead => ?_
    exact not_mem_bindUri a.edition '~' rfl (List.mem_of_head? hhead)
  · refine .inr ?_
    rw [← String.toList_inj]
    simp [Text.toList_join, packedValues, List.intercalate_cons_cons]

/-- The packed attributes are found again in their places. -/
theorem component_packed (a : Cpe) (i : Nat) :
    component (Text.splitOn '~' (Text.join "~" (a.packedValues.map bindUri))) i =
      a.packedValues[i]?.getD "" := by
  have hmark : ∀ s ∈ a.packedValues.map bindUri, '~' ∉ s.toList := by
    intro s hs
    obtain ⟨value, -, rfl⟩ := List.mem_map.mp hs
    exact not_mem_bindUri value '~' rfl
  have hsplit : Text.splitOn '~' (Text.join "~" (a.packedValues.map bindUri)) =
      a.packedValues.map bindUri := Text.splitOn_join '~' _ _ hmark
  rw [hsplit, component, List.getElem?_map]
  cases a.packedValues[i]? with
  | some value => exact unbindUri_bindUri value
  | none => rfl

/-- No character of a component ends it, and none ends the URI. -/
theorem of_mem_uriComponents (a : Cpe) (s : String) (hs : s ∈ a.uriComponents) (c : Char)
    (hc : c ∈ s.toList) : isMark c = false ∨ c = '~' := by
  have hplain (value : String) (hvalue : s = bindUri value) : isMark c = false ∨ c = '~' :=
    .inl (isMark_of_mem_bindUri value c (hvalue ▸ hc))
  simp only [uriComponents_eq, List.mem_cons, List.not_mem_nil, or_false] at hs
  rcases hs with h | h | h | h | h | h | h
  case inr.inr.inr.inr.inr.inl =>
    rcases uriEdition_eq a with ⟨-, hedition, -⟩ | hedition
    · exact hplain _ (h.trans hedition)
    · rw [h, hedition, String.toList_append, List.mem_append] at hc
      rcases hc with hc | hc
      · exact .inr (List.mem_singleton.mp hc)
      · rcases Text.mem_of_mem_join _ _ c hc with hc | ⟨s, hs, hc⟩
        · exact .inr (List.mem_singleton.mp hc)
        · obtain ⟨value, -, rfl⟩ := List.mem_map.mp hs
          exact .inl (isMark_of_mem_bindUri value c hc)
  all_goals exact hplain _ h

theorem colon_not_mem_uriComponents (a : Cpe) (s : String) (hs : s ∈ a.uriComponents) :
    ':' ∉ s.toList := by
  intro hc
  rcases of_mem_uriComponents a s hs ':' hc with h | h
  · cases h
  · cases h

/-! ## Names -/

/-- What stands in a URI after its lead. -/
def uriRest (a : Cpe) : String := Text.join ":" (dropEmptyEnd a.uriComponents)

/-- No character of a URI ends it. -/
theorem of_mem_uriRest (a : Cpe) (c : Char) (hc : c ∈ a.uriRest.toList) :
    (c == '/') = false ∧ Text.isBlank c = false := by
  rcases Text.mem_of_mem_join _ _ c hc with hc | ⟨s, hs, hc⟩
  · rw [List.mem_singleton.mp hc]
    decide
  · have hmem : s ∈ a.uriComponents := by
      obtain ⟨n, hparts⟩ := dropEmptyEnd_append a.uriComponents
      exact hparts ▸ List.mem_append_left _ hs
    rcases of_mem_uriComponents a s hmem c hc with h | rfl
    · simp only [isMark, Bool.or_eq_false_iff] at h
      exact ⟨h.1.2, h.2⟩
    · decide

/-- The components of a URI make up the name that they were written for. -/
theorem parseUri_uriRest (a : Cpe) : parseUri a.uriRest = validated a := by
  have hwhole : a.uriRest.toList.takeWhile (fun c => !(c == '/' || Text.isBlank c)) =
      a.uriRest.toList := by
    rw [List.takeWhile_eq_self_iff]
    intro c hc
    obtain ⟨hslash, hblank⟩ := of_mem_uriRest a c hc
    rw [hslash, hblank]
    rfl
  obtain ⟨hlength, hplaces⟩ :=
    splitOn_join_dropEmptyEnd a.uriComponents a.colon_not_mem_uriComponents
  have hseven : ¬ 7 < (Text.splitOn ':' a.uriRest).length := Nat.not_lt.mpr hlength
  have hcomponent (i : Nat) : component (Text.splitOn ':' a.uriRest) i =
      unbindUri (a.uriComponents[i]?.getD "") := by
    rw [component_eq]
    exact congrArg unbindUri (hplaces i)
  have hedition : (Text.splitOn ':' a.uriRest)[5]?.getD "" = a.uriEdition := hplaces 5
  unfold parseUri
  dsimp only
  rw [hwhole, String.ofList_toList, if_neg hseven, hedition]
  simp only [hcomponent, uriComponents_eq, List.getElem?_cons_zero, List.getElem?_cons_succ,
    Option.getD_some, unbindUri_bindUri]
  rcases uriEdition_eq a with ⟨hnone, hplain, hsw, htargetSw, htargetHw, hother⟩ | hpacked
  · have hempty : a = { a with swEdition := "", targetSw := "", targetHw := "", other := "" } := by
      cases a
      simp_all only
    rw [hnone, hplain]
    dsimp only
    rw [unbindUri_bindUri]
    exact congrArg validated hempty.symm
  · rw [hpacked, Text.after_append]
    simp only [component_packed]
    rfl

/-- Reading the URI of a name gives the name, if its part is one that names may have. -/
theorem parse_uri (a : Cpe) : parse a.uri = validated a := by
  have htrim : Text.trim a.uri = a.uri := by
    apply Text.trim_of_isTrimmed
    apply Text.isTrimmed_of_forall
    intro c hc
    rw [uri, String.toList_append, List.mem_append] at hc
    rcases hc with hc | hc
    · have hlead : ("cpe:/".toList.all fun c => !Text.isBlank c) = true := by decide
      simpa using List.all_eq_true.mp hlead c hc
    · exact (of_mem_uriRest a c hc).2
  have hformatted : Text.after "cpe:2.3:" a.uri = none := by
    simp [Text.after, Text.stripStart, uri]
  have hlead : Text.after "cpe:/" a.uri = some a.uriRest := Text.after_append _ _
  unfold parse
  dsimp only
  rw [htrim, hformatted, hlead]
  exact parseUri_uriRest a

/-- A URI loses no attribute of a name. -/
theorem parse_uri_eq_ok (a : Cpe) (hpart : a.part ∈ ["", "a", "o", "h", "-"]) :
    parse a.uri = .ok a := by
  have hvalid : isPart a.part = true := List.contains_iff_mem.mpr hpart
  rw [parse_uri, validated, if_pos hvalid]

/-- A name whose attributes have every mark inside them, some of which are empty and one of which
does not apply. -/
theorem parse_uri_eq_ok_of_marks :
    let a : Cpe :=
      { part := "-", vendor := "a:b/c", product := "é %7e~", update := "-", edition := "~",
        targetSw := "* ?" }
    a.part ∈ ["", "a", "o", "h", "-"] ∧
      a.uri = "cpe:/-:a%3ab%2fc:%c3%a9%20%257e%7e::-:~%7e~~%2a%20%3f~~" ∧ parse a.uri = .ok a := by
  intro a
  have hpart : a.part ∈ ["", "a", "o", "h", "-"] := by decide
  exact ⟨hpart, by decide +kernel, parse_uri_eq_ok a hpart⟩

end Fingerprinting.Cpe
