/-
# Pairs of bytes as hexadecimal numerals

Escapes of two bytes are read as hexadecimal numerals of at most eight bits.  A numeral is two
digits, or a plus sign and one digit; nothing else is a numeral, and a byte that is not ASCII never
stands in one.

* `pairValue?_eq` says so for percent notation;
* `numeralByte?_eq` says so for payloads.
-/
import Fingerprinting.Cpe.Binding
import Fingerprinting.Nmap.Probe
import Fingerprinting.Proofs.Text.Utf8

namespace Fingerprinting.Text

/-! ## Digits -/

/-- The bytes of hexadecimal digits. -/
def isHexDigit (b : UInt8) : Bool :=
  (0x30 ≤ b && b ≤ 0x39) || (0x41 ≤ b && b ≤ 0x46) || (0x61 ≤ b && b ≤ 0x66)

/-- The value of a hexadecimal digit. -/
def hexValue (b : UInt8) : Nat :=
  if b ≤ 0x39 then b.toNat - 0x30 else if b ≤ 0x46 then b.toNat - 0x37 else b.toNat - 0x57

/-- Two bytes that are read as a numeral. -/
def isNumeral (a b : UInt8) : Bool := isHexDigit b && (isHexDigit a || a == 0x2B)

/-- The byte that a numeral writes: a plus sign adds nothing. -/
def numeral (a b : UInt8) : UInt8 :=
  Nat.toUInt8 (if a = 0x2B then hexValue b else hexValue a * 16 + hexValue b)

theorem hexDigitValue?_ofNat (b : UInt8) (h : b < 0x80) :
    hexDigitValue? (Char.ofNat b.toNat) = if isHexDigit b then some (hexValue b) else none := by
  have hall : ∀ n < 0x80, hexDigitValue? (Char.ofNat n) =
      if isHexDigit (UInt8.ofNat n) then some (hexValue (UInt8.ofNat n)) else none := by
    decide +kernel
  have hb := hall b.toNat (UInt8.lt_iff_toNat_lt.mp h)
  rwa [UInt8.ofNat_toNat] at hb

theorem ofNat_eq_plus_iff (b : UInt8) (h : b < 0x80) : Char.ofNat b.toNat = '+' ↔ b = 0x2B := by
  have hall : ∀ n < 0x80, (Char.ofNat n = '+' ↔ UInt8.ofNat n = 0x2B) := by
    decide +kernel
  have hb := hall b.toNat (UInt8.lt_iff_toNat_lt.mp h)
  rwa [UInt8.ofNat_toNat] at hb

theorem hexValue_lt (b : UInt8) (h : isHexDigit b = true) : hexValue b < 16 := by
  have hall : ∀ n < 0x100, isHexDigit (UInt8.ofNat n) = true → hexValue (UInt8.ofNat n) < 16 := by
    decide +kernel
  have hb := hall b.toNat b.toNat_lt
  rw [UInt8.ofNat_toNat] at hb
  exact hb h

/-- Digits are ASCII. -/
theorem lt_of_isHexDigit (b : UInt8) (h : isHexDigit b = true) : b < 0x80 := by
  simp only [isHexDigit, Bool.or_eq_true, Bool.and_eq_true, decide_eq_true_eq,
    UInt8.le_iff_toNat_le, UInt8.reduceToNat] at h
  have hlt : b.toNat < 0x80 := by omega
  exact UInt8.lt_iff_toNat_lt.mpr hlt

/-- Numerals are ASCII. -/
theorem lt_of_isNumeral (a b : UInt8) (h : isNumeral a b = true) : a < 0x80 ∧ b < 0x80 := by
  simp only [isNumeral, Bool.and_eq_true, Bool.or_eq_true, beq_iff_eq] at h
  obtain ⟨hb, ha | rfl⟩ := h
  · exact ⟨lt_of_isHexDigit a ha, lt_of_isHexDigit b hb⟩
  · exact ⟨by decide, lt_of_isHexDigit b hb⟩

/-- Whether a byte string begins with a numeral of two bytes. -/
def startsNumeral : Bytes → Bool
  | a :: b :: _ => isNumeral a b
  | _ => false

/-- Two digits. -/
def isDigits (a b : UInt8) : Bool := isHexDigit a && isHexDigit b

theorem isNumeral_of_isDigits {a b : UInt8} (h : isDigits a b = true) : isNumeral a b = true := by
  obtain ⟨ha, hb⟩ := (Bool.and_eq_true _ _).mp h
  rw [isNumeral, ha, hb]
  rfl

/-- A numeral that is not two digits is a plus sign and a digit. -/
theorem eq_plus_of_isNumeral {a b : UInt8} (h : isNumeral a b = true) (h' : isDigits a b = false) :
    a = 0x2B ∧ isHexDigit b = true := by
  simp only [isNumeral, isDigits, Bool.and_eq_true, Bool.or_eq_true, beq_iff_eq] at h h'
  obtain ⟨hb, ha | ha⟩ := h
  · rw [ha, hb] at h'
    cases h'
  · exact ⟨ha, hb⟩

/-! ## Texts of one and two characters -/

theorem magnitude?_singleton (c : Char) : magnitude? hexDigitValue? 16 [c] = hexDigitValue? c := by
  simp only [magnitude?, List.isEmpty_cons, Bool.false_eq_true, if_false, digitsValue]
  cases hexDigitValue? c with
  | none => rfl
  | some n => simp

theorem magnitude?_pair (c d : Char) :
    magnitude? hexDigitValue? 16 [c, d] =
      (hexDigitValue? c).bind fun m => (hexDigitValue? d).map fun n => m * 16 + n := by
  simp only [magnitude?, List.isEmpty_cons, Bool.false_eq_true, if_false, digitsValue]
  cases hexDigitValue? c with
  | none => rfl
  | some m => cases hexDigitValue? d <;> simp

/-- A text of two ASCII characters as a numeral. -/
theorem hexadecimal?_pair (a b : UInt8) (ha : a < 0x80) (hb : b < 0x80) :
    (hexadecimal? max8 (String.ofList [Char.ofNat a.toNat, Char.ofNat b.toNat])).map Nat.toUInt8 =
      if isNumeral a b then some (numeral a b) else none := by
  rw [hexadecimal?, unsigned?, String.toList_ofList]
  by_cases hsign : Char.ofNat a.toNat = '+'
  · have hplus := (ofNat_eq_plus_iff a ha).mp hsign
    rw [hsign, dropPlus, magnitude?_singleton, hexDigitValue?_ofNat b hb, isNumeral, numeral,
      if_pos hplus, hplus]
    cases hdigit : isHexDigit b with
    | true =>
        have hmax : hexValue b ≤ max8 := Nat.le_of_lt (Nat.lt_trans (hexValue_lt b hdigit) (by decide))
        simp [hmax]
    | false => simp
  · have hplus : a ≠ 0x2B := fun h => hsign ((ofNat_eq_plus_iff a ha).mpr h)
    have hdrop : dropPlus [Char.ofNat a.toNat, Char.ofNat b.toNat] =
        [Char.ofNat a.toNat, Char.ofNat b.toNat] := by
      unfold dropPlus
      split
      · rename_i heq
        exact absurd (List.cons.inj heq).1 hsign
      · rfl
    rw [hdrop, magnitude?_pair, hexDigitValue?_ofNat a ha, hexDigitValue?_ofNat b hb, isNumeral,
      numeral, if_neg hplus]
    cases hdigit : isHexDigit a with
    | true =>
        cases hdigit' : isHexDigit b with
        | true =>
            have hlt := hexValue_lt a hdigit
            have hlt' := hexValue_lt b hdigit'
            have hmax : hexValue a * 16 + hexValue b ≤ max8 := by
              rw [max8]
              omega
            simp [hmax]
        | false => simp
    | false => simp [hplus]

/-- A text of one character that is not ASCII is no numeral. -/
theorem hexadecimal?_singleton (bound : Nat) (c : Char) (h : 0x80 ≤ c.toNat) :
    hexadecimal? bound (String.ofList [c]) = none := by
  have hne (d : Char) (hd : d.toNat < 0x80) : ¬ c ≤ d := by
    intro hle
    have hnat : c.toNat ≤ d.toNat := hle
    omega
  have hdigit : hexDigitValue? c = none := by
    rw [hexDigitValue?, if_neg fun hc => hne '9' (by decide) hc.2,
      if_neg fun hc => hne 'f' (by decide) hc.2, if_neg fun hc => hne 'F' (by decide) hc.2]
  have hdrop : dropPlus [c] = [c] := by
    unfold dropPlus
    split
    · rename_i heq
      exact absurd ((List.cons.inj heq).1 ▸ Char.le_refl _) (hne '+' (by decide))
    · rfl
  rw [hexadecimal?, unsigned?, String.toList_ofList, hdrop, magnitude?_singleton, hdigit,
    Option.filter_none]

end Fingerprinting.Text

namespace Fingerprinting

open Text

/-! ## The two readers -/

/-- Two bytes in percent notation. -/
theorem Cpe.pairValue?_eq (a b : UInt8) :
    Cpe.pairValue? a b = if isNumeral a b then some (numeral a b) else none := by
  unfold Cpe.pairValue?
  split
  · rename_i h
    exact hexadecimal?_pair a b h.1 h.2
  · rename_i h
    rw [if_neg fun hnumeral => h (lt_of_isNumeral a b hnumeral)]

/-- A byte that is all of a character is ASCII. -/
theorem Utf8.lt_of_first {a : UInt8} {c : Char} (h : Utf8.first a = .char c) : a < 0x80 := by
  unfold Utf8.first at h
  split_ifs at h with hlt
  · exact hlt

/-- A first byte that asks for one more byte. -/
theorem Utf8.of_first_more {a : UInt8} {p : Utf8.Pending} (h : Utf8.first a = .more p)
    (howed : p.owed ≤ 1) :
    0xC2 ≤ a.toNat ∧ a.toNat < 0xE0 ∧ p.value = a.toNat - 0xC0 ∧ p.high = 0xBF := by
  unfold Utf8.first at h
  split at h
  · cases h
  split at h
  · cases h
  rename_i hlow
  split at h
  · rename_i hhigh
    cases h
    exact ⟨Nat.le_of_not_lt fun hlt => hlow (UInt8.lt_iff_toNat_lt.mpr hlt),
      UInt8.lt_iff_toNat_lt.mp hhigh, rfl, rfl⟩
  split at h
  · cases h
    exact absurd howed (show ¬ 2 ≤ 1 by decide)
  split at h
  · cases h
    exact absurd howed (show ¬ 3 ≤ 1 by decide)
  · cases h

/-- A byte that completes a character. -/
theorem Utf8.of_next_char {b : UInt8} {p : Utf8.Pending} {c : Char} (h : p.next b = .char c) :
    p.owed ≤ 1 ∧ b ≤ p.high ∧ c = Char.ofNat (p.value * 64 + (b.toNat - 0x80)) := by
  unfold Utf8.Pending.next at h
  split at h
  · rename_i hbounds
    dsimp only at h
    split at h
    · rename_i howed
      exact ⟨howed, hbounds.2, (Utf8.Reading.char.inj h).symm⟩
    · cases h
  · cases h

/-- A character of two bytes is not ASCII. -/
theorem Utf8.le_toNat_of_next {a b : UInt8} {p : Utf8.Pending} {c : Char}
    (hfirst : Utf8.first a = .more p) (hnext : p.next b = .char c) : 0x80 ≤ c.toNat := by
  obtain ⟨howed, hb, hc⟩ := Utf8.of_next_char hnext
  obtain ⟨hlow, hhigh, hvalue, hbound⟩ := Utf8.of_first_more hfirst howed
  rw [hbound] at hb
  have hb : b.toNat ≤ 0xBF := UInt8.le_iff_toNat_le.mp hb
  have hvalid : (p.value * 64 + (b.toNat - 0x80)).isValidChar := .inl (by omega)
  rw [hc, Char.ofNat, dif_pos hvalid]
  show 0x80 ≤ p.value * 64 + (b.toNat - 0x80)
  omega

/-- The two bytes after `\x` in a payload. -/
theorem Nmap.numeralByte?_eq (a b : UInt8) :
    Nmap.numeralByte? a b = if isNumeral a b then some (numeral a b) else none := by
  unfold Nmap.numeralByte?
  by_cases hascii : a < 0x80 ∧ b < 0x80
  · have hread : Utf8.decode? [a, b] =
        some (String.ofList [Char.ofNat a.toNat, Char.ofNat b.toNat]) := by
      simp [Utf8.decode?, Utf8.scan, Utf8.scanFrom, Utf8.first, hascii.1, hascii.2]
    rw [hread]
    exact hexadecimal?_pair a b hascii.1 hascii.2
  · rw [if_neg fun hnumeral => hascii (lt_of_isNumeral a b hnumeral)]
    cases hfirst : Utf8.first a with
    | char c =>
        have hb : ¬ b < 0x80 := fun hb => hascii ⟨Utf8.lt_of_first hfirst, hb⟩
        cases hsecond : Utf8.first b with
        | char d => exact absurd (Utf8.lt_of_first hsecond) hb
        | more q => simp [Utf8.decode?, Utf8.scan, Utf8.scanFrom, hfirst, hsecond]
        | broken => simp [Utf8.decode?, Utf8.scan, Utf8.scanFrom, hfirst, hsecond]
    | more p =>
        cases hnext : p.next b with
        | char c =>
            have hread : Utf8.decode? [a, b] = some (String.ofList [c]) := by
              simp [Utf8.decode?, Utf8.scan, Utf8.scanFrom, hfirst, hnext]
            rw [hread, Option.bind_eq_bind, Option.bind_some,
              hexadecimal?_singleton _ _ (Utf8.le_toNat_of_next hfirst hnext), Option.map_none]
        | more q => simp [Utf8.decode?, Utf8.scan, Utf8.scanFrom, hfirst, hnext]
        | broken =>
            cases hsecond : Utf8.first b <;>
              simp [Utf8.decode?, Utf8.scan, Utf8.scanFrom, hfirst, hnext, hsecond]
    | broken => simp [Utf8.decode?, Utf8.scan, Utf8.scanFrom, hfirst]

end Fingerprinting
