/-
# Reading what was written as a numeral

What is read as a number in decimal is a run of digits with that value, after a plus sign or without
one, and the number does not exceed the bound.  A byte as two hexadecimal digits is read as that
byte, and a number in hexadecimal as that number, in either case and after any zeros.

* `digitValue?_eq_some_iff` says which characters are the digits of the decimal system;
* `decimal?_eq_some_iff` says what is read as a number in decimal.
-/
import Mathlib.Tactic.Common
import Fingerprinting.Text.Numeral

namespace Fingerprinting.Text

/-! ## Decimal -/

/-- A run of digits has the value that its digits make up. -/
theorem digitsValue_of_isDigit (cs : List Char) (acc : Nat) (h : ∀ c ∈ cs, c.isDigit = true) :
    digitsValue digitValue? 10 acc cs = some (Nat.ofDigitChars 10 cs acc) := by
  induction cs generalizing acc with
  | nil => rfl
  | cons c rest ih =>
      have hdigit := h c List.mem_cons_self
      have hvalue : digitValue? c = some (c.toNat - '0'.toNat) := by
        unfold digitValue?
        rw [if_pos]
        simp only [Char.isDigit, Bool.and_eq_true, decide_eq_true_eq] at hdigit
        exact hdigit
      rw [digitsValue, hvalue]
      dsimp only
      rw [ih _ fun d hd => h d (List.mem_cons_of_mem _ hd), Nat.ofDigitChars_cons, Nat.mul_comm]

theorem isDigit_of_mem_decimal (n : Nat) (c : Char) (h : c ∈ (decimal n).toList) :
    c.isDigit = true := by
  rw [decimal, Nat.toList_repr] at h
  exact Nat.isDigit_of_mem_toDigits (by decide) (by decide) h

/-- The characters that have a value are the digits. -/
theorem isSome_digitValue?_iff (c : Char) : (digitValue? c).isSome = true ↔ c.isDigit = true := by
  rw [digitValue?, Char.isDigit, Bool.and_eq_true, decide_eq_true_eq, decide_eq_true_eq]
  split
  · rename_i hdigit
    exact iff_of_true rfl hdigit
  · rename_i hdigit
    exact iff_of_false Bool.false_ne_true hdigit

/-- What has the value of a number below ten is the digit of that number. -/
theorem digitValue?_eq_some_iff (c : Char) (n : Nat) :
    digitValue? c = some n ↔ n < 10 ∧ c = n.digitChar := by
  constructor
  · intro h
    have hdigit : c.isDigit = true := by
      rw [← isSome_digitValue?_iff, h]
      rfl
    have hrange : 0x30 ≤ c.toNat ∧ c.toNat ≤ 0x39 := by
      simpa [Char.isDigit, UInt32.le_iff_toNat_le] using hdigit
    unfold digitValue? at h
    split at h
    · obtain rfl := Option.some.inj h
      have hzero : '0'.toNat = 0x30 := rfl
      have hlt : c.toNat - '0'.toNat < 10 := by omega
      refine ⟨hlt, Char.toNat_inj.mp ?_⟩
      rw [Nat.toNat_digitChar_of_lt_ten hlt]
      omega
    · cases h
  · rintro ⟨hn, rfl⟩
    have hall : ∀ m < 10, digitValue? m.digitChar = some m := by decide
    exact hall n hn

/-- A run of digits has nothing else. -/
theorem isSome_of_mem_digits {digit : Char → Option Nat} {base acc n : Nat} {cs : List Char}
    (h : digitsValue digit base acc cs = some n) : ∀ c ∈ cs, (digit c).isSome := by
  induction cs generalizing acc with
  | nil => simp
  | cons c rest ih =>
      unfold digitsValue at h
      split at h
      · rename_i d hd
        exact List.forall_mem_cons.mpr ⟨by rw [hd]; rfl, ih h⟩
      · cases h

/-- A number is written in decimal: with a plus sign or without, and then with digits, which may begin
with zeros. -/
def IsDecimal (n : Nat) (cs : List Char) : Prop :=
  ∃ sign digits, cs = sign ++ digits ∧ (sign = [] ∨ sign = ['+']) ∧ digits ≠ [] ∧
    (∀ c ∈ digits, c.isDigit = true) ∧ Nat.ofDigitChars 10 digits 0 = n

/-- Digits after a plus sign, or without one. -/
theorem dropPlus_append {sign digits : List Char} (hsign : sign = [] ∨ sign = ['+'])
    (hdigits : ∀ c ∈ digits, c.isDigit = true) : dropPlus (sign ++ digits) = digits := by
  rcases hsign with rfl | rfl
  · rw [List.nil_append]
    unfold dropPlus
    split
    · cases hdigits '+' List.mem_cons_self
    · rfl
  · rfl

theorem exists_dropPlus (cs : List Char) :
    ∃ sign, cs = sign ++ dropPlus cs ∧ (sign = [] ∨ sign = ['+']) := by
  unfold dropPlus
  split
  · exact ⟨['+'], rfl, .inr rfl⟩
  · exact ⟨[], rfl, .inl rfl⟩

/-- What is read as a number is what writes it in decimal, and does not exceed the bound. -/
theorem decimal?_eq_some_iff (bound n : Nat) (s : String) :
    decimal? bound s = some n ↔ IsDecimal n s.toList ∧ n ≤ bound := by
  rw [decimal?, unsigned?, Option.filter_eq_some_iff, decide_eq_true_eq]
  refine and_congr_left fun _ => ?_
  constructor
  · intro hvalue
    obtain ⟨sign, hs, hsign⟩ := exists_dropPlus s.toList
    unfold magnitude? at hvalue
    split at hvalue
    · cases hvalue
    · rename_i hne
      have hdigits : ∀ c ∈ dropPlus s.toList, c.isDigit = true := fun c hc =>
        (isSome_digitValue?_iff c).mp (isSome_of_mem_digits hvalue c hc)
      rw [digitsValue_of_isDigit _ _ hdigits] at hvalue
      refine ⟨sign, dropPlus s.toList, hs, hsign, ?_, hdigits, Option.some.inj hvalue⟩
      intro hnil
      exact hne (List.isEmpty_iff.mpr hnil)
  · rintro ⟨sign, digits, hs, hsign, hne, hdigits, rfl⟩
    rw [hs, dropPlus_append hsign hdigits, magnitude?, List.isEmpty_eq_false_iff.mpr hne,
      if_neg Bool.false_ne_true, digitsValue_of_isDigit _ _ hdigits]

/-- The digits of a number write it. -/
theorem isDecimal_decimal (n : Nat) : IsDecimal n (decimal n).toList := by
  refine ⟨[], (decimal n).toList, rfl, .inl rfl, ?_, isDigit_of_mem_decimal n, ?_⟩
  · rw [decimal, Nat.toList_repr]
    exact Nat.toDigits_ne_nil
  · rw [decimal, Nat.toList_repr, Nat.ofDigitChars_ten_toDigits]

/-- A number in decimal is read as that number. -/
theorem decimal?_decimal (bound n : Nat) (h : n ≤ bound) : decimal? bound (decimal n) = some n :=
  (decimal?_eq_some_iff bound n (decimal n)).mpr ⟨isDecimal_decimal n, h⟩

/-- What is read as a number does not exceed the bound. -/
theorem le_of_decimal? (bound n : Nat) (s : String) (h : decimal? bound s = some n) :
    n ≤ bound := by
  have hbound := (Option.filter_eq_some_iff.mp h).2
  exact of_decide_eq_true hbound

/-- A numeral has digits and the plus sign that it may begin with. -/
theorem IsDecimal.of_mem {n : Nat} {cs : List Char} (h : IsDecimal n cs) (c : Char) (hc : c ∈ cs) :
    c = '+' ∨ c.isDigit = true := by
  obtain ⟨sign, digits, rfl, hsign, -, hdigits, -⟩ := h
  rcases List.mem_append.mp hc with hc | hc
  · rcases hsign with rfl | rfl
    · cases hc
    · exact .inl (List.mem_singleton.mp hc)
  · exact .inr (hdigits c hc)

/-- What is written in decimal has digits and a plus sign only. -/
theorem IsDecimal.toNat_of_mem {n : Nat} {cs : List Char} (h : IsDecimal n cs) :
    ∀ c ∈ cs, c.toNat = 0x2B ∨ (0x30 ≤ c.toNat ∧ c.toNat ≤ 0x39) := by
  intro c hc
  rcases h.of_mem c hc with rfl | hdigit
  · exact .inl rfl
  · right
    simpa [Char.isDigit, UInt32.le_iff_toNat_le] using hdigit

theorem IsDecimal.ne_nil {n : Nat} {cs : List Char} (h : IsDecimal n cs) : cs ≠ [] := by
  obtain ⟨sign, digits, rfl, -, hne, -, -⟩ := h
  exact List.append_ne_nil_of_right_ne_nil sign hne

theorem of_mem_numeral (bound n : Nat) (s : String) (h : decimal? bound s = some n) (c : Char)
    (hc : c ∈ s.toList) : c = '+' ∨ (digitValue? c).isSome := by
  rw [isSome_digitValue?_iff]
  exact ((decimal?_eq_some_iff bound n s).mp h).1.of_mem c hc

/-! ## Hexadecimal -/

/-- A hexadecimal digit has the value that it was written for. -/
theorem hexDigitValue?_hexDigit : ∀ n < 16, hexDigitValue? (hexDigit n) = some n := by decide

/-- The hexadecimal digits are letters and digits of ASCII. -/
theorem hexDigit_lt : ∀ n < 16, (hexDigit n).toNat < 0x80 := by decide

theorem hexDigit_ne_plus : ∀ n < 16, hexDigit n ≠ '+' := by decide

/-- A byte as two hexadecimal digits is read as that byte. -/
theorem hexadecimal?_hexByte (b : UInt8) :
    hexadecimal? max8 (String.ofList (hexByte b)) = some b.toNat := by
  have hbyte : b.toNat < 256 := b.toNat_lt
  have hhigh : b.toNat / 16 < 16 := by omega
  have hlow : b.toNat % 16 < 16 := by omega
  have hplus : dropPlus (hexByte b) = hexByte b := by
    unfold dropPlus
    split
    · rename_i heq
      exact absurd (List.cons.inj heq).1 (hexDigit_ne_plus _ hhigh)
    · rfl
  have hvalue : magnitude? hexDigitValue? 16 (hexByte b) = some b.toNat := by
    have hsum : (0 * 16 + b.toNat / 16) * 16 + b.toNat % 16 = b.toNat := by omega
    simp only [magnitude?, hexByte, List.isEmpty_cons, Bool.false_eq_true, if_false, digitsValue,
      hexDigitValue?_hexDigit _ hhigh, hexDigitValue?_hexDigit _ hlow, hsum]
  have hmax : decide (b.toNat ≤ max8) = true := decide_eq_true (Nat.le_of_lt_succ hbyte)
  rw [hexadecimal?, unsigned?, String.toList_ofList, hplus, hvalue, Option.filter_some, if_pos hmax]

/-- A hexadecimal digit has its value in either case. -/
theorem hexDigitValue?_toLower (c : Char) : hexDigitValue? c.toLower = hexDigitValue? c := by
  by_cases hascii : c.toNat < 0x80
  · have hall : ∀ n < 0x80,
        hexDigitValue? (Char.ofNat n).toLower = hexDigitValue? (Char.ofNat n) := by
      decide +kernel
    have hc := hall c.toNat hascii
    rwa [Char.ofNat_toNat] at hc
  · have hlower : c.toLower = c := by
      unfold Char.toLower
      rw [dif_neg]
      rintro ⟨-, hupper⟩
      have hle : c.toNat ≤ 0x5A := UInt32.le_iff_toNat_le.mp hupper
      omega
    rw [hlower]

/-- The hexadecimal digits are the ten of the decimal system and six letters in either case. -/
theorem toNat_of_isHexDigit (c : Char) (h : (hexDigitValue? c).isSome = true) :
    (0x30 ≤ c.toNat ∧ c.toNat ≤ 0x39) ∨ (0x41 ≤ c.toNat ∧ c.toNat ≤ 0x66) := by
  have hle (a b : Char) : a ≤ b ↔ a.toNat ≤ b.toNat := UInt32.le_iff_toNat_le
  simp only [hexDigitValue?, hle, Char.reduceToNat] at h
  split at h
  · omega
  · split at h
    · omega
    · split at h
      · omega
      · cases h

theorem hexDigitValue?_digitChar : ∀ n < 16, hexDigitValue? n.digitChar = some n := by decide

/-- One more digit at the end. -/
theorem digitsValue_concat (digit : Char → Option Nat) (base acc : Nat) (cs : List Char)
    (c : Char) :
    digitsValue digit base acc (cs ++ [c]) =
      (digitsValue digit base acc cs).bind fun v => (digit c).map fun d => v * base + d := by
  induction cs generalizing acc with
  | nil =>
      rw [List.nil_append, digitsValue, digitsValue]
      cases digit c with
      | none => rfl
      | some d => rfl
  | cons first rest ih =>
      rw [List.cons_append, digitsValue, digitsValue]
      cases digit first with
      | none => rfl
      | some d => exact ih _

/-- The digits of a number in hexadecimal make up that number. -/
theorem digitsValue_toDigits (n : Nat) :
    digitsValue hexDigitValue? 16 0 (Nat.toDigits 16 n) = some n := by
  induction n using Nat.strongRecOn with
  | ind n ih =>
      by_cases hsmall : n < 16
      · rw [Nat.toDigits_of_lt_base hsmall, digitsValue, hexDigitValue?_digitChar n hsmall]
        dsimp only
        rw [digitsValue, Nat.zero_mul, Nat.zero_add]
      · have hdigit : n % 16 < 16 := Nat.mod_lt n (by decide)
        rw [Nat.toDigits_of_base_le (by decide) (Nat.not_lt.mp hsmall), digitsValue_concat,
          ih (n / 16) (by omega), hexDigitValue?_digitChar _ hdigit]
        simp only [Option.bind_some, Option.map_some, Option.some.injEq]
        omega

/-- Zeros before the digits add nothing. -/
theorem digitsValue_zeros (zeros : Nat) (cs : List Char) :
    digitsValue hexDigitValue? 16 0 (List.replicate zeros '0' ++ cs) =
      digitsValue hexDigitValue? 16 0 cs := by
  induction zeros with
  | zero => rfl
  | succ zeros ih =>
      rw [List.replicate_succ, List.cons_append, digitsValue]
      exact ih

theorem digitsValue_map_toLower (base acc : Nat) (cs : List Char) :
    digitsValue hexDigitValue? base acc (cs.map Char.toLower) =
      digitsValue hexDigitValue? base acc cs := by
  induction cs generalizing acc with
  | nil => rfl
  | cons c rest ih =>
      rw [List.map_cons, digitsValue, digitsValue, hexDigitValue?_toLower]
      cases hexDigitValue? c with
      | none => rfl
      | some d => exact ih _

/-- A number is written in hexadecimal: its digits in either case, after any zeros. -/
def IsHexadecimal (n : Nat) (cs : List Char) : Prop :=
  ∃ zeros, cs.map Char.toLower = List.replicate zeros '0' ++ Nat.toDigits 16 n

/-- What is written in hexadecimal has the value of the number. -/
theorem IsHexadecimal.digitsValue_eq {n : Nat} {cs : List Char} (h : IsHexadecimal n cs) :
    digitsValue hexDigitValue? 16 0 cs = some n := by
  obtain ⟨zeros, hcs⟩ := h
  rw [← digitsValue_map_toLower, hcs, digitsValue_zeros, digitsValue_toDigits]

/-- What is written in hexadecimal has digits only. -/
theorem IsHexadecimal.toNat_of_mem {n : Nat} {cs : List Char} (h : IsHexadecimal n cs) :
    ∀ c ∈ cs, (0x30 ≤ c.toNat ∧ c.toNat ≤ 0x39) ∨ (0x41 ≤ c.toNat ∧ c.toNat ≤ 0x66) :=
  fun c hc => toNat_of_isHexDigit c (isSome_of_mem_digits h.digitsValue_eq c hc)

/-- A number that is written in hexadecimal is read as that number. -/
theorem IsHexadecimal.hexadecimal? {n : Nat} {cs : List Char} (h : IsHexadecimal n cs) {bound : Nat}
    (hn : n ≤ bound) : hexadecimal? bound (String.ofList cs) = some n := by
  have hplus : dropPlus cs = cs := by
    unfold dropPlus
    split
    · rcases h.toNat_of_mem '+' List.mem_cons_self with ⟨hlow, -⟩ | ⟨hlow, -⟩ <;>
        exact absurd hlow (by decide)
    · rfl
  have hne : cs.isEmpty = false := by
    obtain ⟨zeros, hcs⟩ := h
    cases cs with
    | nil =>
        have hdigits := (List.append_eq_nil_iff.mp hcs.symm).2
        exact absurd hdigits Nat.toDigits_ne_nil
    | cons c rest => rfl
  have hmax : decide (n ≤ bound) = true := decide_eq_true hn
  rw [Text.hexadecimal?, unsigned?, String.toList_ofList, hplus, magnitude?, hne,
    if_neg Bool.false_ne_true, h.digitsValue_eq, Option.filter_some, if_pos hmax]

end Fingerprinting.Text
