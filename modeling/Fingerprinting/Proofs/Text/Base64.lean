/-
# Writing in Base64

Three bytes are four characters of six bits.  The last group may have one or two bytes; it is filled
up with zero bits and padding.  What is written so is read back.

* `encode` writes bytes, and `decode?_encode` reads them back;
* `isPlain_of_mem_encode` says which characters are written.
-/
import Mathlib.Tactic.Common
import Fingerprinting.Text.Base64
import Fingerprinting.Proofs.Text.Utf8

namespace Fingerprinting.Base64

open Utf8 (asciiByte)

/-! ## Characters -/

/-- The character with a value of six bits. -/
def character (value : Nat) : Char :=
  if value < 26 then Char.ofNat (value + 0x41)
  else if value < 52 then Char.ofNat (value - 26 + 0x61)
  else if value < 62 then Char.ofNat (value - 52 + 0x30)
  else if value = 62 then '+'
  else '/'

/-- The character that fills up the last group. -/
def filler : Char := '='

theorem value?_character : ∀ v < 64, value? (asciiByte (character v)) = some v := by decide +kernel

theorem character_ne_padding : ∀ v < 64, asciiByte (character v) ≠ padding := by decide +kernel

/-- All that is written is visible ASCII other than the vertical bar. -/
def IsPlain (c : Char) : Prop := 0x21 ≤ c.toNat ∧ c.toNat < 0x7C

instance (c : Char) : Decidable (IsPlain c) := inferInstanceAs (Decidable (_ ∧ _))

theorem isPlain_character (v : Nat) : IsPlain (character v) := by
  by_cases hv : v < 64
  · have hall : ∀ v < 64, IsPlain (character v) := by decide +kernel
    exact hall v hv
  · rw [character, if_neg (by omega), if_neg (by omega), if_neg (by omega), if_neg (by omega)]
    decide

/-! ## Groups -/

/-- The four characters of three bytes. -/
def group (a b c : UInt8) : List Char :=
  [character (a.toNat / 4), character (a.toNat % 4 * 16 + b.toNat / 16),
    character (b.toNat % 16 * 4 + c.toNat / 64), character (c.toNat % 64)]

/-- The text of some bytes. -/
def encode : Bytes → List Char
  | [] => []
  | [a] => [character (a.toNat / 4), character (a.toNat % 4 * 16), filler, filler]
  | [a, b] =>
      [character (a.toNat / 4), character (a.toNat % 4 * 16 + b.toNat / 16),
        character (b.toNat % 16 * 4), filler]
  | a :: b :: c :: rest => group a b c ++ encode rest

theorem encode_ne_nil {b : Bytes} (h : b ≠ []) : encode b ≠ [] := by
  match b, h with
  | [_], _ => exact List.cons_ne_nil _ _
  | [_, _], _ => exact List.cons_ne_nil _ _
  | _ :: _ :: _ :: _, _ => exact List.cons_ne_nil _ _

/-- What is written is plain. -/
theorem isPlain_of_mem_encode {b : Bytes} : ∀ x ∈ encode b, IsPlain x := by
  have hfiller : IsPlain filler := by decide
  induction b using encode.induct with
  | case1 => exact List.forall_mem_nil _
  | case2 a => simp [encode, isPlain_character, hfiller]
  | case3 a b => simp [encode, isPlain_character, hfiller]
  | case4 a b c rest ih =>
      rw [encode, List.forall_mem_append]
      exact ⟨by simp [group, isPlain_character], ih⟩

/-- The first six bits and the two that follow are the first byte. -/
theorem first_byte (a : UInt8) {low : Nat} (h : low < 16) :
    (a.toNat / 4 * 4 + (a.toNat % 4 * 16 + low) / 16).toUInt8 = a := by
  have hvalue : a.toNat / 4 * 4 + (a.toNat % 4 * 16 + low) / 16 = a.toNat := by omega
  rw [hvalue]
  exact UInt8.ofNat_toNat

theorem second_byte (high : Nat) (b : UInt8) {low : Nat} (h : low < 4) :
    ((high * 16 + b.toNat / 16) % 16 * 16 + (b.toNat % 16 * 4 + low) / 4).toUInt8 = b := by
  have hbyte := b.toNat_lt
  have hvalue :
      (high * 16 + b.toNat / 16) % 16 * 16 + (b.toNat % 16 * 4 + low) / 4 = b.toNat := by omega
  rw [hvalue]
  exact UInt8.ofNat_toNat

theorem third_byte (high : Nat) (c : UInt8) :
    ((high * 4 + c.toNat / 64) % 4 * 64 + c.toNat % 64).toUInt8 = c := by
  have hbyte := c.toNat_lt
  have hvalue : (high * 4 + c.toNat / 64) % 4 * 64 + c.toNat % 64 = c.toNat := by omega
  rw [hvalue]
  exact UInt8.ofNat_toNat

/-! ## Reading -/

section

variable {a b c d : UInt8} {va vb vc vd : Nat}

theorem lastGroup?_one (ha : value? a = some va) (hb : value? b = some vb) (hlow : vb % 16 = 0) :
    lastGroup? a b padding padding = some [(va * 4 + vb / 16).toUInt8] := by
  simp only [lastGroup?, ha, hb, Option.bind_eq_bind, Option.bind_some, hlow]
  rfl

theorem lastGroup?_two (ha : value? a = some va) (hb : value? b = some vb) (hc : value? c = some vc)
    (hne : c ≠ padding) (hlow : vc % 4 = 0) :
    lastGroup? a b c padding =
      some [(va * 4 + vb / 16).toUInt8, (vb % 16 * 16 + vc / 4).toUInt8] := by
  simp only [lastGroup?, ha, hb, hc, Option.bind_eq_bind, Option.bind_some, if_neg hne, if_pos,
    hlow]

theorem lastGroup?_three (ha : value? a = some va) (hb : value? b = some vb)
    (hc : value? c = some vc) (hd : value? d = some vd) (hne : c ≠ padding) (hne' : d ≠ padding) :
    lastGroup? a b c d = some [(va * 4 + vb / 16).toUInt8, (vb % 16 * 16 + vc / 4).toUInt8,
      (vc % 4 * 64 + vd).toUInt8] := by
  simp only [lastGroup?, ha, hb, hc, hd, Option.bind_eq_bind, Option.bind_some, if_neg hne,
    if_neg hne']

/-- A group that others follow is read before them. -/
theorem decode?_cons (hne : c ≠ padding) (hne' : d ≠ padding) {rest : Bytes} (hrest : rest ≠ []) :
    decode? (a :: b :: c :: d :: rest) =
      (lastGroup? a b c d).bind fun first => (decode? rest).map fun more => first ++ more := by
  obtain ⟨e, rest, rfl⟩ := List.exists_cons_of_ne_nil hrest
  have hinner : innerGroup? a b c d = lastGroup? a b c d := by simp [innerGroup?, hne, hne']
  rw [decode?, hinner]
  · cases lastGroup? a b c d with
    | none => rfl
    | some first => cases decode? (e :: rest) <;> rfl
  · simp

end

/-- The bytes of a group of three. -/
theorem lastGroup?_group (a b c : UInt8) :
    lastGroup? (asciiByte (character (a.toNat / 4)))
      (asciiByte (character (a.toNat % 4 * 16 + b.toNat / 16)))
      (asciiByte (character (b.toNat % 16 * 4 + c.toNat / 64)))
      (asciiByte (character (c.toNat % 64))) = some [a, b, c] := by
  have ha := a.toNat_lt
  have hb := b.toNat_lt
  have hc := c.toNat_lt
  rw [lastGroup?_three (value?_character _ (by omega)) (value?_character _ (by omega))
    (value?_character _ (by omega)) (value?_character _ (by omega))
    (character_ne_padding _ (by omega)) (character_ne_padding _ (by omega)),
    first_byte a (by omega), second_byte _ b (by omega), third_byte]

/-- What is written is read back. -/
theorem decode?_map_encode (b : Bytes) : decode? ((encode b).map asciiByte) = some b := by
  induction b using encode.induct with
  | case1 => rfl
  | case2 a =>
      have ha := a.toNat_lt
      have hfirst := first_byte a (show 0 < 16 by decide)
      rw [Nat.add_zero] at hfirst
      refine (lastGroup?_one (value?_character _ (by omega))
        (value?_character _ (by omega)) (by omega)).trans ?_
      rw [hfirst]
  | case3 a b =>
      have ha := a.toNat_lt
      have hb := b.toNat_lt
      have hsecond := second_byte (a.toNat % 4) b (show 0 < 4 by decide)
      rw [Nat.add_zero] at hsecond
      refine (lastGroup?_two (value?_character _ (by omega))
        (value?_character _ (by omega)) (value?_character _ (by omega))
        (character_ne_padding _ (by omega)) (by omega)).trans ?_
      rw [first_byte a (by omega), hsecond]
  | case4 a b c rest ih =>
      rw [encode, List.map_append]
      -- Only the last group may be padded, so whether others follow has to be known.
      cases hrest : rest with
      | nil => exact lastGroup?_group a b c
      | cons d more =>
          rw [← hrest]
          have hb := b.toNat_lt
          have hc := c.toNat_lt
          have hne : (encode rest).map asciiByte ≠ [] := by
            rw [ne_eq, List.map_eq_nil_iff]
            exact encode_ne_nil (hrest ▸ List.cons_ne_nil d more)
          refine (decode?_cons (character_ne_padding _ (by omega))
            (character_ne_padding _ (by omega)) hne).trans ?_
          rw [lastGroup?_group, ih]
          rfl

/-- The text of some bytes is read as those bytes. -/
theorem decode?_encode (b : Bytes) : decode? (Utf8.encode (String.ofList (encode b))) = some b := by
  have hascii : ∀ c ∈ encode b, c.toNat < 0x80 := fun c hc => by
    have hplain := isPlain_of_mem_encode c hc
    unfold IsPlain at hplain
    omega
  rw [Utf8.encode_ofList_ascii hascii, decode?_map_encode]

end Fingerprinting.Base64
