/-
# Lower case of bytes and of texts

A byte string in lower case has its ASCII letters in lower case, and a text in lower case has all of
its letters so.  The two agree on a text whose other letters are in lower case already.  On every
other text they differ so much that the bytes of the one do not even occur among those of the other.

* `asciiLowerBytes_encode` compares bytes and texts where only ASCII letters are concerned;
* `lower_eq_asciiLower_iff` says which texts have the same lower case in both ways;
* `sameIgnoringAsciiCase_lower_iff` says which texts are in lower case up to the case of ASCII letters;
* `encode_lower_infix_iff` says which texts are found among their own bytes in lower case.
-/
import Fingerprinting.Proofs.Text.Lower
import Fingerprinting.Proofs.Text.Utf8

namespace Fingerprinting.Text

/-! ## ASCII -/

/-- What holds of all ASCII characters by number holds of each. -/
theorem ascii_forall {P : Char → Prop} (h : ∀ n < 0x80, P (Char.ofNat n)) {c : Char}
    (hc : c.toNat < 0x80) : P c := by
  have hchar := h c.toNat hc
  rwa [Char.ofNat_toNat] at hchar

theorem toNat_asciiLowerChar_lt {c : Char} (h : c.toNat < 0x80) :
    (asciiLowerChar c).toNat < 0x80 :=
  ascii_forall (P := fun c => (asciiLowerChar c).toNat < 0x80) (by decide +kernel) h

theorem asciiLowerByte_asciiByte {c : Char} (h : c.toNat < 0x80) :
    asciiLowerByte (Utf8.asciiByte c) = Utf8.asciiByte (asciiLowerChar c) :=
  ascii_forall (P := fun c => asciiLowerByte (Utf8.asciiByte c) = Utf8.asciiByte (asciiLowerChar c))
    (by decide +kernel) h

/-- Characters outside ASCII stay. -/
theorem asciiLowerChar_of_le {c : Char} (h : 0x80 ≤ c.toNat) : asciiLowerChar c = c := by
  refine if_neg fun hletter => ?_
  have hle : c.toNat ≤ 0x5A := Char.le_def.mp hletter.2
  omega

/-- Bytes outside ASCII stay. -/
theorem asciiLowerByte_of_not_lt {b : UInt8} (h : ¬ b < 0x80) : asciiLowerByte b = b := by
  refine if_neg fun hletter => h ?_
  exact UInt8.lt_of_le_of_lt hletter.2 (by decide)

/-! ## Bytes of texts -/

/-- The bytes of a character in lower case. -/
theorem map_asciiLowerByte_encodeChar (c : Char) :
    (String.utf8EncodeChar c).map asciiLowerByte = String.utf8EncodeChar (asciiLowerChar c) := by
  by_cases hascii : c.toNat < 0x80
  · rw [Utf8.encodeChar_of_lt c hascii, Utf8.encodeChar_of_lt _ (toNat_asciiLowerChar_lt hascii),
      List.map_singleton]
    exact congrArg (fun b => [b]) (asciiLowerByte_asciiByte hascii)
  · rw [asciiLowerChar_of_le (Nat.not_lt.mp hascii)]
    refine (List.map_congr_left fun b hb => ?_).trans (List.map_id _)
    refine asciiLowerByte_of_not_lt fun hlt => hascii ?_
    rw [Utf8.eq_of_mem_encodeChar c b hb hlt]
    exact hlt

/-- The lower case of the bytes of a text is that of its ASCII letters. -/
theorem asciiLowerBytes_encode (s : String) :
    asciiLowerBytes (Utf8.encode s) = Utf8.encode (asciiLower s) := by
  rw [asciiLowerBytes, Utf8.encode, Utf8.encode, asciiLower, String.toList_ofList, List.map_flatMap,
    List.flatMap_map, funext map_asciiLowerByte_encodeChar]

/-! ## Texts -/

/-- A text whose letters outside ASCII are in lower case. -/
def IsAsciiCased (s : String) : Prop := ∀ c ∈ s.toList, c.toNat < 0x80 ∨ IsLowered c

instance (s : String) : Decidable (IsAsciiCased s) :=
  (List.decidableBAll _ s.toList : Decidable (∀ c ∈ s.toList, c.toNat < 0x80 ∨ IsLowered c))

/-- The lower case of a character between what precedes and what follows it. -/
def lowerIn (before : List Char) (c : Char) (rest : List Char) : List Char :=
  if c = capitalSigma then
    if startsCased before && !startsCased rest then ['\u03C2'] else ['\u03C3']
  else lowerChar c

theorem lowerFrom_cons (before : List Char) (c : Char) (rest : List Char) :
    lowerFrom before (c :: rest) = lowerIn before c rest ++ lowerFrom (c :: before) rest := rfl

variable (before rest : List Char) {c : Char}

/-- ASCII characters and those in lower case have the same lower case in both ways. -/
theorem lowerIn_of_cased (h : c.toNat < 0x80 ∨ IsLowered c) :
    lowerIn before c rest = [asciiLowerChar c] := by
  unfold lowerIn
  by_cases hascii : c.toNat < 0x80
  · have hsigma : c ≠ capitalSigma := by
      rintro rfl
      exact absurd hascii (by decide)
    rw [if_neg hsigma, lowerChar, if_pos hascii]
  · obtain ⟨hsame, hsigma⟩ := h.resolve_left hascii
    rw [if_neg hsigma, hsame, asciiLowerChar_of_le (Nat.not_lt.mp hascii)]

/-- The lower case of any other character begins with another character. -/
theorem exists_lowerIn_of_not_cased (h : ¬ (c.toNat < 0x80 ∨ IsLowered c)) :
    ∃ d more, lowerIn before c rest = d :: more ∧ d ≠ asciiLowerChar c := by
  obtain ⟨hascii, hlowered⟩ := not_or.mp h
  rw [asciiLowerChar_of_le (Nat.not_lt.mp hascii)]
  unfold lowerIn
  by_cases hsigma : c = capitalSigma
  · -- Neither of the two small sigmas is the capital one, so the context does not matter.
    subst hsigma
    rw [if_pos rfl]
    split
    · exact ⟨_, _, rfl, by decide⟩
    · exact ⟨_, _, rfl, by decide⟩
  · rw [if_neg hsigma]
    have hchange : lowerChar c ≠ [c] := fun hsame => hlowered ⟨hsame, hsigma⟩
    rw [lowerChar, if_neg hascii] at hchange ⊢
    split at hchange
    · -- A capital I with a dot becomes a small i followed by the dot.
      rename_i hdot
      rw [if_pos hdot]
      refine ⟨_, _, rfl, ?_⟩
      rintro rfl
      exact absurd hdot (by decide)
    · rename_i hdot
      rw [if_neg hdot]
      exact ⟨_, _, rfl, fun heq => hchange (List.singleton_inj.mpr heq)⟩

/-- Both lower cases agree along a text exactly when they agree on each character. -/
theorem lowerFrom_eq_map_iff (cs : List Char) :
    lowerFrom before cs = cs.map asciiLowerChar ↔ ∀ c ∈ cs, c.toNat < 0x80 ∨ IsLowered c := by
  induction cs generalizing before with
  | nil => exact iff_of_true rfl (List.forall_mem_nil _)
  | cons c rest ih =>
      rw [lowerFrom_cons, List.map_cons, List.forall_mem_cons, ← ih (c :: before)]
      by_cases hc : c.toNat < 0x80 ∨ IsLowered c
      · rw [lowerIn_of_cased before rest hc, List.singleton_append, List.cons.injEq]
        exact and_congr_left' (iff_of_true rfl hc)
      · obtain ⟨d, more, hlow, hne⟩ := exists_lowerIn_of_not_cased before rest hc
        rw [hlow, List.cons_append, List.cons.injEq]
        exact iff_of_false (fun h => hne h.1) fun h => hc h.1

/-- Lower case does not make a text shorter. -/
theorem length_le_lowerFrom (cs : List Char) : cs.length ≤ (lowerFrom before cs).length := by
  induction cs generalizing before with
  | nil => exact Nat.zero_le _
  | cons c rest ih =>
      have hpositive : 1 ≤ (lowerIn before c rest).length := by
        by_cases hc : c.toNat < 0x80 ∨ IsLowered c
        · rw [lowerIn_of_cased before rest hc]
          exact Nat.le_refl 1
        · obtain ⟨d, more, hlow, -⟩ := exists_lowerIn_of_not_cased before rest hc
          rw [hlow]
          exact Nat.succ_pos _
      have hrest := ih (c :: before)
      rw [lowerFrom_cons, List.length_append, List.length_cons]
      omega

/-- The two lower cases of a text agree when its letters outside ASCII are in lower case. -/
theorem lower_eq_asciiLower_iff (s : String) : lower s = asciiLower s ↔ IsAsciiCased s := by
  rw [lower, asciiLower, String.ofList_inj]
  exact lowerFrom_eq_map_iff [] s.toList

/-- Lower case of the ASCII letters leaves the other letters as they are. -/
theorem isAsciiCased_asciiLower_iff (s : String) : IsAsciiCased (asciiLower s) ↔ IsAsciiCased s := by
  have hchar (c : Char) : ((asciiLowerChar c).toNat < 0x80 ∨ IsLowered (asciiLowerChar c)) ↔
      (c.toNat < 0x80 ∨ IsLowered c) := by
    by_cases hascii : c.toNat < 0x80
    · exact iff_of_true (.inl (toNat_asciiLowerChar_lt hascii)) (.inl hascii)
    · rw [asciiLowerChar_of_le (Nat.not_lt.mp hascii)]
  rw [IsAsciiCased, asciiLower, String.toList_ofList, List.forall_mem_map]
  exact forall₂_congr fun c _ => hchar c

/-- A text in lower case has its letters outside ASCII so. -/
theorem isAsciiCased_lower (s : String) : IsAsciiCased (lower s) := by
  intro c hc
  rw [lower, String.toList_ofList] at hc
  exact .inr (isLowered_of_mem_lowerFrom [] s.toList c hc)

/-- A text in lower case has its ASCII letters so. -/
theorem asciiLower_lower (s : String) : asciiLower (lower s) = lower s := by
  rw [← (lower_eq_asciiLower_iff (lower s)).mpr (isAsciiCased_lower s), lower_lower]

/-- A text in lower case is another one up to the case of ASCII letters when it is the lower case of
that one, and the letters of that one outside ASCII are in lower case. -/
theorem sameIgnoringAsciiCase_lower_iff (s t : String) :
    sameIgnoringAsciiCase (lower s) t = true ↔ IsAsciiCased t ∧ lower s = lower t := by
  rw [sameIgnoringAsciiCase, beq_iff_eq, asciiLower_lower]
  constructor
  · intro h
    have hcased : IsAsciiCased t := by
      rw [← isAsciiCased_asciiLower_iff, ← h]
      exact isAsciiCased_lower s
    rw [(lower_eq_asciiLower_iff t).mpr hcased]
    exact ⟨hcased, h⟩
  · rintro ⟨hcased, h⟩
    rw [h]
    exact (lower_eq_asciiLower_iff t).mpr hcased

/-- The lower case of a text occurs in that of its bytes when its letters outside ASCII are in lower
case. -/
theorem encode_lower_infix_iff (s : String) :
    Utf8.encode (lower s) <:+: asciiLowerBytes (Utf8.encode s) ↔ IsAsciiCased s := by
  rw [asciiLowerBytes_encode, ← lower_eq_asciiLower_iff]
  constructor
  · intro h
    refine Utf8.eq_of_encode_infix h ?_
    rw [lower, asciiLower, String.toList_ofList, String.toList_ofList, List.length_map]
    exact length_le_lowerFrom [] s.toList
  · intro h
    exact h ▸ List.infix_refl _

example : IsAsciiCased "Olé" ∧ ¬ IsAsciiCased "OLÉ" := by decide +kernel

end Fingerprinting.Text
