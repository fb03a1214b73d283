/-
# Reading what was written in UTF-8

The bytes of a character are one byte, or a first byte that says how many follow and continuation
bytes of six bits each.  Reading them from outside any character gives the character back, and so
the bytes of a text are read as that text.

* `scanFrom_encodeChar` reads the bytes of one character, by the number of its bytes;
* `lossy_encode` reads the bytes of a text;
* `eq_of_encode_infix` says that the bytes of a text occur in those of another one only if that one
  is the text itself or has more characters;
* `mem_of_lineFeed_mem_encode` finds line feeds among the bytes of a text only where the text has
  them.
-/
import Mathlib.Data.List.Infix
import Mathlib.Tactic.Common
import Fingerprinting.Text.Utf8

namespace Fingerprinting.Utf8

/-! ## Bytes -/

theorem toNat_ofNat {n : Nat} (h : n < 256) : (UInt8.ofNat n).toNat = n := by
  rw [UInt8.toNat_ofNat']
  exact Nat.mod_eq_of_lt h

theorem ofNat_lt_iff {n : Nat} (h : n < 256) (b : UInt8) : UInt8.ofNat n < b ↔ n < b.toNat := by
  rw [UInt8.lt_iff_toNat_lt, toNat_ofNat h]

theorem ofNat_eq_iff {n : Nat} (h : n < 256) (b : UInt8) : UInt8.ofNat n = b ↔ n = b.toNat := by
  rw [← UInt8.toNat_inj, toNat_ofNat h]

/-! ## First bytes -/

theorem first_one {v : Nat} (h : v ≤ 0x7F) : first (UInt8.ofNat v) = .char (Char.ofNat v) := by
  have hbyte : v < 256 := by omega
  simp only [first, ofNat_lt_iff hbyte, toNat_ofNat hbyte, UInt8.reduceToNat]
  rw [if_pos (by omega)]

theorem first_two {t : Nat} (h : 2 ≤ t) (h' : t < 32) :
    first (UInt8.ofNat (t + 0xC0)) = .more ⟨1, 0x80, 0xBF, t⟩ := by
  have hbyte : t + 0xC0 < 256 := by omega
  simp only [first, ofNat_lt_iff hbyte, toNat_ofNat hbyte, UInt8.reduceToNat]
  rw [if_neg (by omega), if_neg (by omega), if_pos (by omega), Nat.add_sub_cancel]

theorem first_three {t : Nat} (h : t < 16) :
    first (UInt8.ofNat (t + 0xE0)) =
      .more ⟨2, if t = 0 then 0xA0 else 0x80, if t = 13 then 0x9F else 0xBF, t⟩ := by
  have hbyte : t + 0xE0 < 256 := by omega
  have hzero : t + 0xE0 = 0xE0 ↔ t = 0 := by omega
  have hthirteen : t + 0xE0 = 0xED ↔ t = 13 := by omega
  simp only [first, ofNat_lt_iff hbyte, ofNat_eq_iff hbyte, toNat_ofNat hbyte, UInt8.reduceToNat,
    hzero, hthirteen]
  rw [if_neg (by omega), if_neg (by omega), if_neg (by omega), if_pos (by omega),
    Nat.add_sub_cancel]

theorem first_four {t : Nat} (h : t < 5) :
    first (UInt8.ofNat (t + 0xF0)) =
      .more ⟨3, if t = 0 then 0x90 else 0x80, if t = 4 then 0x8F else 0xBF, t⟩ := by
  have hbyte : t + 0xF0 < 256 := by omega
  have hzero : t + 0xF0 = 0xF0 ↔ t = 0 := by omega
  have hfour : t + 0xF0 = 0xF4 ↔ t = 4 := by omega
  simp only [first, ofNat_lt_iff hbyte, ofNat_eq_iff hbyte, toNat_ofNat hbyte, UInt8.reduceToNat,
    hzero, hfour]
  rw [if_neg (by omega), if_neg (by omega), if_neg (by omega), if_neg (by omega),
    if_pos (by omega), Nat.add_sub_cancel]

/-! ## Continuation bytes -/

/-- A continuation byte within the bounds adds its six bits. -/
theorem next_of_bounds (p : Pending) {t : Nat} (h : t < 64) (hlow : p.low.toNat ≤ t + 0x80)
    (hhigh : t + 0x80 ≤ p.high.toNat) :
    p.next (UInt8.ofNat (t + 0x80)) =
      if p.owed ≤ 1 then .char (Char.ofNat (p.value * 64 + t))
      else .more ⟨p.owed - 1, 0x80, 0xBF, p.value * 64 + t⟩ := by
  have hbounds : p.low ≤ UInt8.ofNat (t + 0x80) ∧ UInt8.ofNat (t + 0x80) ≤ p.high := by
    rw [UInt8.le_iff_toNat_le, UInt8.le_iff_toNat_le, toNat_ofNat (by omega)]
    exact ⟨hlow, hhigh⟩
  rw [Pending.next, if_pos hbounds, toNat_ofNat (by omega), Nat.add_sub_cancel]

/-- A continuation byte without further bounds. -/
theorem next_free (owed value : Nat) {t : Nat} (h : t < 64) :
    Pending.next ⟨owed, 0x80, 0xBF, value⟩ (UInt8.ofNat (t + 0x80)) =
      if owed ≤ 1 then .char (Char.ofNat (value * 64 + t))
      else .more ⟨owed - 1, 0x80, 0xBF, value * 64 + t⟩ := by
  have hhigh : t + 0x80 ≤ (0xBF : UInt8).toNat := by
    show t + 0x80 ≤ 0xBF
    omega
  have hlow : (0x80 : UInt8).toNat ≤ t + 0x80 := by
    show 0x80 ≤ t + 0x80
    omega
  exact next_of_bounds ⟨owed, 0x80, 0xBF, value⟩ h hlow hhigh

/-! ## Characters -/

/-- A scalar value is outside the surrogates and below the end of the code space. -/
theorem scalar_toNat (c : Char) : c.toNat < 0xD800 ∨ (0xDFFF < c.toNat ∧ c.toNat < 0x110000) :=
  c.valid

/-- Reading the bytes of a character gives the character. -/
theorem scanFrom_encodeChar (c : Char) (rest : Bytes) :
    scanFrom none (String.utf8EncodeChar c ++ rest) = some c :: scanFrom none rest := by
  have hscalar := scalar_toNat c
  have hchar : Char.ofNat c.toNat = c := Char.ofNat_toNat c
  simp only [String.utf8EncodeChar]
  generalize hv : c.val.toNat = v
  have hv : c.toNat = v := hv
  rw [hv] at hscalar hchar
  -- Each case reads the first byte and then six bits from each of the others.
  by_cases hone : v ≤ 0x7F
  · rw [if_pos hone, List.cons_append, List.nil_append, scanFrom, first_one hone, hchar]
  rw [if_neg hone]
  by_cases htwo : v ≤ 0x7FF
  · have hvalue : v / 64 % 0x20 * 64 + v % 0x40 = v := by omega
    rw [if_pos htwo]
    simp only [List.cons_append, List.nil_append]
    rw [scanFrom, first_two (by omega) (by omega)]
    dsimp only
    rw [scanFrom, next_free 1 _ (by omega), if_pos (by omega), hvalue, hchar]
  rw [if_neg htwo]
  by_cases hthree : v ≤ 0xFFFF
  · have hvalue : (v / 4096 % 0x10 * 64 + v / 64 % 0x40) * 64 + v % 0x40 = v := by omega
    -- Forms longer than needed and surrogates are excluded by the bounds on the second byte.
    have hlow : (if v / 4096 % 0x10 = 0 then 0xA0 else 0x80 : UInt8).toNat ≤
        v / 64 % 0x40 + 0x80 := by
      split
      · show 0xA0 ≤ v / 64 % 0x40 + 0x80
        omega
      · show 0x80 ≤ v / 64 % 0x40 + 0x80
        omega
    have hhigh : v / 64 % 0x40 + 0x80 ≤
        (if v / 4096 % 0x10 = 13 then 0x9F else 0xBF : UInt8).toNat := by
      split
      · show v / 64 % 0x40 + 0x80 ≤ 0x9F
        omega
      · show v / 64 % 0x40 + 0x80 ≤ 0xBF
        omega
    rw [if_pos hthree]
    simp only [List.cons_append, List.nil_append]
    rw [scanFrom, first_three (by omega)]
    dsimp only
    rw [scanFrom, next_of_bounds _ (by omega) hlow hhigh, if_neg (show ¬ 2 ≤ 1 by decide)]
    dsimp only
    rw [scanFrom, next_free 1 _ (by omega), if_pos (by omega), hvalue, hchar]
  · have hvalue : ((v / 262144 % 0x08 * 64 + v / 4096 % 0x40) * 64 + v / 64 % 0x40) * 64 +
        v % 0x40 = v := by omega
    have hlow : (if v / 262144 % 0x08 = 0 then 0x90 else 0x80 : UInt8).toNat ≤
        v / 4096 % 0x40 + 0x80 := by
      split
      · show 0x90 ≤ v / 4096 % 0x40 + 0x80
        omega
      · show 0x80 ≤ v / 4096 % 0x40 + 0x80
        omega
    have hhigh : v / 4096 % 0x40 + 0x80 ≤
        (if v / 262144 % 0x08 = 4 then 0x8F else 0xBF : UInt8).toNat := by
      split
      · show v / 4096 % 0x40 + 0x80 ≤ 0x8F
        omega
      · show v / 4096 % 0x40 + 0x80 ≤ 0xBF
        omega
    rw [if_neg hthree]
    simp only [List.cons_append, List.nil_append]
    rw [scanFrom, first_four (by omega)]
    dsimp only
    rw [scanFrom, next_of_bounds _ (by omega) hlow hhigh, if_neg (show ¬ 3 ≤ 1 by decide)]
    dsimp only
    rw [scanFrom, next_free 2 _ (by omega), if_neg (by omega)]
    dsimp only
    rw [scanFrom, next_free 1 _ (by omega), if_pos (by omega), hvalue, hchar]

/-! ## Texts -/

/-- Reading goes on after the bytes of a text. -/
theorem scan_encode_append (s : String) (rest : Bytes) :
    scan (encode s ++ rest) = s.toList.map some ++ scan rest := by
  unfold scan encode
  induction s.toList with
  | nil => rfl
  | cons c cs ih =>
      rw [List.flatMap_cons, List.append_assoc, scanFrom_encodeChar, ih, List.map_cons,
        List.cons_append]

/-- Reading the bytes of a text gives its characters. -/
theorem scan_encode (s : String) : scan (encode s) = s.toList.map some := by
  have h := scan_encode_append s []
  rwa [List.append_nil, show scan [] = [] from rfl, List.append_nil] at h

/-- Reading the bytes of a text gives the text. -/
@[simp] theorem lossy_encode (s : String) : lossy (encode s) = s := by
  rw [lossy, scan_encode, List.map_map]
  have hid : ((fun r : Option Char => r.getD replacement) ∘ some) = id := rfl
  rw [hid, List.map_id, String.ofList_toList]

/-- The bytes of a text are well formed. -/
@[simp] theorem decode?_encode (s : String) : decode? (encode s) = some s := by
  have hall : (s.toList.map some).all Option.isSome = true := by simp
  have hid : (s.toList.map some).filterMap id = s.toList := by simp
  rw [decode?, scan_encode, if_pos hall, hid, String.ofList_toList]

/-- A character of ASCII is one byte. -/
theorem encodeChar_of_lt (c : Char) (h : c.toNat < 0x80) :
    String.utf8EncodeChar c = [UInt8.ofNat c.toNat] := by
  have hone : c.val.toNat ≤ 0x7F := Nat.le_of_lt_succ h
  simp only [String.utf8EncodeChar]
  rw [if_pos hone]
  rfl

/-- The byte of an ASCII character. -/
def asciiByte (c : Char) : UInt8 := UInt8.ofNat c.toNat

/-- The bytes of an ASCII text are those of its characters. -/
theorem encode_ofList_ascii {cs : List Char} (h : ∀ c ∈ cs, c.toNat < 0x80) :
    encode (String.ofList cs) = cs.map asciiByte := by
  rw [encode, String.toList_ofList]
  induction cs with
  | nil => rfl
  | cons c rest ih =>
      obtain ⟨hc, hrest⟩ := List.forall_mem_cons.mp h
      rw [List.flatMap_cons, encodeChar_of_lt c hc, ih hrest]
      rfl

/-- Only the empty text has no bytes. -/
theorem encode_ne_nil (s : String) (h : s.toList ≠ []) : encode s ≠ [] := by
  obtain ⟨c, rest, hs⟩ := List.exists_cons_of_ne_nil h
  rw [encode, hs, List.flatMap_cons]
  exact List.append_ne_nil_of_left_ne_nil String.utf8EncodeChar_ne_nil _

/-- A byte below 128 is all of its character. -/
theorem eq_of_mem_encodeChar (c : Char) (b : UInt8) (h : b ∈ String.utf8EncodeChar c)
    (hb : b < 0x80) : c.toNat = b.toNat := by
  have hhigh (t n : Nat) (ht : t + n < 256) (hn : 0x80 ≤ n) : b ≠ UInt8.ofNat (t + n) := by
    rintro rfl
    have hlt : t + n < 0x80 := (ofNat_lt_iff ht 0x80).mp hb
    omega
  simp only [String.utf8EncodeChar] at h
  split at h
  · rw [List.mem_singleton.mp h, toNat_ofNat (by omega)]
    rfl
  · split at h
    · simp only [List.mem_cons, List.not_mem_nil, or_false] at h
      rcases h with h | h
      · exact absurd h (hhigh _ _ (by omega) (by omega))
      · exact absurd h (hhigh _ _ (by omega) (by omega))
    · split at h
      · simp only [List.mem_cons, List.not_mem_nil, or_false] at h
        rcases h with h | h | h
        · exact absurd h (hhigh _ _ (by omega) (by omega))
        · exact absurd h (hhigh _ _ (by omega) (by omega))
        · exact absurd h (hhigh _ _ (by omega) (by omega))
      · simp only [List.mem_cons, List.not_mem_nil, or_false] at h
        rcases h with h | h | h | h
        · exact absurd h (hhigh _ _ (by omega) (by omega))
        · exact absurd h (hhigh _ _ (by omega) (by omega))
        · exact absurd h (hhigh _ _ (by omega) (by omega))
        · exact absurd h (hhigh _ _ (by omega) (by omega))

/-- A byte with which a character may begin. -/
def isFirst (b : UInt8) : Bool := b < 0x80 || 0xC0 ≤ b

theorem isFirst_ofNat {n : Nat} (h : n < 256) :
    isFirst (UInt8.ofNat n) = decide (n < 0x80 ∨ 0xC0 ≤ n) := by
  have hall : ∀ n < 256, isFirst (UInt8.ofNat n) = decide (n < 0x80 ∨ 0xC0 ≤ n) := by
    decide +kernel
  exact hall n h

/-- Only the first byte of a character is one with which a character may begin. -/
theorem exists_encodeChar (c : Char) : ∃ b rest, String.utf8EncodeChar c = b :: rest ∧
    isFirst b = true ∧ rest.countP isFirst = 0 := by
  have hmore (n : Nat) : ¬ isFirst (UInt8.ofNat (n % 0x40 + 0x80)) = true := by
    rw [isFirst_ofNat (by omega), decide_eq_true_eq]
    omega
  have hfirst (t n : Nat) (ht : t + n < 256) (hn : 0xC0 ≤ n) :
      isFirst (UInt8.ofNat (t + n)) = true := by
    rw [isFirst_ofNat ht, decide_eq_true_eq]
    omega
  simp only [String.utf8EncodeChar, List.countP_eq_zero]
  split
  · refine ⟨_, _, rfl, ?_, List.forall_mem_nil _⟩
    rw [isFirst_ofNat (by omega), decide_eq_true_eq]
    omega
  · split
    · exact ⟨_, _, rfl, hfirst _ _ (by omega) (by decide),
        List.forall_mem_singleton.mpr (hmore _)⟩
    · split
      · exact ⟨_, _, rfl, hfirst _ _ (by omega) (by decide), List.forall_mem_cons.mpr
          ⟨hmore _, List.forall_mem_singleton.mpr (hmore _)⟩⟩
      · exact ⟨_, _, rfl, hfirst _ _ (by omega) (by decide), List.forall_mem_cons.mpr
          ⟨hmore _, List.forall_mem_cons.mpr ⟨hmore _, List.forall_mem_singleton.mpr (hmore _)⟩⟩⟩

/-- A text has as many characters as first bytes. -/
theorem countP_isFirst_encode (s : String) : (encode s).countP isFirst = s.toList.length := by
  unfold encode
  induction s.toList with
  | nil => rfl
  | cons c rest ih =>
      obtain ⟨b, more, hc, hb, hmore⟩ := exists_encodeChar c
      rw [List.flatMap_cons, List.countP_append, ih, hc, List.countP_cons_of_pos hb, hmore,
        List.length_cons, Nat.zero_add, Nat.add_comm]

/-- The bytes of a text begin with a first byte. -/
theorem isFirst_of_encode_eq_cons {s : String} {b : UInt8} {rest : Bytes}
    (h : encode s = b :: rest) : isFirst b = true := by
  unfold encode at h
  cases hs : s.toList with
  | nil =>
      rw [hs] at h
      cases h
  | cons c cs =>
      obtain ⟨b', more, hc, hb', -⟩ := exists_encodeChar c
      rw [hs, List.flatMap_cons, hc, List.cons_append] at h
      exact (List.cons.inj h).1 ▸ hb'

/-- A text whose bytes occur in those of another one is that text, unless the other one has more
characters. -/
theorem eq_of_encode_infix {s t : String} (h : encode s <:+: encode t)
    (hlength : t.toList.length ≤ s.toList.length) : s = t := by
  obtain ⟨before, after, happend⟩ := h
  have hcount := congrArg (List.countP isFirst) happend
  rw [List.countP_append, List.countP_append, countP_isFirst_encode,
    countP_isFirst_encode] at hcount
  -- All first bytes belong to the text itself, so that nothing stands before it.
  have hbefore : before = [] := by
    cases before with
    | nil => rfl
    | cons b rest =>
        have hnone : (b :: rest).countP isFirst = 0 := by omega
        exact absurd (isFirst_of_encode_eq_cons happend.symm)
          (List.countP_eq_zero.mp hnone b List.mem_cons_self)
  subst hbefore
  have hscan := congrArg scan happend
  rw [List.nil_append, scan_encode_append, scan_encode] at hscan
  have hlead : s.toList <+: t.toList :=
    (List.prefix_map_iff_of_injective fun _ _ => Option.some.inj).mp ⟨_, hscan⟩
  exact String.toList_inj.mp (hlead.eq_of_length_le hlength)

/-- A line feed among the bytes of a text is one of its characters. -/
theorem mem_of_lineFeed_mem_encode (s : String) (h : 0x0A ∈ encode s) : '\n' ∈ s.toList := by
  obtain ⟨c, hc, hbyte⟩ := List.mem_flatMap.mp h
  have hnat := eq_of_mem_encodeChar c 0x0A hbyte (by decide)
  have hchar : c = '\n' := Char.toNat_inj.mp hnat
  rwa [← hchar]

end Fingerprinting.Utf8
