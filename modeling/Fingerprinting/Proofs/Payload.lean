/-
# Payloads written in pieces

A payload may be written piece by piece: as plain text, as escapes, as a hexadecimal segment or as a
segment of Base64.  Whatever stands beside a piece, it is read as its own bytes.  A segment is found
where its mark stands, because no mark ends in the name of the other: the text before a segment can
never complete its name to that of the other kind.

* `Writes` says how bytes are written in a piece;
* `segment?_of_isReady` says that no segment begins inside a text, whatever follows;
* `parse_pieces` reads pieces one after the other.
-/
import Mathlib.Data.List.Forall2
import Fingerprinting.Payload
import Fingerprinting.Proofs.Text.Base64
import Fingerprinting.Proofs.Text.Numeral
import Fingerprinting.Proofs.Text.Pieces

namespace Fingerprinting.Payload

/-! ## Pieces -/

/-- Two hexadecimal digits in either case write a byte. -/
def IsPair (hi lo : Char) (b : UInt8) : Prop :=
  Text.hexDigitValue? hi = some (b.toNat / 16) ∧ Text.hexDigitValue? lo = some (b.toNat % 16)

/-- Pairs of digits write some bytes. -/
inductive Pairs : List Char → Bytes → Prop
  | nil : Pairs [] []
  | cons {hi lo : Char} {b : UInt8} {cs : List Char} {bytes : Bytes} (pair : IsPair hi lo b)
      (rest : Pairs cs bytes) : Pairs (hi :: lo :: cs) (b :: bytes)

/-- Escapes by number write some bytes. -/
inductive Escapes : List Char → Bytes → Prop
  | nil : Escapes [] []
  | cons {hi lo : Char} {b : UInt8} {cs : List Char} {bytes : Bytes} (pair : IsPair hi lo b)
      (rest : Escapes cs bytes) : Escapes ('\\' :: 'x' :: hi :: lo :: cs) (b :: bytes)

/-- A piece of a payload writes some bytes. -/
inductive Writes : List Char → Bytes → Prop
  /-- Plain text without a backslash and without a bar stands for itself. -/
  | text {cs : List Char} (backslash : '\\' ∉ cs) (bar : '|' ∉ cs) :
      Writes cs (Utf8.encode (String.ofList cs))
  /-- Every byte is an escape. -/
  | escapes {cs : List Char} {bytes : Bytes} (h : Escapes cs bytes) : Writes cs bytes
  /-- A hexadecimal segment, in which blanks may stand between the digits. -/
  | hex {cs : List Char} {bytes : Bytes}
      (h : Pairs (cs.filter fun c => !Text.isAsciiBlank c) bytes) :
      Writes (Segment.hex.mark ++ cs ++ ['|']) bytes
  /-- A segment of Base64, which blanks may surround. -/
  | base64 {before after : List Char} {bytes : Bytes}
      (hbefore : ∀ c ∈ before, Text.isBlank c = true)
      (hafter : ∀ c ∈ after, Text.isBlank c = true) :
      Writes (Segment.base64.mark ++ (before ++ Base64.encode bytes ++ after) ++ ['|']) bytes

/-! ## Digits -/

/-- Hexadecimal digits are ASCII, and neither bars nor blanks. -/
theorem of_isHexDigit {c : Char} (h : (Text.hexDigitValue? c).isSome = true) :
    c.toNat < 0x80 ∧ c ≠ '|' ∧ Text.isBlank c = false := by
  have hrange := Text.toNat_of_isHexDigit c h
  refine ⟨by omega, ?_, ?_⟩
  · rintro rfl
    exact absurd hrange (by decide)
  · simp [Text.isBlank]
    omega

theorem digit?_asciiByte {c : Char} (h : c.toNat < 0x80) :
    digit? (Utf8.asciiByte c) = (Text.hexDigitValue? c).map Nat.toUInt8 := by
  rw [digit?, Utf8.asciiByte, Utf8.toNat_ofNat (by omega), Char.ofNat_toNat]

namespace IsPair

variable {hi lo : Char} {b : UInt8} (h : IsPair hi lo b)

include h

theorem isHexDigit : (Text.hexDigitValue? hi).isSome = true ∧
    (Text.hexDigitValue? lo).isSome = true :=
  ⟨Option.isSome_of_eq_some h.1, Option.isSome_of_eq_some h.2⟩

/-- A pair of digits is read as the byte that it writes. -/
theorem pair?_eq : pair? (Utf8.asciiByte hi) (Utf8.asciiByte lo) = some b := by
  have hall : ∀ n < 0x100, (n / 16).toUInt8 * 16 + (n % 16).toUInt8 = UInt8.ofNat n := by
    decide +kernel
  have hvalue := hall b.toNat b.toNat_lt
  rw [UInt8.ofNat_toNat] at hvalue
  obtain ⟨hhi, hlo⟩ := h.isHexDigit
  rw [pair?, digit?_asciiByte (of_isHexDigit hhi).1, digit?_asciiByte (of_isHexDigit hlo).1, h.1,
    h.2]
  exact congrArg some hvalue

end IsPair

namespace Pairs

variable {cs : List Char} {bytes : Bytes}

theorem isHexDigit (h : Pairs cs bytes) : ∀ c ∈ cs, (Text.hexDigitValue? c).isSome = true := by
  induction h with
  | nil => exact List.forall_mem_nil _
  | cons pair _ ih =>
      obtain ⟨hhi, hlo⟩ := pair.isHexDigit
      exact List.forall_mem_cons.mpr ⟨hhi, List.forall_mem_cons.mpr ⟨hlo, ih⟩⟩

theorem length_eq (h : Pairs cs bytes) : cs.length = 2 * bytes.length := by
  induction h with
  | nil => rfl
  | cons _ _ ih =>
      rw [List.length_cons, List.length_cons, List.length_cons, ih]
      omega

/-- Pairs of digits are read as the bytes that they write. -/
theorem pairs?_eq (h : Pairs cs bytes) : pairs? (cs.map Utf8.asciiByte) = some bytes := by
  induction h with
  | nil => rfl
  | cons pair _ ih =>
      rw [List.map_cons, List.map_cons, pairs?, pair.pair?_eq, ih]
      rfl

end Pairs

/-! ## Blanks around a text -/

/-- Trimming keeps what passes a test that no blank passes. -/
theorem filter_trimChars (q : Char → Bool) (cs : List Char)
    (h : ∀ c ∈ cs, Text.isBlank c = true → q c = false) :
    (Text.trimChars Text.isBlank cs).filter q = cs.filter q := by
  have hdrop (cs : List Char) (h : ∀ c ∈ cs, Text.isBlank c = true → q c = false) :
      (cs.dropWhile Text.isBlank).filter q = cs.filter q := by
    induction cs with
    | nil => rfl
    | cons c rest ih =>
        obtain ⟨hc, hrest⟩ := List.forall_mem_cons.mp h
        cases hblank : Text.isBlank c with
        | true =>
            rw [List.dropWhile_cons_of_pos hblank, ih hrest,
              List.filter_cons_of_neg (by rw [hc hblank]; decide)]
        | false => rw [List.dropWhile_cons_of_neg (by rw [hblank]; decide)]
  have hstart : ∀ c ∈ cs.dropWhile Text.isBlank, Text.isBlank c = true → q c = false :=
    fun c hc => h c ((List.dropWhile_suffix _).subset hc)
  rw [Text.trimChars, Text.trimEndChars, Text.trimStartChars, List.filter_reverse,
    hdrop _ fun c hc => hstart c (List.mem_reverse.mp hc), List.filter_reverse,
    List.reverse_reverse, hdrop _ h]

/-! ## Segments -/

/-- The digits of a hexadecimal segment are read as the bytes that they write. -/
theorem hexSegment_of_pairs {cs : List Char} {bytes : Bytes}
    (h : Pairs (cs.filter fun c => !Text.isAsciiBlank c) bytes) : hexSegment cs = .ok bytes := by
  have hdigit := h.isHexDigit
  have htrim : (Text.trim (String.ofList cs)).toList.filter (fun c => !Text.isAsciiBlank c) =
      cs.filter fun c => !Text.isAsciiBlank c := by
    rw [Text.trim, String.toList_ofList, String.toList_ofList]
    refine filter_trimChars _ cs fun c hc hblank => ?_
    by_contra hne
    have hsome := hdigit c (List.mem_filter.mpr ⟨hc, Bool.of_not_eq_false hne⟩)
    rw [(of_isHexDigit hsome).2.2] at hblank
    cases hblank
  have hascii := Utf8.encode_ofList_ascii fun c hc => (of_isHexDigit (hdigit c hc)).1
  have heven : (cs.filter fun c => !Text.isAsciiBlank c).length % 2 = 0 := by
    rw [h.length_eq]
    omega
  unfold hexSegment
  dsimp only
  rw [htrim, hascii, List.length_map, if_neg (by rw [heven]; decide), h.pairs?_eq]

/-- The text of a segment of Base64 is read as the bytes that it writes. -/
theorem base64Segment_of_blanks {before after : List Char} (bytes : Bytes)
    (hbefore : ∀ c ∈ before, Text.isBlank c = true)
    (hafter : ∀ c ∈ after, Text.isBlank c = true) :
    base64Segment (before ++ Base64.encode bytes ++ after) = .ok bytes := by
  have hblank : ∀ c ∈ Base64.encode bytes, Text.isBlank c = false := fun c hc => by
    have hplain := Base64.isPlain_of_mem_encode c hc
    unfold Base64.IsPlain at hplain
    simp [Text.isBlank]
    omega
  rw [base64Segment, Text.trim, String.toList_ofList,
    Text.trimChars_append hbefore (Text.isTrimmed_of_forall _ hblank) hafter,
    Base64.decode?_encode]

/-! ## Texts -/

/-- A text writes some bytes whatever follows it. -/
def Unescapes (cs : List Char) (bytes : Bytes) : Prop :=
  ∀ rest, unescapeBytes (Utf8.encode (String.ofList cs) ++ rest) = bytes ++ unescapeBytes rest

theorem Unescapes.nil : Unescapes [] [] := fun _ => rfl

theorem Unescapes.append {cs cs' : List Char} {bytes bytes' : Bytes} (h : Unescapes cs bytes)
    (h' : Unescapes cs' bytes') : Unescapes (cs ++ cs') (bytes ++ bytes') := by
  intro rest
  rw [String.ofList_append, Utf8.encode_append, List.append_assoc, h, h', List.append_assoc]

theorem unescapeBytes_cons_of_ne {b : UInt8} (h : b ≠ 0x5C) (rest : Bytes) :
    unescapeBytes (b :: rest) = b :: unescapeBytes rest := by
  rw [unescapeBytes]
  · rintro _ _ _ rfl
    exact absurd rfl h
  · rintro _ _ rfl
    exact absurd rfl h

/-- Text without a backslash stands for itself. -/
theorem unescapes_text {cs : List Char} (h : '\\' ∉ cs) :
    Unescapes cs (Utf8.encode (String.ofList cs)) := by
  have hbytes : ∀ b ∈ Utf8.encode (String.ofList cs), b ≠ 0x5C := by
    rintro b hb rfl
    rw [Utf8.encode, String.toList_ofList] at hb
    obtain ⟨c, hc, hb⟩ := List.mem_flatMap.mp hb
    have hnat := Utf8.eq_of_mem_encodeChar c 0x5C hb (by decide)
    have hchar : c = '\\' := Char.toNat_inj.mp hnat
    exact h (hchar ▸ hc)
  intro rest
  generalize Utf8.encode (String.ofList cs) = bytes at hbytes ⊢
  induction bytes with
  | nil => rfl
  | cons b more ih =>
      obtain ⟨hb, hmore⟩ := List.forall_mem_cons.mp hbytes
      rw [List.cons_append, unescapeBytes_cons_of_ne hb, ih hmore, List.cons_append]

/-- Escapes stand for the bytes that they write. -/
theorem Escapes.unescapes {cs : List Char} {bytes : Bytes} (h : Escapes cs bytes) :
    Unescapes cs bytes := by
  induction h with
  | nil => exact .nil
  | @cons hi lo b cs bytes pair _ ih =>
      intro rest
      have hbytes : Utf8.encode (String.ofList ('\\' :: 'x' :: hi :: lo :: cs)) =
          0x5C :: 0x78 :: Utf8.asciiByte hi :: Utf8.asciiByte lo ::
            Utf8.encode (String.ofList cs) := by
        obtain ⟨hhi, hlo⟩ := pair.isHexDigit
        have hascii : ∀ c ∈ ['\\', 'x', hi, lo], c.toNat < 0x80 := by
          simp [(of_isHexDigit hhi).1, (of_isHexDigit hlo).1]
        rw [show '\\' :: 'x' :: hi :: lo :: cs = ['\\', 'x', hi, lo] ++ cs from rfl,
          String.ofList_append, Utf8.encode_append, Utf8.encode_ofList_ascii hascii]
        rfl
      rw [hbytes]
      simp only [List.cons_append, unescapeBytes, pair.pair?_eq, ih rest]

theorem Escapes.bar_not_mem {cs : List Char} {bytes : Bytes} (h : Escapes cs bytes) : '|' ∉ cs := by
  induction h with
  | nil => exact List.not_mem_nil
  | cons pair _ ih =>
      obtain ⟨hhi, hlo⟩ := pair.isHexDigit
      simp only [List.mem_cons, not_or]
      exact ⟨by decide, by decide, (of_isHexDigit hhi).2.1.symm, (of_isHexDigit hlo).2.1.symm, ih⟩

/-! ## What is read of a piece -/

/-- A piece is read as some bytes: as text without a bar, or as a segment that ends at its first
bar. -/
inductive Reads : List Char → Bytes → Prop
  | text {cs : List Char} {bytes : Bytes} (bar : '|' ∉ cs) (h : Unescapes cs bytes) : Reads cs bytes
  | segment (kind : Segment) {inner : List Char} {bytes : Bytes} (bar : '|' ∉ inner)
      (h : kind.decode inner = .ok bytes) : Reads (kind.mark ++ inner ++ ['|']) bytes

/-- What is written in a piece is read of it. -/
theorem Writes.reads {cs : List Char} {bytes : Bytes} (h : Writes cs bytes) : Reads cs bytes := by
  cases h with
  | text backslash bar => exact .text bar (unescapes_text backslash)
  | escapes h => exact .text h.bar_not_mem h.unescapes
  | @hex cs _ h =>
      have hread : Segment.hex.decode cs = .ok bytes := by
        rw [Segment.decode, hexSegment_of_pairs h]
      have hbar : '|' ∉ cs := fun hbar => by
        have hdigit := h.isHexDigit '|' (List.mem_filter.mpr ⟨hbar, by decide⟩)
        exact (of_isHexDigit hdigit).2.1 rfl
      exact .segment .hex hbar hread
  | @base64 before after _ hbefore hafter =>
      have hread : Segment.base64.decode (before ++ Base64.encode bytes ++ after) = .ok bytes := by
        rw [Segment.decode, base64Segment_of_blanks bytes hbefore hafter]
      have hbar : '|' ∉ before ++ Base64.encode bytes ++ after := fun hbar => by
        rcases List.mem_append.mp hbar with hbar | hbar
        · rcases List.mem_append.mp hbar with hbar | hbar
          · exact absurd (hbefore _ hbar) (by decide)
          · exact absurd (Base64.isPlain_of_mem_encode _ hbar) (by decide)
        · exact absurd (hafter _ hbar) (by decide)
      exact .segment .base64 hbar hread

/-! ## Where segments begin -/

/-- A segment begins where its mark stands. -/
theorem segment?_mark (kind : Segment) (rest : List Char) :
    segment? (kind.mark ++ rest) = some (kind, rest) := by
  cases kind <;> rfl

theorem of_segment? {cs rest : List Char} {kind : Segment} (h : segment? cs = some (kind, rest)) :
    cs = kind.mark ++ rest := by
  obtain ⟨kind', -, hkind⟩ := List.exists_of_findSome?_eq_some h
  obtain ⟨rest', hstrip, heq⟩ := Option.map_eq_some_iff.mp hkind
  cases heq
  unfold Text.stripStart at hstrip
  split at hstrip
  · rename_i hlead
    cases hstrip
    exact (List.prefix_iff_eq_append.mp (List.isPrefixOf_iff_prefix.mp hlead)).symm
  · cases hstrip

/-- The name of no kind ends in that of the other. -/
theorem eq_of_name_suffix {kind kind' : Segment} (h : kind'.name.toList <:+ kind.name.toList) :
    kind' = kind := by
  revert h
  cases kind <;> cases kind' <;> decide

theorem bar_not_mem_name (kind : Segment) : '|' ∉ kind.name.toList := by
  cases kind <;> decide

/-- What may follow a text: nothing with a bar, or something whose first bar ends a mark. -/
def IsReady (tail : List Char) : Prop :=
  '|' ∉ tail ∨ ∃ before kind rest, '|' ∉ before ∧ tail = before ++ Segment.mark kind ++ rest

/-- No segment begins inside a text, whatever follows. -/
theorem segment?_of_isReady {tail : List Char} (h : IsReady tail) {cs : List Char} (hne : cs ≠ [])
    (hbar : '|' ∉ cs) : segment? (cs ++ tail) = none := by
  cases hsegment : segment? (cs ++ tail) with
  | none => rfl
  | some found =>
      obtain ⟨kind, rest⟩ := found
      have happend := of_segment? hsegment
      rw [Segment.mark, List.append_assoc, List.singleton_append] at happend
      rcases h with htail | ⟨before, kind', rest', hbefore, rfl⟩
      · have hmem : '|' ∈ cs ++ tail := happend ▸ List.mem_append_right _ List.mem_cons_self
        exact absurd hmem (by simp [hbar, htail])
      · -- Both marks end at the first bar, so the later name is the end of the earlier one.
        have hfirst : '|' ∉ cs ++ before ++ kind'.name.toList := by
          simp [hbar, hbefore, bar_not_mem_name]
        have hcut := Text.cutWhere_append (· == '|') _ rest' '|'
          (Text.beq_eq_false_of_not_mem hfirst) rfl
        have hcut' := Text.cutWhere_append (· == '|') _ rest '|'
          (Text.beq_eq_false_of_not_mem (bar_not_mem_name kind)) rfl
        have hsame : cs ++ (before ++ kind'.mark ++ rest') =
            cs ++ before ++ kind'.name.toList ++ '|' :: rest' := by
          simp [Segment.mark]
        rw [← happend, hsame, hcut, Option.some.injEq, Prod.mk.injEq] at hcut'
        obtain rfl := eq_of_name_suffix ⟨cs ++ before, hcut'.1⟩
        have hnone : cs ++ before = [] := List.append_left_eq_self.mp hcut'.1
        exact absurd (List.append_eq_nil_iff.mp hnone).1 hne

/-! ## Reading on -/

theorem parseFrom_skip (text cs tail : List Char) :
    parseFrom text cs.length (cs ++ tail) = parseFrom text 0 tail := by
  induction cs with
  | nil => rfl
  | cons c rest ih => exact ih

/-- A text is put before what is read next. -/
theorem parseFrom_text {tail : List Char} (h : IsReady tail) {cs : List Char} (hbar : '|' ∉ cs)
    (text : List Char) :
    parseFrom text 0 (cs ++ tail) = parseFrom (cs.reverse ++ text) 0 tail := by
  induction cs generalizing text with
  | nil => rfl
  | cons c rest ih =>
      have hnone := segment?_of_isReady h (List.cons_ne_nil c rest) hbar
      rw [List.cons_append] at hnone ⊢
      rw [parseFrom, hnone]
      rw [ih (fun hmem => hbar (List.mem_cons_of_mem c hmem)), List.reverse_cons, List.append_assoc]
      rfl

/-- A segment is read up to its bar, and what follows on its own. -/
theorem parseFrom_segment (text : List Char) (kind : Segment) {inner : List Char}
    (hbar : '|' ∉ inner) {bytes : Bytes} (h : kind.decode inner = .ok bytes) (tail : List Char) :
    parseFrom text 0 (kind.mark ++ inner ++ ['|'] ++ tail) =
      (parseFrom [] 0 tail).map fun more =>
        unescape (String.ofList text.reverse) ++ bytes ++ more := by
  obtain ⟨c, lead, hmark⟩ : ∃ c lead, kind.mark = c :: lead := by
    cases kind <;> exact ⟨_, _, rfl⟩
  have hsegment : segment? (c :: (lead ++ inner ++ ['|'] ++ tail)) =
      some (kind, inner ++ '|' :: tail) := by
    have hfound := segment?_mark kind (inner ++ '|' :: tail)
    rw [hmark] at hfound
    simpa using hfound
  have hcut : Text.cutWhere (· == '|') (inner ++ '|' :: tail) = some (inner, tail) :=
    Text.cutWhere_append _ _ _ _ (Text.beq_eq_false_of_not_mem hbar) rfl
  have hlength : kind.mark.length + inner.length = (lead ++ inner ++ ['|']).length := by
    rw [hmark, List.length_append, List.length_append, List.length_cons, List.length_singleton]
    omega
  have hsame : kind.mark ++ inner ++ ['|'] ++ tail = c :: (lead ++ inner ++ ['|'] ++ tail) := by
    rw [hmark]
    rfl
  rw [hsame, parseFrom, hsegment]
  dsimp only
  rw [hcut]
  dsimp only
  rw [h, hlength, parseFrom_skip]
  rfl

/-! ## The whole payload -/

/-- What may follow a text in a payload that is written in pieces. -/
theorem isReady_of_reads {texts : List (List Char)} {bytes : List Bytes}
    (h : List.Forall₂ Reads texts bytes) : IsReady texts.flatten := by
  induction h with
  | nil => exact .inl List.not_mem_nil
  | @cons cs b texts bytes hpiece _ ih =>
      rw [List.flatten_cons]
      cases hpiece with
      | text bar _ =>
          rcases ih with hrest | ⟨before, kind, rest, hbefore, hrest⟩
          · exact .inl (by simp [bar, hrest])
          · refine .inr ⟨cs ++ before, kind, rest, by simp [bar, hbefore], ?_⟩
            rw [hrest, List.append_assoc, List.append_assoc, List.append_assoc]
      | @segment kind inner _ _ _ =>
          refine .inr ⟨[], kind, inner ++ ['|'] ++ texts.flatten, List.not_mem_nil, ?_⟩
          simp

/-- Pieces are read one after the other, behind a text that writes some bytes itself. -/
theorem parseFrom_of_reads {texts : List (List Char)} {bytes : List Bytes}
    (h : List.Forall₂ Reads texts bytes) {text : List Char} {done : Bytes}
    (htext : Unescapes text.reverse done) :
    parseFrom text 0 texts.flatten = .ok (done ++ bytes.flatten) := by
  induction h generalizing text done with
  | nil =>
      have hdone := htext []
      rw [List.append_nil] at hdone
      exact congrArg Except.ok hdone
  | @cons cs b texts bytes hpiece hrest ih =>
      rw [List.flatten_cons, List.flatten_cons]
      cases hpiece with
      | text bar hunescapes =>
          -- Texts beside each other are read together, so the text before this one grows.
          rw [parseFrom_text (isReady_of_reads hrest) bar, ← List.append_assoc]
          refine ih ?_
          rw [List.reverse_append, List.reverse_reverse]
          exact htext.append hunescapes
      | segment kind bar hread =>
          have hdone : unescape (String.ofList text.reverse) = done := by
            have hend := htext []
            rwa [List.append_nil, unescapeBytes, List.append_nil] at hend
          have hnone : Unescapes ([] : List Char).reverse [] := .nil
          have hmore := ih hnone
          rw [parseFrom_segment text kind bar hread, hmore, hdone, List.nil_append]
          exact congrArg Except.ok (List.append_assoc done b bytes.flatten)

/-- A payload that is written in pieces is read as the bytes of its pieces, whatever they are and
however they stand beside each other. -/
theorem parse_pieces {texts : List (List Char)} {bytes : List Bytes}
    (h : List.Forall₂ Writes texts bytes) :
    parse (String.ofList texts.flatten) = .ok bytes.flatten := by
  have hreads : List.Forall₂ Reads texts bytes := h.imp fun _ _ => Writes.reads
  have hnone : Unescapes ([] : List Char).reverse [] := .nil
  rw [parse, String.toList_ofList, parseFrom_of_reads hreads hnone]
  rfl

/-- Names of segments beside the marks of others, and digits behind an escape. -/
theorem parse_pieces_of_neighbours : ∃ texts bytes, List.Forall₂ Writes texts bytes ∧
    String.ofList texts.flatten = "b64dehex|4 a|\\x4142b64de| aGk= |hex" ∧
    parse (String.ofList texts.flatten) = .ok bytes.flatten ∧
    bytes.flatten = Utf8.encode "b64deJA42hihex" := by
  have hhex : Writes (Segment.hex.mark ++ ['4', ' ', 'a'] ++ ['|']) [0x4A] :=
    .hex (.cons ⟨by decide, by decide⟩ .nil)
  have hescape : Writes ['\\', 'x', '4', '1'] [0x41] :=
    .escapes (.cons ⟨by decide, by decide⟩ .nil)
  have hbase64 : Writes (Segment.base64.mark ++ ([' '] ++ Base64.encode [0x68, 0x69] ++ [' ']) ++
      ['|']) [0x68, 0x69] :=
    .base64 (List.forall_mem_singleton.mpr rfl) (List.forall_mem_singleton.mpr rfl)
  have htext (s : String) (h : '\\' ∉ s.toList) (h' : '|' ∉ s.toList) :
      Writes s.toList (Utf8.encode (String.ofList s.toList)) := .text h h'
  have hpieces := List.Forall₂.cons (htext "b64de" (by decide) (by decide)) (.cons hhex
    (.cons hescape (.cons (htext "42" (by decide) (by decide)) (.cons hbase64
      (.cons (htext "hex" (by decide) (by decide)) .nil)))))
  exact ⟨_, _, hpieces, by decide +kernel, parse_pieces hpieces, by decide +kernel⟩

end Fingerprinting.Payload
