/-
# What is read as a hexadecimal escape

Two notations write bytes as hexadecimal numerals: `\x41` in payloads of probes and `%41` in URIs of
platform names.  Both readers take two bytes as a numeral, and a numeral may be a plus sign and one
digit, so `\x+5` and `%+5` are escapes as well.

* `unescapeBytes?_append` reads a payload in two parts, cut at a backslash that is not escaped;
* `unescapeBytes?_eq_none_iff` says which payloads cannot be read;
* `unpercents_unpercent` says how a component of a URI is read, and `unpercents_digits_iff` which
  components are read as if only two digits were a numeral.
-/
import Fingerprinting.Proofs.Text.HexPairs
import Fingerprinting.Proofs.Text.Marks

namespace Fingerprinting

open Text

/-! ## Payloads -/

namespace Nmap

/-- An escape without a numeral spoils a payload. -/
theorem unescapeBytes?_of_startsNumeral_eq_false (after : Bytes) (h : startsNumeral after = false) :
    unescapeBytes? (0x5C :: 0x78 :: after) = none := by
  cases after with
  | nil => rfl
  | cons a after =>
      cases after with
      | nil => rfl
      | cons b rest =>
          have hpair : isNumeral a b = false := h
          rw [unescapeBytes?_numeral, numeralByte?_eq, hpair]
          rfl

/-- A payload with a numeral is read as what the numeral writes and what follows it. -/
theorem unescapeBytes?_of_isNumeral (a b : UInt8) (rest : Bytes) (h : isNumeral a b = true) :
    unescapeBytes? (0x5C :: 0x78 :: a :: b :: rest) =
      (unescapeBytes? rest).map (numeral a b :: ·) := by
  rw [unescapeBytes?_numeral, numeralByte?_eq, if_pos h, Option.bind_some]

/-- No numeral has a backslash. -/
theorem ne_backslash_of_isNumeral {a b : UInt8} (h : isNumeral a b = true) :
    a ≠ 0x5C ∧ b ≠ 0x5C := by
  constructor
  · rintro rfl
    exact absurd ((Bool.and_eq_true _ _).mp h).2 (by decide)
  · rintro rfl
    exact absurd ((Bool.and_eq_true _ _).mp h).1 (by decide)

/-- What is too short for a numeral begins none, and a backslash after it does not complete one. -/
theorem startsNumeral_short {before : Bytes}
    (h : ∀ x y more, before = x :: y :: more → False) (rest : Bytes) :
    startsNumeral before = false ∧ startsNumeral (before ++ 0x5C :: rest) = false := by
  cases before with
  | nil =>
      refine ⟨rfl, Bool.eq_false_iff.mpr fun hnumeral => ?_⟩
      cases rest with
      | nil => cases hnumeral
      | cons y rest => exact (ne_backslash_of_isNumeral hnumeral).1 rfl
  | cons x before =>
      cases before with
      | nil => exact ⟨rfl, Bool.eq_false_iff.mpr fun hn => (ne_backslash_of_isNumeral hn).2 rfl⟩
      | cons y more => exact (h x y more rfl).elim

/-- A payload is read in two parts when it is cut at a backslash that is not escaped. -/
theorem unescapeBytes?_append (before rest : Bytes) (h : IsFree 0x5C before) :
    unescapeBytes? (before ++ 0x5C :: rest) =
      (unescapeBytes? before).bind fun u => (unescapeBytes? (0x5C :: rest)).map (u ++ ·) := by
  induction before using unescapeBytes?.induct with
  | case1 => simp [unescapeBytes?.eq_def []]
  | case2 b before hb ih =>
      rw [List.cons_append, unescapeBytes?_plain _ _ hb, unescapeBytes?_plain _ _ hb,
        ih ((isFree_cons_of_ne hb before).mp h)]
      cases unescapeBytes? before <;> cases unescapeBytes? (0x5C :: rest) <;> rfl
  | case3 b hb =>
      obtain rfl := not_not.mp hb
      exact absurd h (not_isFree_singleton _)
  | case4 b hb c before hc ih =>
      obtain rfl := not_not.mp hb
      rw [List.cons_append, List.cons_append, unescapeBytes?_escaped _ _ hc,
        unescapeBytes?_escaped _ _ hc, ih ((isFree_cons_mark_cons _ c before).mp h)]
      cases unescapeBytes? before <;> cases unescapeBytes? (0x5C :: rest) <;> simp
  | case5 b hb c hc x y before ih =>
      obtain rfl := not_not.mp hb
      obtain rfl := not_not.mp hc
      simp only [List.cons_append]
      cases hnumeral : isNumeral x y with
      | true =>
          obtain ⟨hx, hy⟩ := ne_backslash_of_isNumeral hnumeral
          have hfree : IsFree 0x5C before :=
            (isFree_cons_of_ne hy before).mp ((isFree_cons_of_ne hx _).mp
              ((isFree_cons_mark_cons _ _ _).mp h))
          rw [unescapeBytes?_of_isNumeral _ _ _ hnumeral,
            unescapeBytes?_of_isNumeral _ _ _ hnumeral, ih hfree]
          cases unescapeBytes? before <;> cases unescapeBytes? (0x5C :: rest) <;> rfl
      | false =>
          have hspoilt (more : Bytes) : startsNumeral (x :: y :: more) = false := hnumeral
          rw [unescapeBytes?_of_startsNumeral_eq_false _ (hspoilt _),
            unescapeBytes?_of_startsNumeral_eq_false _ (hspoilt _), Option.bind_none]
  | case6 b hb c before hc hshort =>
      obtain rfl := not_not.mp hb
      obtain rfl := not_not.mp hc
      obtain ⟨hbefore, hwhole⟩ := startsNumeral_short hshort rest
      rw [List.cons_append, List.cons_append, unescapeBytes?_of_startsNumeral_eq_false _ hbefore,
        unescapeBytes?_of_startsNumeral_eq_false _ hwhole, Option.bind_none]

/-- A payload cannot be read exactly when some escape `\x` has no numeral after it. -/
theorem unescapeBytes?_eq_none_iff (payload : Bytes) :
    unescapeBytes? payload = none ↔
      ∃ before after, payload = before ++ 0x5C :: 0x78 :: after ∧ IsFree 0x5C before ∧
        startsNumeral after = false := by
  constructor
  · intro h
    induction payload using unescapeBytes?.induct with
    | case1 => cases h
    | case2 b rest hb ih =>
        rw [unescapeBytes?_plain _ _ hb, Option.map_eq_none_iff] at h
        obtain ⟨before, after, rfl, hfree, hafter⟩ := ih h
        exact ⟨b :: before, after, rfl, (isFree_cons_of_ne hb before).mpr hfree, hafter⟩
    | case3 b hb =>
        obtain rfl := not_not.mp hb
        cases h
    | case4 b hb c rest hc ih =>
        obtain rfl := not_not.mp hb
        rw [unescapeBytes?_escaped _ _ hc, Option.map_eq_none_iff] at h
        obtain ⟨before, after, rfl, hfree, hafter⟩ := ih h
        exact ⟨0x5C :: c :: before, after, rfl, (isFree_cons_mark_cons _ c before).mpr hfree, hafter⟩
    | case5 b hb c hc x y rest ih =>
        obtain rfl := not_not.mp hb
        obtain rfl := not_not.mp hc
        cases hnumeral : isNumeral x y with
        | true =>
            obtain ⟨hx, hy⟩ := ne_backslash_of_isNumeral hnumeral
            rw [unescapeBytes?_of_isNumeral _ _ _ hnumeral, Option.map_eq_none_iff] at h
            obtain ⟨before, after, rfl, hfree, hafter⟩ := ih h
            refine ⟨0x5C :: 0x78 :: x :: y :: before, after, rfl, ?_, hafter⟩
            rwa [isFree_cons_mark_cons, isFree_cons_of_ne hx, isFree_cons_of_ne hy]
        | false => exact ⟨[], x :: y :: rest, rfl, isFree_nil _, hnumeral⟩
    | case6 b hb c rest hc hshort =>
        obtain rfl := not_not.mp hb
        obtain rfl := not_not.mp hc
        exact ⟨[], rest, rfl, isFree_nil _, (startsNumeral_short hshort []).1⟩
  · rintro ⟨before, after, rfl, hfree, hafter⟩
    rw [unescapeBytes?_append _ _ hfree, unescapeBytes?_of_startsNumeral_eq_false _ hafter]
    exact Option.bind_eq_none_iff.mpr fun u _ => rfl

/-- A payload cannot be read exactly when its bytes cannot. -/
theorem exists_unescapePayload_eq_error_iff (s : String) :
    (∃ e, unescapePayload s = .error e) ↔ unescapeBytes? (Utf8.encode s) = none := by
  unfold unescapePayload
  cases unescapeBytes? (Utf8.encode s) with
  | none => exact ⟨fun _ => rfl, fun _ => ⟨_, rfl⟩⟩
  | some b =>
      refine ⟨?_, fun h => nomatch h⟩
      rintro ⟨e, h⟩
      cases h

end Nmap

/-! ## Percent notation -/

namespace Cpe

/-- How a component of a URI is read when `reads` says which two bytes are a numeral: a percent sign
and a numeral after it are one byte, and everything else stands for itself. -/
inductive Unpercents (reads : UInt8 → UInt8 → Bool) : Bytes → Bytes → Prop
  | nil : Unpercents reads [] []
  | numeral {a b : UInt8} {rest out : Bytes} (h : reads a b = true)
      (hrest : Unpercents reads rest out) :
      Unpercents reads (0x25 :: a :: b :: rest) (Text.numeral a b :: out)
  | copy {c : UInt8} {rest out : Bytes}
      (h : c = 0x25 → ∀ a b more, rest = a :: b :: more → reads a b = false)
      (hrest : Unpercents reads rest out) : Unpercents reads (c :: rest) (c :: out)

theorem unpercent_of_isNumeral (a b : UInt8) (rest : Bytes) (h : isNumeral a b = true) :
    unpercent (0x25 :: a :: b :: rest) = numeral a b :: unpercent rest := by
  rw [unpercent, pairValue?_eq, if_pos h]

/-- A byte that begins no numeral stands for itself. -/
theorem unpercent_cons (c : UInt8) (rest : Bytes)
    (h : c = 0x25 → ∀ a b more, rest = a :: b :: more → isNumeral a b = false) :
    unpercent (c :: rest) = c :: unpercent rest := by
  by_cases hc : c = 0x25
  · subst hc
    match rest with
    | [] => rfl
    | [_] => rfl
    | a :: b :: more =>
        rw [unpercent, pairValue?_eq, h rfl a b more rfl]
        rfl
  · rw [unpercent]
    exact fun _ _ _ hpercent _ => hc hpercent

/-- What is read as a numeral is what `isNumeral` says. -/
theorem unpercents_unpercent (s : Bytes) : Unpercents isNumeral s (unpercent s) := by
  induction s using unpercent.induct with
  | case1 a b rest x hx ih =>
      rw [pairValue?_eq, Option.ite_none_right_eq_some] at hx
      rw [unpercent_of_isNumeral _ _ _ hx.1]
      exact .numeral hx.1 ih
  | case2 a b rest hnone ih =>
      have hnumeral : isNumeral a b = false := by
        rw [pairValue?_eq] at hnone
        cases hab : isNumeral a b with
        | true => rw [hab] at hnone; cases hnone
        | false => rfl
      have hcopy : ∀ x y more, a :: b :: rest = x :: y :: more → isNumeral x y = false := by
        rintro x y more heq
        cases heq
        exact hnumeral
      rw [unpercent_cons _ _ fun _ => hcopy]
      exact .copy (fun _ => hcopy) ih
  | case3 x rest hplain ih =>
      have hcopy : x = 0x25 → ∀ a b more, rest = a :: b :: more → isNumeral a b = false :=
        fun hx a b more hrest => (hplain a b more hx hrest).elim
      rw [unpercent_cons _ _ hcopy]
      exact .copy hcopy ih
  | case4 => exact .nil

/-- Some percent sign is followed by a plus sign and a digit. -/
def HasPlus (s : Bytes) : Prop :=
  ∃ before h after, s = before ++ 0x25 :: 0x2B :: h :: after ∧ isHexDigit h = true

/-- What a plus sign and a digit write is no percent sign. -/
theorem numeral_plus_ne (d : UInt8) (h : isHexDigit d = true) : numeral 0x2B d ≠ 0x25 := by
  intro hpercent
  have hlt := hexValue_lt d h
  have hvalue : (numeral 0x2B d).toNat = hexValue d := by
    rw [numeral, if_pos rfl, Nat.toUInt8, Utf8.toNat_ofNat (by omega)]
  rw [hpercent] at hvalue
  have hnat : (0x25 : UInt8).toNat = 0x25 := rfl
  omega

/-- A percent sign that stands for itself when only digits count does so when it stands for itself
at all. -/
theorem unpercent_eq_of_head {c : UInt8} {rest out : Bytes}
    (h : c = 0x25 → ∀ a b more, rest = a :: b :: more → isDigits a b = false)
    (hout : c :: out = unpercent (c :: rest)) :
    out = unpercent rest ∧ (c = 0x25 → ∀ d more, rest = 0x2B :: d :: more → isHexDigit d = false) := by
  have hcopy : c = 0x25 → ∀ a b more, rest = a :: b :: more → isNumeral a b = false := by
    rintro rfl a b more rfl
    refine Bool.eq_false_iff.mpr fun hnumeral => ?_
    obtain ⟨rfl, hb⟩ := eq_plus_of_isNumeral hnumeral (h rfl a b more rfl)
    rw [unpercent_of_isNumeral _ _ _ hnumeral] at hout
    exact numeral_plus_ne b hb (List.cons.inj hout).1.symm
  rw [unpercent_cons _ _ hcopy] at hout
  refine ⟨(List.cons.inj hout).2, fun hc d more hrest => ?_⟩
  have hplus := hcopy hc _ _ _ hrest
  rwa [isNumeral, Bool.or_comm, beq_self_eq_true, Bool.true_or, Bool.and_true] at hplus

/-- A plus sign that the digits of a numeral are not part of comes after them. -/
theorem hasPlus_of_isDigits {a b : UInt8} {rest : Bytes} (h : isDigits a b = true)
    (hplus : HasPlus (0x25 :: a :: b :: rest)) : HasPlus rest := by
  obtain ⟨ha, hb⟩ := (Bool.and_eq_true _ _).mp h
  obtain ⟨before, d, after, heq, hd⟩ := hplus
  match before with
  | [] =>
      cases heq
      exact absurd ha (by decide)
  | [_] =>
      cases heq
      exact absurd ha (by decide)
  | [_, _] =>
      cases heq
      exact absurd hb (by decide)
  | _ :: _ :: _ :: before =>
      cases heq
      exact ⟨before, d, after, rfl, hd⟩

/-- A component is read as if only two digits were a numeral exactly when no percent sign has a plus
sign and a digit after it. -/
theorem unpercents_digits_iff (s : Bytes) : Unpercents isDigits s (unpercent s) ↔ ¬ HasPlus s := by
  constructor
  · intro h
    generalize hout : unpercent s = out at h
    induction h with
    | nil =>
        rintro ⟨before, d, after, heq, -⟩
        exact absurd heq.symm (List.append_ne_nil_of_right_ne_nil before (List.cons_ne_nil _ _))
    | numeral h _ ih =>
        rw [unpercent_of_isNumeral _ _ _ (isNumeral_of_isDigits h)] at hout
        exact fun hplus => ih (List.cons.inj hout).2 (hasPlus_of_isDigits h hplus)
    | copy h _ ih =>
        obtain ⟨hrest, hhead⟩ := unpercent_eq_of_head h hout.symm
        rintro ⟨before, d, after, heq, hd⟩
        match before with
        | [] =>
            cases heq
            exact absurd hd (Bool.eq_false_iff.mp (hhead rfl d after rfl))
        | _ :: before =>
            cases heq
            exact ih hrest.symm ⟨before, d, after, rfl, hd⟩
  · intro hplus
    have h := unpercents_unpercent s
    generalize unpercent s = out at h
    induction h with
    | nil => exact .nil
    | @numeral a b rest out h _ ih =>
        have hrest : ¬ HasPlus rest := fun ⟨before, d, after, heq, hd⟩ =>
          hplus ⟨0x25 :: a :: b :: before, d, after, by rw [heq]; rfl, hd⟩
        refine .numeral ?_ (ih hrest)
        by_contra hdigits
        obtain ⟨rfl, hb⟩ := eq_plus_of_isNumeral h (Bool.eq_false_iff.mpr hdigits)
        exact hplus ⟨[], b, rest, rfl, hb⟩
    | @copy c rest out h _ ih =>
        have hrest : ¬ HasPlus rest := fun ⟨before, d, after, heq, hd⟩ =>
          hplus ⟨c :: before, d, after, by rw [heq]; rfl, hd⟩
        refine .copy (fun hc a b more heq => ?_) (ih hrest)
        have hnumeral := h hc a b more heq
        exact Bool.eq_false_iff.mpr fun hdigits =>
          Bool.eq_false_iff.mp hnumeral (isNumeral_of_isDigits hdigits)

end Cpe

/-! ## Both notations -/

/-- Two bytes after `\x` or a percent sign are read as a byte exactly when they are a numeral, that
is two digits or a plus sign and a digit.  A payload cannot be read exactly when some `\x` that is
not itself escaped has no numeral after it, and where it has one its byte stands between what is
read before and after it.  In a URI a percent sign and a numeral are one byte and everything else
stands for itself; so it is read by two digits alone exactly when no percent sign has a plus sign
and a digit after it. -/
theorem hexadecimal_escapes (s : String) :
    ((∃ e, Nmap.unescapePayload s = .error e) ↔
      ∃ before after, Utf8.encode s = before ++ 0x5C :: 0x78 :: after ∧ IsFree 0x5C before ∧
        startsNumeral after = false) ∧
    (∀ before a b after, Utf8.encode s = before ++ 0x5C :: 0x78 :: a :: b :: after →
      IsFree 0x5C before → isNumeral a b = true →
        Nmap.unescapeBytes? (Utf8.encode s) = (Nmap.unescapeBytes? before).bind fun u =>
          (Nmap.unescapeBytes? after).map fun v => u ++ numeral a b :: v) ∧
    ∃ out, Cpe.unbindUri s = Utf8.lossy out ∧ Cpe.Unpercents isNumeral (Utf8.encode s) out ∧
      (Cpe.Unpercents isDigits (Utf8.encode s) out ↔ ¬ Cpe.HasPlus (Utf8.encode s)) := by
  refine ⟨?_, ?_, Cpe.unpercent (Utf8.encode s), rfl, Cpe.unpercents_unpercent _,
    Cpe.unpercents_digits_iff _⟩
  · rw [Nmap.exists_unescapePayload_eq_error_iff, Nmap.unescapeBytes?_eq_none_iff]
  · intro before a b after hs hfree hnumeral
    rw [hs, Nmap.unescapeBytes?_append _ _ hfree, Nmap.unescapeBytes?_of_isNumeral _ _ _ hnumeral]
    simp only [Option.map_map, Function.comp_def]

/-- A plus sign and a digit are read as a byte in both notations. -/
theorem hexadecimal_escapes_of_plus :
    Nmap.unescapeBytes? (Utf8.encode "\\x+5") = some [0x05] ∧
      ∃ out, Cpe.unbindUri "v%+5" = Utf8.lossy out ∧
        ¬ Cpe.Unpercents isDigits (Utf8.encode "v%+5") out := by
  constructor
  · exact (hexadecimal_escapes "\\x+5").2.1 [] 0x2B 0x35 [] (by decide) (isFree_nil _) (by decide)
  · obtain ⟨-, -, out, hout, -, hdigits⟩ := hexadecimal_escapes "v%+5"
    refine ⟨out, hout, fun h => hdigits.mp h ⟨[0x76], 0x35, [], by decide, by decide⟩⟩

end Fingerprinting
