/-
# Reading ports

A port is written as a numeral, and the mark of a UDP port may stand before it, with blanks around
either.  Ports are read by whoever sends a request and by the scanner.  Both take the number that is
written so, and nothing else for one; but the sender makes do with port 80 where there is no number,
and the scanner with no port, there and where the number is zero.

* `writes_iff` says when a text writes a port, and `number?_eq_none_iff` when it writes none;
* `parse_eq` says what the sender makes of a text, and `port?_eq_some_iff` and `port?_eq_none_iff`
  what the scanner makes of it;
* `writes_line` says that a port is written as it is shown.
-/
import Mathlib.Data.List.Basic
import Fingerprinting.Nmap.Scan
import Fingerprinting.Service.Port
import Fingerprinting.Proofs.Text.Numeral
import Fingerprinting.Proofs.Text.Pieces

namespace Fingerprinting.PortSpec

/-! ## Ports as they are written -/

/-- A text writes a port: it is a numeral, or the mark of a UDP port and a numeral, with blanks
before, between and after them. -/
inductive Writes : PortSpec → List Char → Prop where
  | plain {n : Nat} {before numeral after : List Char}
      (hbefore : ∀ c ∈ before, Text.isBlank c = true) (hnumeral : Text.IsDecimal n numeral)
      (hafter : ∀ c ∈ after, Text.isBlank c = true) (hn : n ≤ Text.max16) :
      Writes ⟨n, false⟩ (before ++ numeral ++ after)
  | marked {n : Nat} {letter : Char} {before gap numeral after : List Char}
      (hbefore : ∀ c ∈ before, Text.isBlank c = true) (hletter : letter = 'U' ∨ letter = 'u')
      (hgap : ∀ c ∈ gap, Text.isBlank c = true) (hnumeral : Text.IsDecimal n numeral)
      (hafter : ∀ c ∈ after, Text.isBlank c = true) (hn : n ≤ Text.max16) :
      Writes ⟨n, true⟩ (before ++ letter :: ':' :: (gap ++ numeral) ++ after)

/-! ## What is read -/

/-- What is left of a text when its blanks are removed. -/
def body (s : String) : List Char := Text.trimChars Text.isBlank s.toList

/-- Whether a text begins with the mark of a UDP port. -/
def isMarked (s : String) : Bool := (afterMark? (body s)).isSome

/-- The number that a text has, after the mark if there is one. -/
def number? (s : String) : Option Nat :=
  Text.decimal? Text.max16 (Text.trim (String.ofList ((afterMark? (body s)).getD (body s))))

/-- The sender and the scanner know the same marks. -/
theorem afterUdpMark?_eq (cs : List Char) : Nmap.afterUdpMark? cs = afterMark? cs := by
  unfold Nmap.afterUdpMark? afterMark?
  split
  · simp
  · simp
  · rename_i hupper hlower
    split
    · rename_i u rest
      rw [if_neg]
      rintro (rfl | rfl)
      · exact hupper rest rfl
      · exact hlower rest rfl
    · rfl

/-- The sender takes port 80 where there is no number. -/
theorem parse_eq (s : String) : parse s = ⟨(number? s).getD 80, isMarked s⟩ := by
  rw [parse, number?, isMarked, body, Text.trim, String.toList_ofList]
  cases afterMark? (Text.trimChars Text.isBlank s.toList) with
  | none => rfl
  | some rest => rfl

/-- The scanner takes nothing there, and nothing where the number is zero. -/
theorem port?_eq (s : String) :
    Nmap.port? s = ((number? s).filter (· != 0)).map fun n => (n, isMarked s) := by
  unfold Nmap.port?
  dsimp only
  rw [afterUdpMark?_eq, number?, isMarked, body, Text.trim, String.toList_ofList]
  cases afterMark? (Text.trimChars Text.isBlank s.toList) with
  | none => rfl
  | some rest => rfl

/-! ## Reading what is written -/

/-- A numeral has no blanks. -/
theorem isTrimmed_of_isDecimal {n : Nat} {cs : List Char} (h : Text.IsDecimal n cs) :
    Text.IsTrimmed cs := by
  refine Text.isTrimmed_of_forall cs fun c hc => ?_
  have hrange := h.toNat_of_mem c hc
  simp [Text.isBlank]
  omega

theorem afterMark?_eq_some_iff (cs rest : List Char) :
    afterMark? cs = some rest ↔
      ∃ letter, (letter = 'U' ∨ letter = 'u') ∧ cs = letter :: ':' :: rest := by
  constructor
  · intro h
    unfold afterMark? at h
    split at h
    · rename_i letter more
      obtain ⟨hletter, hrest⟩ := Option.ite_none_right_eq_some.mp h
      cases hrest
      exact ⟨letter, hletter, rfl⟩
    · cases h
  · rintro ⟨letter, hletter, rfl⟩
    exact if_pos hletter

/-- A numeral does not begin with a mark. -/
theorem afterMark?_of_isDecimal {n : Nat} {cs : List Char} (h : Text.IsDecimal n cs) :
    afterMark? cs = none := by
  rw [Option.eq_none_iff_forall_ne_some]
  intro rest hrest
  obtain ⟨letter, hletter, rfl⟩ := (afterMark?_eq_some_iff _ _).mp hrest
  have hrange := h.toNat_of_mem letter List.mem_cons_self
  rcases hletter with rfl | rfl <;> exact absurd hrange (by decide)

/-- A text that begins with a mark and ends with a numeral has no blank at either end. -/
theorem isTrimmed_of_mark {letter : Char} {gap numeral : List Char} {n : Nat}
    (hletter : letter = 'U' ∨ letter = 'u') (h : Text.IsDecimal n numeral) :
    Text.IsTrimmed (letter :: ':' :: (gap ++ numeral)) := by
  constructor
  · intro c hc
    cases hc
    rcases hletter with rfl | rfl
    · rfl
    · rfl
  · intro c hc
    have hlast : (letter :: ':' :: (gap ++ numeral)).getLast? = numeral.getLast? :=
      List.getLast?_append_of_ne_nil (letter :: ':' :: gap) h.ne_nil
    rw [hlast] at hc
    exact (isTrimmed_of_isDecimal h).2 c hc

/-- A number is read from a numeral with blanks around it. -/
theorem decimal?_trim_eq_some_iff (n : Nat) (cs : List Char) :
    Text.decimal? Text.max16 (Text.trim (String.ofList cs)) = some n ↔
      Text.IsDecimal n (Text.trimChars Text.isBlank cs) ∧ n ≤ Text.max16 := by
  rw [Text.decimal?_eq_some_iff, Text.trim, String.toList_ofList, String.toList_ofList]

/-- The number and the mark of a port are read from what writes it. -/
theorem Writes.number?_eq {p : PortSpec} {s : String} (h : p.Writes s.toList) :
    number? s = some p.port ∧ isMarked s = p.udp := by
  generalize hs : s.toList = cs at h
  cases h with
  | plain hbefore hnumeral hafter hn =>
      rename_i n before numeral after
      have htrimmed := isTrimmed_of_isDecimal hnumeral
      have hbody : body s = numeral := by
        rw [body, hs, Text.trimChars_append hbefore htrimmed hafter]
      have hmark : afterMark? (body s) = none := hbody ▸ afterMark?_of_isDecimal hnumeral
      rw [number?, isMarked, hmark, Option.getD_none, decimal?_trim_eq_some_iff, hbody,
        Text.trimChars_of_isTrimmed _ htrimmed]
      exact ⟨⟨hnumeral, hn⟩, rfl⟩
  | marked hbefore hletter hgap hnumeral hafter hn =>
      rename_i n letter before gap numeral after
      have htrimmed := isTrimmed_of_isDecimal hnumeral
      have hrest : Text.trimChars Text.isBlank (gap ++ numeral) = numeral := by
        have htrim := Text.trimChars_append hgap htrimmed (List.forall_mem_nil _)
        rwa [List.append_nil] at htrim
      have hends : Text.IsTrimmed (letter :: ':' :: (gap ++ numeral)) :=
        isTrimmed_of_mark hletter hnumeral
      have hbody : body s = letter :: ':' :: (gap ++ numeral) := by
        rw [body, hs, Text.trimChars_append hbefore hends hafter]
      have hmark := (afterMark?_eq_some_iff _ _).mpr ⟨letter, hletter, hbody⟩
      rw [number?, isMarked, hmark, Option.getD_some, decimal?_trim_eq_some_iff, hrest]
      exact ⟨⟨hnumeral, hn⟩, rfl⟩

/-- A text whose number is read writes it. -/
theorem writes_of_number? {s : String} {n : Nat} (h : number? s = some n) :
    Writes ⟨n, isMarked s⟩ s.toList := by
  obtain ⟨before, after, hs, hbefore, hafter⟩ := Text.exists_trimChars s.toList
  rw [number?] at h
  rw [isMarked]
  cases hmark : afterMark? (body s) with
  | none =>
      rw [hmark, Option.getD_none, decimal?_trim_eq_some_iff, body,
        Text.trimChars_of_isTrimmed _ (Text.isTrimmed_trimChars _)] at h
      rw [hs]
      exact .plain hbefore h.1 hafter h.2
  | some rest =>
      rw [hmark, Option.getD_some, decimal?_trim_eq_some_iff] at h
      obtain ⟨letter, hletter, hbody⟩ := (afterMark?_eq_some_iff _ _).mp hmark
      obtain ⟨gap, more, hrest, hgap, hmore⟩ := Text.exists_trimChars rest
      -- What follows the numeral are blanks of the rest and then blanks of the whole.
      have htext : s.toList = before ++ letter :: ':' ::
          (gap ++ Text.trimChars Text.isBlank rest) ++ (more ++ after) := by
        rw [body] at hbody
        rw [hbody, hrest] at hs
        simpa using hs
      rw [htext]
      refine .marked hbefore hletter hgap h.1 (fun c hc => ?_) h.2
      exact (List.mem_append.mp hc).elim (hmore c) (hafter c)

/-- A text writes a port exactly when that is the number and the mark which are read. -/
theorem writes_iff (p : PortSpec) (s : String) :
    p.Writes s.toList ↔ number? s = some p.port ∧ isMarked s = p.udp := by
  constructor
  · intro h
    exact h.number?_eq
  · rintro ⟨hnumber, hmarked⟩
    have hwrites := writes_of_number? hnumber
    rwa [hmarked] at hwrites

/-- A text without a number writes no port. -/
theorem number?_eq_none_iff (s : String) :
    number? s = none ↔ ∀ p : PortSpec, ¬ p.Writes s.toList := by
  constructor
  · intro hnone p hp
    rw [hp.number?_eq.1] at hnone
    cases hnone
  · intro hnone
    cases hnumber : number? s with
    | none => rfl
    | some n => exact absurd (writes_of_number? hnumber) (hnone _)

/-- A port that is written is read as that port. -/
theorem Writes.parse_eq {p : PortSpec} {s : String} (h : p.Writes s.toList) : parse s = p := by
  obtain ⟨hnumber, hmarked⟩ := h.number?_eq
  rw [PortSpec.parse_eq, hnumber, hmarked]
  rfl

/-- The scanner takes exactly the ports that are written, but not port zero. -/
theorem port?_eq_some_iff (s : String) (n : Nat) (udp : Bool) :
    Nmap.port? s = some (n, udp) ↔ Writes ⟨n, udp⟩ s.toList ∧ n ≠ 0 := by
  rw [port?_eq, writes_iff, Option.map_eq_some_iff]
  simp only [Option.filter_eq_some_iff, bne_iff_ne, Prod.mk.injEq]
  constructor
  · rintro ⟨m, ⟨hnumber, hne⟩, rfl, rfl⟩
    exact ⟨⟨hnumber, rfl⟩, hne⟩
  · rintro ⟨⟨hnumber, hmarked⟩, hne⟩
    exact ⟨n, ⟨hnumber, hne⟩, rfl, hmarked⟩

/-- The scanner takes nothing where the sender does without a number or reads port zero. -/
theorem port?_eq_none_iff (s : String) :
    Nmap.port? s = none ↔ number? s = none ∨ (parse s).port = 0 := by
  rw [port?_eq, Option.map_eq_none_iff, Option.filter_eq_none_iff, parse_eq]
  cases number? s with
  | none => simp
  | some n => simp

/-- A port is written as it is shown. -/
theorem writes_line (p : PortSpec) (h : p.port ≤ Text.max16) : p.Writes p.line.toList := by
  obtain ⟨n, udp⟩ := p
  have hnumeral := Text.isDecimal_decimal n
  have hnone : ∀ c ∈ ([] : List Char), Text.isBlank c = true := List.forall_mem_nil _
  cases udp with
  | false =>
      have hplain : Writes ⟨n, false⟩ ([] ++ (Text.decimal n).toList ++ []) :=
        .plain hnone hnumeral hnone h
      rwa [List.nil_append, List.append_nil] at hplain
  | true =>
      have hmarked :
          Writes ⟨n, true⟩ ([] ++ 'U' :: ':' :: ([] ++ (Text.decimal n).toList) ++ []) :=
        .marked hnone (.inl rfl) hnone hnumeral hnone h
      rw [line, if_pos rfl, String.toList_append]
      rwa [List.nil_append, List.nil_append, List.append_nil] at hmarked

/-- The number of a port that is written has sixteen bits. -/
theorem Writes.le_max16 {p : PortSpec} {s : String} (h : p.Writes s.toList) :
    p.port ≤ Text.max16 :=
  Text.le_of_decimal? _ _ _ h.number?_eq.1

end Fingerprinting.PortSpec
