/-
# The tokens of a logic

Which tokens a text is made of, said without a reader: blanks stand for nothing, parentheses and `!`
for themselves, `&` and `|` come in pairs, and the longest run of word characters is a word, which
is an operator when it spells one.

Main statement: `tokens_eq_ok_iff` says that a text is read as some tokens when it is made of them.
-/
import Mathlib.Tactic.Common
import Fingerprinting.Goby.Logic
import Fingerprinting.Proofs.Results

namespace Fingerprinting.Goby

/-! ## Texts and their tokens -/

/-- A word spells a token: an operator in any ASCII case, or itself. -/
inductive Spells (text : String) : Token → Prop where
  | and (h : Text.asciiLower text = "and") : Spells text .and
  | or (h : Text.asciiLower text = "or") : Spells text .or
  | not (h : Text.asciiLower text = "not") : Spells text .not
  | word (h : Text.asciiLower text ∉ ["and", "or", "not"]) : Spells text (.word text)

/-- A text is made of some tokens. -/
inductive Lexes : List Char → List Token → Prop where
  | done : Lexes [] []
  /-- What can be part of a word is not read as a blank. -/
  | blank {c : Char} {rest : List Char} {ts : List Token} (hc : Text.isBlank c = true)
      (hword : isWordChar c = false) (h : Lexes rest ts) : Lexes (c :: rest) ts
  | leftParen {rest : List Char} {ts : List Token} (h : Lexes rest ts) :
      Lexes ('(' :: rest) (.leftParen :: ts)
  | rightParen {rest : List Char} {ts : List Token} (h : Lexes rest ts) :
      Lexes (')' :: rest) (.rightParen :: ts)
  | not {rest : List Char} {ts : List Token} (h : Lexes rest ts) :
      Lexes ('!' :: rest) (.not :: ts)
  | and {rest : List Char} {ts : List Token} (h : Lexes rest ts) :
      Lexes ('&' :: '&' :: rest) (.and :: ts)
  | or {rest : List Char} {ts : List Token} (h : Lexes rest ts) :
      Lexes ('|' :: '|' :: rest) (.or :: ts)
  /-- No word ends before a character that could go on with it. -/
  | word {word rest : List Char} {t : Token} {ts : List Token} (hne : word ≠ [])
      (hword : ∀ c ∈ word, isWordChar c = true)
      (hrest : ∀ c, rest.head? = some c → isWordChar c = false)
      (ht : Spells (String.ofList word) t) (h : Lexes rest ts) : Lexes (word ++ rest) (t :: ts)

/-! ## Words and marks -/

theorem spells_iff (text : String) (t : Token) : Spells text t ↔ wordToken text = t := by
  constructor
  · intro h
    cases h with
    | and h => simp [wordToken, h]
    | or h => simp [wordToken, h]
    | not h => simp [wordToken, h]
    | word h =>
        simp only [List.mem_cons, List.not_mem_nil, or_false, not_or] at h
        unfold wordToken
        split <;> simp_all
  · rintro rfl
    unfold wordToken
    split
    · exact .and ‹_›
    · exact .or ‹_›
    · exact .not ‹_›
    · refine .word ?_
      simp_all

/-- The marks of a logic are neither blank nor part of a word. -/
theorem isWordChar_mark : ∀ c ∈ ['(', ')', '!', '&', '|'],
    ¬ isWordChar c = true ∧ ¬ Text.isBlank c = true := by
  have hall : (['(', ')', '!', '&', '|'].all fun c => !isWordChar c && !Text.isBlank c) = true := by
    decide
  intro c hc
  simpa using List.all_eq_true.mp hall c hc

/-! ## Open words -/

section

variable (logic : String)

/-- The characters of a word are kept until it ends. -/
theorem tokensFrom_word {w : List Char} (hw : ∀ c ∈ w, isWordChar c = true) (word : List Char)
    (place : Nat) (rest : List Char) :
    ∃ next, tokensFrom logic word none place (w ++ rest) =
      tokensFrom logic (w.reverse ++ word) none next rest := by
  induction w generalizing word place with
  | nil => exact ⟨place, rfl⟩
  | cons c w ih =>
      obtain ⟨hc, hw⟩ := List.forall_mem_cons.mp hw
      obtain ⟨next, hnext⟩ := ih hw (c :: word) (place + c.utf8Size)
      refine ⟨next, ?_⟩
      rw [List.cons_append, tokensFrom, if_pos hc, hnext, List.reverse_cons, List.append_assoc,
        List.singleton_append]

/-- A word that is open ends before a character that cannot go on with it. -/
theorem tokensFrom_close (word : List Char) (place : Nat) {cs : List Char}
    (h : ∀ c, cs.head? = some c → isWordChar c = false) :
    tokensFrom logic word none place cs =
      (tokensFrom logic [] none place cs).map (tokensFrom.closeWord word) := by
  cases cs with
  | nil => rfl
  | cons c rest =>
      have hc : ¬ isWordChar c = true := Bool.eq_false_iff.mp (h c rfl)
      simp only [tokensFrom, if_neg hc]
      split_ifs
      -- Either way some tokens are read after this character, or there is an error.
      · cases tokensFrom logic [] none (place + c.utf8Size) rest <;> rfl
      · cases tokensFrom logic [] none (place + c.utf8Size) rest <;> rfl
      · cases tokensFrom logic [] none (place + c.utf8Size) rest <;> rfl
      · cases tokensFrom logic [] none (place + c.utf8Size) rest <;> rfl
      · cases tokensFrom logic [] (some (c, place)) (place + c.utf8Size) rest <;> rfl
      · rfl

/-- After the first half of an operator comes the other one. -/
theorem tokensFrom_half {op : Char} {start place : Nat} {cs : List Char} {ts : List Token} :
    tokensFrom logic [] (some (op, start)) place cs = .ok ts ↔
      ∃ rest more, cs = op :: rest ∧ ts = (if op = '&' then .and else .or) :: more ∧
        tokensFrom logic [] none (place + op.utf8Size) rest = .ok more := by
  cases cs with
  | nil => simp [tokensFrom]
  | cons c rest =>
      rw [tokensFrom]
      by_cases hc : c = op
      · subst hc
        rw [if_pos rfl, Results.bind_eq_ok_iff]
        constructor
        · rintro ⟨more, hmore, hts⟩
          cases hts
          exact ⟨rest, more, rfl, rfl, hmore⟩
        · rintro ⟨rest', more, hrest, rfl, hmore⟩
          cases hrest
          exact ⟨more, hmore, rfl⟩
      · rw [if_neg hc]
        simp [hc]

/-! ## What is read -/

/-- A word that is open stands before what is read after it. -/
theorem Lexes.closeWord {word rest : List Char} {more : List Token}
    (hword : ∀ c ∈ word, isWordChar c = true)
    (hrest : ∀ c, rest.head? = some c → isWordChar c = false) (h : Lexes rest more) :
    Lexes (word.reverse ++ rest) (tokensFrom.closeWord word more) := by
  unfold tokensFrom.closeWord
  cases word with
  | nil => exact h
  | cons c cs =>
      refine .word (by simp) (fun d hd => hword d (List.mem_reverse.mp hd)) hrest ?_ h
      exact (spells_iff _ _).mpr rfl

/-- What is read as some tokens is made of them, also when a word is open before it, and when the
first half of an operator is. -/
theorem lexes_of_tokensFrom (cs : List Char) :
    (∀ word place ts, (∀ c ∈ word, isWordChar c = true) →
      tokensFrom logic word none place cs = .ok ts → Lexes (word.reverse ++ cs) ts) ∧
    ∀ op start place ts, op = '&' ∨ op = '|' →
      tokensFrom logic [] (some (op, start)) place cs = .ok ts → Lexes (op :: cs) ts := by
  -- Each of the two states leads to the other, so they share the induction on the characters.
  induction cs with
  | nil =>
      refine ⟨fun word place ts hword h => ?_, fun op start place ts hop h => by cases h⟩
      cases h
      exact Lexes.closeWord hword (by simp) .done
  | cons c rest ih =>
      obtain ⟨ihWord, ihHalf⟩ := ih
      constructor
      · intro word place ts hword h
        by_cases hc : isWordChar c = true
        · rw [tokensFrom, if_pos hc] at h
          have hcs := ihWord _ _ _ (List.forall_mem_cons.mpr ⟨hc, hword⟩) h
          rwa [List.reverse_cons, List.append_assoc] at hcs
        · have hhead : ∀ d, (c :: rest).head? = some d → isWordChar d = false := by
            intro d hd
            cases hd
            exact Bool.eq_false_iff.mpr hc
          rw [tokensFrom_close logic word place hhead, Results.map_eq_ok_iff] at h
          obtain ⟨read, hread, rfl⟩ := h
          refine Lexes.closeWord hword hhead ?_
          rw [tokensFrom, if_neg hc] at hread
          split_ifs at hread with hblank hleft hright hnot hop
          · obtain ⟨more, hmore, hts⟩ := (Results.bind_eq_ok_iff _ _ _).mp hread
            cases hts
            exact .blank hblank (hhead c rfl) (ihWord [] _ _ (by simp) hmore)
          · obtain ⟨more, hmore, hts⟩ := (Results.bind_eq_ok_iff _ _ _).mp hread
            cases hts
            rw [hleft]
            exact .leftParen (ihWord [] _ _ (by simp) hmore)
          · obtain ⟨more, hmore, hts⟩ := (Results.bind_eq_ok_iff _ _ _).mp hread
            cases hts
            rw [hright]
            exact .rightParen (ihWord [] _ _ (by simp) hmore)
          · obtain ⟨more, hmore, hts⟩ := (Results.bind_eq_ok_iff _ _ _).mp hread
            cases hts
            rw [hnot]
            exact .not (ihWord [] _ _ (by simp) hmore)
          · obtain ⟨more, hmore, hts⟩ := (Results.bind_eq_ok_iff _ _ _).mp hread
            cases hts
            exact ihHalf c _ _ _ hop hmore
      · intro op start place ts hop h
        obtain ⟨rest', more, hcs, rfl, hmore⟩ := (tokensFrom_half logic).mp h
        cases hcs
        have hrest := ihWord [] _ _ (by simp) hmore
        rcases hop with rfl | rfl
        · exact .and hrest
        · exact .or hrest

/-- What a text is made of is read. -/
theorem Lexes.tokensFrom {cs : List Char} {ts : List Token} (h : Lexes cs ts) (place : Nat) :
    tokensFrom logic [] none place cs = .ok ts := by
  induction h generalizing place with
  | done => rfl
  | blank hc hword _ ih =>
      rw [Goby.tokensFrom, if_neg (Bool.eq_false_iff.mp hword), if_pos hc, ih]
      rfl
  | leftParen _ ih =>
      obtain ⟨hword, hblank⟩ := isWordChar_mark '(' (by decide)
      rw [Goby.tokensFrom, if_neg hword, if_neg hblank, if_pos rfl, ih]
      rfl
  | rightParen _ ih =>
      obtain ⟨hword, hblank⟩ := isWordChar_mark ')' (by decide)
      rw [Goby.tokensFrom, if_neg hword, if_neg hblank, if_neg (by decide), if_pos rfl, ih]
      rfl
  | not _ ih =>
      obtain ⟨hword, hblank⟩ := isWordChar_mark '!' (by decide)
      rw [Goby.tokensFrom, if_neg hword, if_neg hblank, if_neg (by decide), if_neg (by decide),
        if_pos rfl, ih]
      rfl
  | and _ ih =>
      obtain ⟨hword, hblank⟩ := isWordChar_mark '&' (by decide)
      rw [Goby.tokensFrom, if_neg hword, if_neg hblank, if_neg (by decide), if_neg (by decide),
        if_neg (by decide), if_pos (by decide),
        (tokensFrom_half logic).mpr ⟨_, _, rfl, rfl, ih _⟩]
      rfl
  | or _ ih =>
      obtain ⟨hword, hblank⟩ := isWordChar_mark '|' (by decide)
      rw [Goby.tokensFrom, if_neg hword, if_neg hblank, if_neg (by decide), if_neg (by decide),
        if_neg (by decide), if_pos (by decide),
        (tokensFrom_half logic).mpr ⟨_, _, rfl, rfl, ih _⟩]
      rfl
  | @word word rest t ts hne hword hrest ht _ ih =>
      obtain ⟨next, hnext⟩ := tokensFrom_word logic hword [] place rest
      rw [hnext, tokensFrom_close logic _ _ hrest, ih, (spells_iff _ _).mp ht |>.symm]
      unfold tokensFrom.closeWord
      simp [Except.map, hne]

end

/-- A text is read as some tokens when it is made of them. -/
theorem tokens_eq_ok_iff (logic : String) (ts : List Token) :
    tokens logic = .ok ts ↔ Lexes logic.toList ts := by
  constructor
  · intro h
    exact (lexes_of_tokensFrom logic logic.toList).1 [] 0 ts (by simp) h
  · intro h
    exact h.tokensFrom logic 0

end Fingerprinting.Goby
