/-
# The first blank line

A header block is made of lines, and ends at the first blank line.  Where the lines have no line
feeds of their own and are not empty, no blank line comes before that one, whatever the body is.

* `cut_block` finds the end of a block of lines;
* `encode_block` says that the bytes of a block of lines are a block of the bytes of the lines.
-/
import Fingerprinting.Response.Http
import Fingerprinting.Proofs.Text.Lines
import Fingerprinting.Proofs.Text.Utf8

namespace Fingerprinting.Bytes

/-- Lines of bytes with a carriage return and a line feed before each of them but the first. -/
def block (first : Bytes) (lines : List Bytes) : Bytes :=
  first ++ lines.flatMap fun line => 0x0D :: 0x0A :: line

/-! ## Cutting -/

/-- No blank line begins where no line feed follows. -/
theorem blankLine_not_prefix (b c : UInt8) (rest : Bytes) (h : c ≠ 0x0A) :
    blankLine.isPrefixOf (b :: c :: rest) = false := by
  have hc : ((0x0A : UInt8) == c) = false := by
    rw [beq_eq_false_iff_ne]
    exact h.symm
  simp [blankLine, List.isPrefixOf, hc]

/-- No blank line begins inside a line. -/
theorem cut_line (line rest : Bytes) (h : 0x0A ∉ line) :
    cut? blankLine (line ++ 0x0D :: rest) =
      (cut? blankLine (0x0D :: rest)).map fun (before, after) => (line ++ before, after) := by
  induction line with
  | nil => simp
  | cons b line ih =>
      have hline : 0x0A ∉ line := fun hmem => h (List.mem_cons_of_mem _ hmem)
      have hprefix : blankLine.isPrefixOf (b :: (line ++ 0x0D :: rest)) = false := by
        cases line with
        | nil => exact blankLine_not_prefix b 0x0D rest (by decide)
        | cons c line =>
            refine blankLine_not_prefix b c _ ?_
            rintro rfl
            exact hline List.mem_cons_self
      rw [List.cons_append, cut?, if_neg (Bool.eq_false_iff.mp hprefix), ih hline, Option.map_map]
      rfl

/-- No blank line begins before a line that is not empty. -/
theorem cut_lineEnd (line rest : Bytes) (h : 0x0A ∉ line) (hne : line ≠ []) :
    cut? blankLine (0x0D :: 0x0A :: (line ++ 0x0D :: rest)) =
      (cut? blankLine (line ++ 0x0D :: rest)).map fun (before, after) =>
        (0x0D :: 0x0A :: before, after) := by
  obtain ⟨b, line, rfl⟩ := List.exists_cons_of_ne_nil hne
  -- After the line end comes `b` and then a byte that is no line feed.
  have hnext : blankLine.isPrefixOf (0x0D :: 0x0A :: (b :: line ++ 0x0D :: rest)) = false := by
    have hinner : [0x0D, 0x0A].isPrefixOf (b :: line ++ 0x0D :: rest) = false := by
      cases line with
      | nil => simp [List.isPrefixOf]
      | cons c line =>
          have hc : ((0x0A : UInt8) == c) = false := by
            rw [beq_eq_false_iff_ne]
            rintro rfl
            exact h (by simp)
          simp [List.isPrefixOf, hc]
    simpa [blankLine, List.isPrefixOf] using hinner
  have hfeed : blankLine.isPrefixOf (0x0A :: (b :: line ++ 0x0D :: rest)) = false := by
    simp [blankLine, List.isPrefixOf]
  rw [cut?, if_neg (Bool.eq_false_iff.mp hnext), cut?, if_neg (Bool.eq_false_iff.mp hfeed),
    Option.map_map]
  rfl

/-- A block of lines ends at the first blank line. -/
theorem cut_block (first : Bytes) (lines : List Bytes) (body : Bytes) (hfirst : 0x0A ∉ first)
    (h : ∀ line ∈ lines, 0x0A ∉ line ∧ line ≠ []) :
    cut? blankLine (block first lines ++ blankLine ++ body) = some (block first lines, body) := by
  induction lines generalizing first with
  | nil =>
      have hblank : cut? blankLine (0x0D :: 0x0A :: 0x0D :: 0x0A :: body) = some ([], body) := by
        rw [cut?, if_pos (by simp [blankLine, List.isPrefixOf])]
        rfl
      have hshape : block first [] ++ blankLine ++ body =
          first ++ 0x0D :: 0x0A :: 0x0D :: 0x0A :: body := by
        simp [block, blankLine]
      rw [hshape, cut_line first _ hfirst, hblank]
      simp [block]
  | cons line rest ih =>
      obtain ⟨hline, hne⟩ := h line List.mem_cons_self
      have hrest := ih line hline fun l hl => h l (List.mem_cons_of_mem _ hl)
      -- What follows a line begins with a carriage return, that of the next line or of the end.
      obtain ⟨tail, htail⟩ :
          ∃ tail, block line rest ++ blankLine ++ body = line ++ 0x0D :: tail := by
        cases rest with
        | nil => exact ⟨_, by simp [block, blankLine]; rfl⟩
        | cons next rest => exact ⟨_, by simp [block]; rfl⟩
      have hshape : block first (line :: rest) ++ blankLine ++ body =
          first ++ 0x0D :: 0x0A :: (block line rest ++ blankLine ++ body) := by
        simp [block]
      rw [hshape, cut_line first _ hfirst, htail, cut_lineEnd line tail hline hne, ← htail, hrest]
      simp [block]

/-! ## Encoding -/

/-- The bytes of a block of lines. -/
theorem encode_block (first : List Char) (lines : List (List Char)) :
    Utf8.encode (String.ofList (Text.block first lines)) =
      block (Utf8.encode (String.ofList first))
        (lines.map fun line => Utf8.encode (String.ofList line)) := by
  have hreturn : String.utf8EncodeChar '\r' = [0x0D] := rfl
  have hfeed : String.utf8EncodeChar '\n' = [0x0A] := rfl
  induction lines generalizing first with
  | nil => simp [Text.block, block]
  | cons line rest ih =>
      have hbytes (f l : Bytes) (ls : List Bytes) :
          block f (l :: ls) = f ++ 0x0D :: 0x0A :: block l ls := by
        simp [block]
      have hline := ih line
      simp only [Utf8.encode, String.toList_ofList] at hline ⊢
      rw [Text.block_cons, List.flatMap_append, List.flatMap_cons, List.flatMap_cons, hreturn,
        hfeed, hline, List.map_cons, hbytes]
      rfl

end Fingerprinting.Bytes
