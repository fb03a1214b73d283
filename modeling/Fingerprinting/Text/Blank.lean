/-
# Blanks, trimming and lines

A blank is a character with the Unicode property White_Space.  Trimming removes blanks at the ends
of a text, and `lines` cuts a text at line feeds.
-/

namespace Fingerprinting.Text

/-! ## Blanks -/

/-- The Unicode property White_Space. -/
def isBlank (c : Char) : Bool :=
  let n := c.toNat
  (0x09 ≤ n && n ≤ 0x0D) || n == 0x20 || n == 0x85 || n == 0xA0 || n == 0x1680 ||
    (0x2000 ≤ n && n ≤ 0x200A) || n == 0x2028 || n == 0x2029 || n == 0x202F || n == 0x205F ||
    n == 0x3000

/-- The five ASCII blanks of the regular grammar of text protocols: space, tab, line feed, form feed
and carriage return. -/
def isAsciiBlank (c : Char) : Bool :=
  c == ' ' || c == '\t' || c == '\n' || c == '\x0c' || c == '\r'

/-! ## Trimming -/

/-- Remove the leading characters that satisfy `p`. -/
def trimStartChars (p : Char → Bool) (cs : List Char) : List Char := cs.dropWhile p

/-- Remove the trailing characters that satisfy `p`. -/
def trimEndChars (p : Char → Bool) (cs : List Char) : List Char := (cs.reverse.dropWhile p).reverse

/-- Remove the characters that satisfy `p` at both ends. -/
def trimChars (p : Char → Bool) (cs : List Char) : List Char := trimEndChars p (trimStartChars p cs)

/-- Remove the blanks at both ends. -/
def trim (s : String) : String := String.ofList (trimChars isBlank s.toList)

/-- Remove the leading blanks. -/
def trimStart (s : String) : String := String.ofList (trimStartChars isBlank s.toList)

/-- Remove the trailing blanks. -/
def trimEnd (s : String) : String := String.ofList (trimEndChars isBlank s.toList)

/-! ## Cutting -/

/-- The pieces between the characters that satisfy `p`; there is always at least one. -/
def splitWhere (p : Char → Bool) : List Char → List (List Char)
  | [] => [[]]
  | c :: rest =>
      if p c then [] :: splitWhere p rest
      else
        match splitWhere p rest with
        | [] => [[c]]
        | piece :: pieces => (c :: piece) :: pieces

/-- The pieces of a text between occurrences of a character. -/
def splitOn (sep : Char) (s : String) : List String :=
  (splitWhere (· == sep) s.toList).map String.ofList

/-- The parts before and after the first character that satisfies `p`, if there is one. -/
def cutWhere (p : Char → Bool) (cs : List Char) : Option (List Char × List Char) :=
  match cs.dropWhile fun c => !p c with
  | [] => none
  | _ :: rest => some (cs.takeWhile fun c => !p c, rest)

/-- The parts of a text before and after the first occurrence of a character. -/
def cut (sep : Char) (s : String) : Option (String × String) :=
  (cutWhere (· == sep) s.toList).map fun (a, b) => (String.ofList a, String.ofList b)

/-- The parts of a text before and after the last occurrence of a character. -/
def cutLast (sep : Char) (s : String) : Option (String × String) :=
  (cutWhere (· == sep) s.toList.reverse).map fun (a, b) =>
    (String.ofList b.reverse, String.ofList a.reverse)

/-- The words of a text: the longest runs without blanks. -/
def words (s : String) : List String :=
  ((splitWhere isBlank s.toList).filter fun w => !w.isEmpty).map String.ofList

/-- What follows `lead` in a text that begins with it. -/
def stripStart (lead : List Char) (cs : List Char) : Option (List Char) :=
  if lead.isPrefixOf cs then some (cs.drop lead.length) else none

/-- What follows `lead` in a text that begins with it. -/
def after (lead s : String) : Option String :=
  (stripStart lead.toList s.toList).map String.ofList

/-- What precedes `tail` in a text that ends with it. -/
def before (tail s : String) : Option String :=
  (stripStart tail.toList.reverse s.toList.reverse).map fun cs => String.ofList cs.reverse

/-! ## Lines -/

/-- A line without the carriage return that ended it. -/
def dropReturn (cs : List Char) : List Char :=
  if cs.getLast? = some '\r' then cs.dropLast else cs

/-- The lines of a text.  Each ends at a line feed, with a carriage return before it if there is
one; what follows the last line feed is a line when it is not empty. -/
def lineChars (cs : List Char) : List (List Char) :=
  let pieces := splitWhere (· == '\n') cs
  let ended := pieces.dropLast.map dropReturn
  match pieces.getLast? with
  | some [] => ended
  | some last => ended ++ [last]
  | none => ended

/-- The lines of a text. -/
def lines (s : String) : List String := (lineChars s.toList).map String.ofList

/-! ## Joining -/

/-- Texts with `sep` between them. -/
def join (sep : String) (parts : List String) : String :=
  String.ofList (List.intercalate sep.toList (parts.map String.toList))

end Fingerprinting.Text
