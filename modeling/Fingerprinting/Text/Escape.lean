/-
# Escaped text

Text made visible on one line: quotes, backslashes and the common control characters get a
backslash, and other characters that do not print are written by number.
-/
import Fingerprinting.Text.Numeral
import Fingerprinting.Unicode.Category
import Fingerprinting.Unicode.Property

namespace Fingerprinting.Text

/-- Categories of characters that have no visible form of their own. -/
def unprintableCategories : List String := ["cc", "cf", "cs", "co", "cn", "zl", "zp", "zs"]

/-- Characters without a visible form, the space excepted. -/
def unprintable : Unicode.RangeSet :=
  let all := (unprintableCategories.filterMap Unicode.category?).foldl
    Unicode.RangeSet.union Unicode.RangeSet.empty
  all.diff Unicode.RangeSet.topCodePoint (.singleton 0x20)

/-- Characters that join the one before them. -/
def graphemeExtend : Unicode.RangeSet := (Unicode.property? "graphemeextend").getD .empty

/-- A character by number, for instance `\u` with `1f` in braces. -/
def escapeByNumber (c : Char) : List Char :=
  ['\\', 'u', '\x7b'] ++ Nat.toDigits 16 c.toNat ++ ['\x7d']

/-- One escaped character.  A joining character is written by number when it has nothing to join. -/
def escapeChar (atStart : Bool) (c : Char) : List Char :=
  if c = '\x00' then ['\\', '0']
  else if c = '\t' then ['\\', 't']
  else if c = '\r' then ['\\', 'r']
  else if c = '\n' then ['\\', 'n']
  else if c = '\\' || c = '"' || c = '\'' then ['\\', c]
  else if 0x20 ≤ c.toNat ∧ c.toNat < 0x7F then [c]
  else if atStart && graphemeExtend.mem c.toNat then escapeByNumber c
  else if unprintable.mem c.toNat then escapeByNumber c
  else [c]

/-- The text in escaped form. -/
def escape (s : String) : String :=
  match s.toList with
  | [] => ""
  | c :: rest => String.ofList (escapeChar true c ++ rest.flatMap (escapeChar false))

end Fingerprinting.Text
