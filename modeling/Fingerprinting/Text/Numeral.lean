/-
# Numerals

Reading whole numbers of a bounded size, and writing them.  A numeral may begin with a plus sign,
has at least one digit and nothing else, and its value must not exceed the bound.
-/

namespace Fingerprinting.Text

/-! ## Digits -/

/-- The value of a decimal digit. -/
def digitValue? (c : Char) : Option Nat :=
  if '0' ≤ c ∧ c ≤ '9' then some (c.toNat - '0'.toNat) else none

/-- The value of a hexadecimal digit in either case. -/
def hexDigitValue? (c : Char) : Option Nat :=
  if '0' ≤ c ∧ c ≤ '9' then some (c.toNat - '0'.toNat)
  else if 'a' ≤ c ∧ c ≤ 'f' then some (c.toNat - 'a'.toNat + 10)
  else if 'A' ≤ c ∧ c ≤ 'F' then some (c.toNat - 'A'.toNat + 10)
  else none

/-- The hexadecimal digit of a number below sixteen. -/
def hexDigit (n : Nat) : Char :=
  if n < 10 then Char.ofNat ('0'.toNat + n) else Char.ofNat ('a'.toNat + (n - 10))

/-- A byte as two hexadecimal digits. -/
def hexByte (b : UInt8) : List Char := [hexDigit (b.toNat / 16), hexDigit (b.toNat % 16)]

/-! ## Reading -/

/-- The value of a run of digits after the value `acc` has been read, or nothing if some character
is no digit. -/
def digitsValue (digit : Char → Option Nat) (base acc : Nat) : List Char → Option Nat
  | [] => some acc
  | c :: rest =>
      match digit c with
      | some d => digitsValue digit base (acc * base + d) rest
      | none => none

/-- The value of a non-empty run of digits. -/
def magnitude? (digit : Char → Option Nat) (base : Nat) (cs : List Char) : Option Nat :=
  if cs.isEmpty then none else digitsValue digit base 0 cs

/-- Without the plus sign that a numeral may begin with. -/
def dropPlus : List Char → List Char
  | '+' :: rest => rest
  | cs => cs

/-- The value of an unsigned numeral in some base, at most `bound`. -/
def unsigned? (digit : Char → Option Nat) (base bound : Nat) (s : String) : Option Nat :=
  (magnitude? digit base (dropPlus s.toList)).filter (· ≤ bound)

/-- The value of a decimal numeral, at most `bound`. -/
def decimal? (bound : Nat) (s : String) : Option Nat := unsigned? digitValue? 10 bound s

/-- The value of a hexadecimal numeral, at most `bound`. -/
def hexadecimal? (bound : Nat) (s : String) : Option Nat := unsigned? hexDigitValue? 16 bound s

/-- The value of a decimal numeral with an optional sign, from `-bound - 1` to `bound`. -/
def signed? (bound : Nat) (s : String) : Option Int :=
  match s.toList with
  | '-' :: rest =>
      ((magnitude? digitValue? 10 rest).filter (· ≤ bound + 1)).map fun n => -(n : Int)
  | _ => (decimal? bound s).map Int.ofNat

/-- The largest number of 8 bits. -/
def max8 : Nat := 0xFF

/-- The largest number of 16 bits. -/
def max16 : Nat := 0xFFFF

/-- The largest number of 32 bits. -/
def max32 : Nat := 0xFFFFFFFF

/-- The largest number of 64 bits. -/
def max64 : Nat := 0xFFFFFFFFFFFFFFFF

/-- The largest number of 32 bits with a sign. -/
def maxSigned32 : Nat := 0x7FFFFFFF

/-- The largest number of 64 bits with a sign. -/
def maxSigned64 : Nat := 0x7FFFFFFFFFFFFFFF

/-- The largest number of 128 bits. -/
def max128 : Nat := 0xFFFFFFFFFFFFFFFFFFFFFFFFFFFFFFFF

/-- The largest number of 128 bits with a sign. -/
def maxSigned128 : Nat := 0x7FFFFFFFFFFFFFFFFFFFFFFFFFFFFFFF

/-! ## Writing -/

/-- The digits of a number in hexadecimal, without leading zeros. -/
def hexadecimal (n : Nat) : String := String.ofList (Nat.toDigits 16 n)

/-- A decimal number without leading zeros. -/
def decimal (n : Nat) : String := Nat.repr n

/-- A decimal number with a minus sign when it is negative. -/
def signedDecimal (n : Int) : String :=
  if n < 0 then "-" ++ decimal n.natAbs else decimal n.natAbs

end Fingerprinting.Text
