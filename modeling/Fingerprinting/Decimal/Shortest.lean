/-
# Shortest decimals

A finite binary fraction `m · 2 ^ q` stands for every real number that rounds to it.  `shortest`
finds the decimal with the fewest digits among them, and of several with that many digits the
nearest.

Everything is exact arithmetic on natural numbers: a real number is a quotient, and the decimals
with `n` digits form a grid of which only the two neighbours of the number are looked at.
-/

namespace Fingerprinting.Decimal

/-! ## Binary fractions -/

/-- A positive binary fraction `mantissa · 2 ^ exponent`; `narrow` says that its lower neighbour is
only half as far away as the upper one. -/
structure Binary where
  mantissa : Nat
  exponent : Int
  narrow : Bool
deriving Repr, DecidableEq

/-- A positive rational number. -/
structure Quotient where
  num : Nat
  den : Nat
deriving Repr, DecidableEq

/-- `num · 2 ^ q` as a quotient. -/
def Quotient.scaleTwo (num : Nat) (q : Int) : Quotient :=
  if 0 ≤ q then ⟨num * Nat.pow 2 q.toNat, 1⟩ else ⟨num, Nat.pow 2 (-q).toNat⟩

/-- A quotient times `10 ^ k`. -/
def Quotient.scaleTen (x : Quotient) (k : Int) : Quotient :=
  if 0 ≤ k then ⟨x.num * Nat.pow 10 k.toNat, x.den⟩
  else ⟨x.num, x.den * Nat.pow 10 (-k).toNat⟩

/-- Comparison of quotients. -/
def Quotient.lt (x y : Quotient) : Bool := x.num * y.den < y.num * x.den

/-- The value of a fraction. -/
def Binary.value (b : Binary) : Quotient := .scaleTwo (4 * b.mantissa) (b.exponent - 2)

/-- The lower end of the numbers that round to a fraction. -/
def Binary.lower (b : Binary) : Quotient :=
  .scaleTwo (4 * b.mantissa - (if b.narrow then 1 else 2)) (b.exponent - 2)

/-- The upper end of the numbers that round to a fraction. -/
def Binary.upper (b : Binary) : Quotient := .scaleTwo (4 * b.mantissa + 2) (b.exponent - 2)

/-- Whether a number rounds to a fraction; the ends do when the mantissa is even. -/
def Binary.covers (b : Binary) (x : Quotient) : Bool :=
  if b.mantissa % 2 = 0 then !x.lt b.lower && !b.upper.lt x
  else b.lower.lt x && x.lt b.upper

/-! ## Decimals -/

/-- The decimal `digits · 10 ^ exponent`. -/
structure Scientific where
  digits : Nat
  exponent : Int
deriving Repr, DecidableEq

/-- The value of a decimal. -/
def Scientific.value (d : Scientific) : Quotient := Quotient.scaleTen ⟨d.digits, 1⟩ d.exponent

/-- The number of digits before the point, which is negative or zero for small numbers. -/
def magnitude (x : Quotient) : Int :=
  let estimate : Int := (Nat.log2 x.num : Int) - Nat.log2 x.den
  adjust 3 (estimate * 30103 / 100000)
where
  /-- Raise a low estimate until the number is below that power of ten. -/
  adjust : Nat → Int → Int
    | 0, e => e
    | bound + 1, e => if x.lt (Quotient.scaleTen ⟨1, 1⟩ e) then e else adjust bound (e + 1)

/-- Without zeros at the end of the digits. -/
def Scientific.reduce : Nat → Scientific → Scientific
  | 0, d => d
  | bound + 1, d =>
      if d.digits ≠ 0 ∧ d.digits % 10 = 0 then reduce bound ⟨d.digits / 10, d.exponent + 1⟩ else d

/-- The nearer of the two neighbours of a number on the grid `10 ^ step` that round to the fraction;
an exact tie goes to the even one. -/
def Binary.nearest? (b : Binary) (step : Int) : Option Scientific :=
  let scaled := b.value.scaleTen (-step)
  let low := scaled.num / scaled.den
  let twice := 2 * (scaled.num % scaled.den)
  let down : Scientific := ⟨low, step⟩
  let up : Scientific := ⟨low + 1, step⟩
  let preferUp := scaled.den < twice || (twice == scaled.den && low % 2 == 1)
  let choices := if preferUp then [up, down] else [down, up]
  choices.find? fun d => d.digits != 0 && b.covers d.value

/-- The grids from the coarsest to the finest. -/
def Binary.search (b : Binary) (top : Int) : Nat → Nat → Scientific
  | 0, _ => ⟨0, 0⟩
  | bound + 1, n =>
      match b.nearest? (top - n) with
      | some d => d
      | none => b.search top bound (n + 1)

/-- The shortest decimal that rounds to a fraction. -/
def Binary.shortest (b : Binary) : Scientific :=
  (b.search (magnitude b.value) 17 1).reduce 17

/-! ## Floating point numbers -/

/-- The place of the exponent in a double, above the fraction. -/
def exponentUnit : Nat := 0x10000000000000

/-- The place of the sign in a double, above the exponent. -/
def signUnit : Nat := 0x8000000000000000

/-- The fraction of a finite positive double by its bits. -/
def Binary.ofBits (bits : Nat) : Binary :=
  let fraction : Nat := bits % exponentUnit
  let biased : Nat := bits / exponentUnit % 0x800
  if biased = 0 then ⟨fraction, -1074, false⟩
  else ⟨exponentUnit + fraction, (biased : Int) - 1075, fraction == 0 && biased != 1⟩

/-! ## Layout -/

/-- Where a number is written positionally: with at most `widest` digits before the point, and with
less than `deepest` zeros after it. -/
structure Layout where
  widest : Int
  deepest : Int
deriving Repr

/-- Positional text of digits of which `point` stand before the point. -/
def positional (digits : List Char) (point : Int) : List Char :=
  let count : Int := digits.length
  if point ≤ 0 then '0' :: '.' :: (List.replicate (-point).toNat '0' ++ digits)
  else if count ≤ point then
    digits ++ List.replicate (point - count).toNat '0' ++ ['.', '0']
  else digits.take point.toNat ++ '.' :: digits.drop point.toNat

/-- Text of digits with an exponent, which always has a sign. -/
def scientific (digits : List Char) (point : Int) : List Char :=
  let exponent := point - 1
  let power := (if exponent < 0 then '-' else '+') :: Nat.toDigits 10 exponent.natAbs
  match digits with
  | [d] => d :: 'e' :: power
  | d :: rest => d :: '.' :: (rest ++ 'e' :: power)
  | [] => []

/-- The text of a finite double in shortest form. -/
def Layout.write (l : Layout) (x : Float) : String :=
  let bits := x.toBits.toNat
  let sign := if bits / signUnit = 1 then ['-'] else []
  let body :=
    if bits % signUnit = 0 then ['0', '.', '0']
    else
      let d := (Binary.ofBits bits).shortest
      let digits := Nat.toDigits 10 d.digits
      let point : Int := digits.length + d.exponent
      if point ≤ l.widest ∧ -l.deepest < point then positional digits point
      else scientific digits point
  String.ofList (sign ++ body)

end Fingerprinting.Decimal
