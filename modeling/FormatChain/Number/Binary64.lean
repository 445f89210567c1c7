/-!
# Double precision numbers

Numbers of double precision are read from and written as decimals. Powers of whole numbers are
needed for that, and are fixed first.

* `Nat` and `Int` : their powers come first.
* `Binary64` : a finite double.
* `Binary64.ofQuotient` : the double nearest to a quotient, unless it is too large for one.
* `Binary64.mul`, `Binary64.div` : the product and the quotient, rounded once.
* `Decimal` : a whole number times a power of ten.
* `shortest` : the decimal of a double.
-/

/-!
## Powers

Powers of whole numbers are the ones that multiplying again and again gives, and are found before
any other reading of the sign.
-/

attribute [instance (2000)] instPowNat instNatPowNat Int.instNatPow
attribute [default_instance 20000] instPowNat

/-!
## Double precision numbers

A finite double is a sign and a product of a whole number below `2 ^ 53` and a power of two not
below `2 ^ (-1074)`.  Every operation is exact arithmetic on whole numbers followed by one rounding
to the nearest double, a tie going to the even one.
-/

namespace FormatChain.Number

/-- A finite double: `mantissa * 2 ^ exponent` with a sign of its own, also at zero. -/
structure Binary64 where
  /-- Whether the sign is minus. -/
  negative : Bool
  /-- The whole number, below `2 ^ 53`. -/
  mantissa : Nat
  /-- The power of two, as small as the mantissa allows. -/
  exponent : Int
  deriving Repr, DecidableEq, Inhabited

/-- The least power of two. -/
def minExponent : Int := -1074

/-- The greatest power of two. -/
def maxExponent : Int := 971

/-- The whole number nearest to a quotient, a tie going to the even one. -/
def roundQuotient (num den : Nat) : Nat :=
  let whole := num / den
  let twice := 2 * (num % den)
  if twice < den then whole
  else if den < twice then whole + 1
  else if whole % 2 = 0 then whole
  else whole + 1

/-- The quotient divided by a power of two. -/
def scaleQuotient (num den : Nat) (exponent : Int) : Nat × Nat :=
  if 0 ≤ exponent then (num, den * 2 ^ exponent.toNat) else (num * 2 ^ (-exponent).toNat, den)

/-- The exponent at which the quotient has a mantissa of 53 digits, or the least one. -/
def quotientExponent (num den : Nat) : Int :=
  let guess : Int := (num.log2 : Int) - (den.log2 : Int) - 52
  let (n, d) := scaleQuotient num den guess
  max minExponent (if n / d < 2 ^ 52 then guess - 1 else guess)

namespace Binary64

/-- The zero of a sign. -/
def zero (negative : Bool) : Binary64 := ⟨negative, 0, minExponent⟩

/-- Whether the value is zero. -/
def isZero (x : Binary64) : Bool := x.mantissa == 0

/-- The value with the other sign. -/
def neg (x : Binary64) : Binary64 := { x with negative := !x.negative }

/-- The double nearest to `num / den`, a tie going to the even mantissa; none if that is beyond the
largest finite double. -/
def ofQuotient (negative : Bool) (num den : Nat) : Option Binary64 :=
  if num = 0 then some (zero negative)
  else
    let exponent := quotientExponent num den
    let (n, d) := scaleQuotient num den exponent
    let mantissa := roundQuotient n d
    let (mantissa, exponent) :=
      if mantissa = 2 ^ 53 then (2 ^ 52, exponent + 1) else (mantissa, exponent)
    if maxExponent < exponent then none else some ⟨negative, mantissa, exponent⟩

/-- The magnitude as a quotient of whole numbers. -/
def toQuotient (x : Binary64) : Nat × Nat :=
  if 0 ≤ x.exponent then (x.mantissa * 2 ^ x.exponent.toNat, 1)
  else (x.mantissa, 2 ^ (-x.exponent).toNat)

/-- The product, rounded once; none if it is too large. -/
def mul (x y : Binary64) : Option Binary64 :=
  let (a, b) := x.toQuotient
  let (c, d) := y.toQuotient
  ofQuotient (x.negative != y.negative) (a * c) (b * d)

/-- The quotient, rounded once; none if it is too large. -/
def div (x y : Binary64) : Option Binary64 :=
  let (a, b) := x.toQuotient
  let (c, d) := y.toQuotient
  ofQuotient (x.negative != y.negative) (a * d) (b * c)

/-- Equality of values: the two zeros are equal. -/
def sameValue (x y : Binary64) : Bool :=
  (x.isZero && y.isZero) || x == y

end Binary64

end FormatChain.Number

/-!
## The shortest decimal of a double

Among the decimals that lie closer to a double than to any other, the one with the fewest digits,
and of those the one nearest to the double.  The ends of the interval belong to it if the mantissa
is even, since rounding back goes to the even neighbour.
-/

namespace FormatChain.Number

/-- The value `digits * 10 ^ exponent`. -/
structure Decimal where
  /-- The digits, read as a whole number. -/
  digits : Nat
  /-- The power of ten. -/
  exponent : Int
  deriving Repr, DecidableEq

/-- The numbers that round to a double, all over one denominator. -/
structure RoundingInterval where
  /-- The lower end. -/
  low : Nat
  /-- The double itself. -/
  value : Nat
  /-- The upper end. -/
  high : Nat
  /-- The denominator. -/
  den : Nat
  /-- Whether the ends belong to the interval. -/
  closed : Bool

/-- The interval of a double other than zero. -/
def RoundingInterval.of (x : Binary64) : RoundingInterval :=
  let below := if x.mantissa = 2 ^ 52 ∧ minExponent < x.exponent then 1 else 2
  let exponent := x.exponent - 2
  let factor := if 0 ≤ exponent then 2 ^ exponent.toNat else 1
  { low := (4 * x.mantissa - below) * factor
    value := 4 * x.mantissa * factor
    high := (4 * x.mantissa + 2) * factor
    den := if 0 ≤ exponent then 1 else 2 ^ (-exponent).toNat
    closed := x.mantissa % 2 == 0 }

/-- A fraction divided by a power of ten, as numerator and denominator. -/
def overPowerOfTen (num den : Nat) (exponent : Int) : Nat × Nat :=
  if 0 ≤ exponent then (num, den * 10 ^ exponent.toNat) else (num * 10 ^ (-exponent).toNat, den)

/-- Whether `digits * 10 ^ exponent` lies in the interval. -/
def RoundingInterval.holds (i : RoundingInterval) (digits : Nat) (exponent : Int) : Bool :=
  let (low, den) := overPowerOfTen i.low i.den exponent
  let (high, _) := overPowerOfTen i.high i.den exponent
  let point := digits * den
  if i.closed then low ≤ point && point ≤ high else low < point && point < high

/-- The decimal at this power of ten that lies in the interval, the nearest to the value of the two
next to it. -/
def RoundingInterval.decimalAt? (i : RoundingInterval) (exponent : Int) : Option Decimal :=
  let (num, den) := overPowerOfTen i.value i.den exponent
  let below := num / den
  let rest := num % den
  let nearer := if 2 * rest < den ∨ (2 * rest = den ∧ below % 2 = 0) then below else below + 1
  let farther := if nearer = below then below + 1 else below
  if i.holds nearer exponent then some ⟨nearer, exponent⟩
  else if i.holds farther exponent then some ⟨farther, exponent⟩
  else none

/-- The first decimal found from this power of ten downwards, in so many steps. -/
def RoundingInterval.search (i : RoundingInterval) : Nat → Int → Option Decimal
  | 0, _ => none
  | steps + 1, exponent =>
    match i.decimalAt? exponent with
    | some found => some found
    | none => i.search steps (exponent - 1)

/-- The number of decimal digits of a whole number. -/
def digitCount (n : Nat) : Nat := (Nat.toDigits 10 n).length

/-- The shortest decimal of a double's magnitude. -/
def shortest (x : Binary64) : Decimal :=
  if x.isZero then ⟨0, 0⟩
  else
    let i := RoundingInterval.of x
    let top : Int :=
      if i.den ≤ i.value then digitCount (i.value / i.den) else 1 - digitCount (i.den / i.value)
    (i.search 25 (top + 1)).getD ⟨i.value, 0⟩

end FormatChain.Number
