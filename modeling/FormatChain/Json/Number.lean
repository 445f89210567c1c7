import FormatChain.Number.Binary64

/-!
# Numbers of settings

A number is a whole number of 64 bits, signed or unsigned, or a double.  It is read from a numeral,
the parts of its text.  A whole numeral that fits is a whole number; every other one becomes a
double by collecting digits while they fit into 64 bits, counting what is cut off in the power of
ten, and multiplying or dividing once by that power.

* `Number` : the values.
* `Numeral` : the parts of a number's text.
* `Numeral.value` : the number that a numeral stands for, unless no finite double is close to it.
* `Number.text` : the shortest text that stands for the number.
-/

namespace FormatChain.Json

open FormatChain.Number

/-- A number: whole, or a double. -/
inductive Number where
  /-- A whole number of 64 bits, signed or unsigned. -/
  | whole (value : Int)
  /-- A finite double. -/
  | double (value : Binary64)
  deriving Repr, DecidableEq

/-- Equality of values. A whole number and a double are never equal. -/
def Number.same : Number → Number → Bool
  | .whole a, .whole b => a == b
  | .double a, .double b => a.sameValue b
  | _, _ => false

/-! ## Reading -/

/-- The exponent part of a numeral. -/
structure ExponentPart where
  /-- The letter before it. -/
  letter : Char
  /-- The sign, if one is written. -/
  sign : Option Char
  /-- The digits, at least one. -/
  digits : List Char
  deriving Repr, DecidableEq

/-- The parts of a number's text. -/
structure Numeral where
  /-- Whether a minus sign starts it. -/
  negative : Bool
  /-- The digits before the point. -/
  whole : List Char
  /-- The digits after the point, if there is a point. -/
  fraction : Option (List Char)
  /-- The exponent, if there is one. -/
  exponent : Option ExponentPart
  deriving Repr, DecidableEq

/-- The text that has these parts. -/
def Numeral.text (n : Numeral) : String :=
  let sign := if n.negative then ['-'] else []
  let fraction := match n.fraction with
    | some digits => '.' :: digits
    | none => []
  let exponent := match n.exponent with
    | some part => part.letter :: part.sign.toList ++ part.digits
    | none => []
  String.ofList (sign ++ n.whole ++ fraction ++ exponent)

/-- The value of a digit. -/
def digitValue (c : Char) : Nat := c.toNat - '0'.toNat

/-- The whole number that digits stand for. -/
def digitsValue (digits : List Char) : Nat :=
  digits.foldl (fun n c => n * 10 + digitValue c) 0

/-- The largest number of 64 bits. -/
def maxWord : Nat := 2 ^ 64 - 1

/-- Appends digits to a number while it fits into 64 bits: the number, and the digits left over. -/
def collectDigits (n : Nat) : List Char → Nat × List Char
  | [] => (n, [])
  | c :: rest =>
    if n * 10 + digitValue c ≤ maxWord then collectDigits (n * 10 + digitValue c) rest
    else (n, c :: rest)

/-- The power of ten as a double, up to `10 ^ 308`. -/
def powerOfTen (n : Nat) : Binary64 :=
  (Binary64.ofQuotient false (10 ^ n) 1).getD (Binary64.zero false)

/-- Divides a double by `10 ^ 308` so many times, or until nothing is left of it, and then by the
last power of ten. -/
def divideInParts (last : Nat) : Nat → Binary64 → Option Binary64
  | 0, x => x.div (powerOfTen last)
  | parts + 1, x =>
    if x.isZero then some x else (x.div (powerOfTen 308)).bind (divideInParts last parts)

/-- Divides a double by a power of ten. A power beyond `10 ^ 308` is divided by in parts. -/
def divideByPowerOfTen (x : Binary64) (n : Nat) : Option Binary64 :=
  let parts := (n - 1) / 308
  divideInParts (n - 308 * parts) parts x

/-- The double `significand * 10 ^ exponent`, with one rounding for the significand and one for the
power; none if it is too large. -/
def scaleByPowerOfTen (significand : Nat) (exponent : Int) : Option Binary64 := do
  let x ← Binary64.ofQuotient false significand 1
  if 0 ≤ exponent then
    if exponent ≤ 308 then x.mul (powerOfTen exponent.toNat)
    else if x.isZero then some x
    else none
  else divideByPowerOfTen x (-exponent).toNat

/-- The double that a numeral stands for, without its sign. -/
def Numeral.magnitude (n : Numeral) : Option Binary64 :=
  let (significand, cut) := collectDigits 0 n.whole
  let fraction := n.fraction.getD []
  let (significand, unused) := collectDigits significand fraction
  let exponent := match n.exponent with
    | some part =>
      if part.sign = some '-' then -(digitsValue part.digits : Int) else digitsValue part.digits
    | none => 0
  scaleByPowerOfTen significand ((cut.length : Int) - (fraction.length - unused.length : Nat) + exponent)

/-- The whole number that a numeral stands for, if it is one of 64 bits. Minus zero is none. -/
def Numeral.whole? (n : Numeral) : Option Int :=
  let value := digitsValue n.whole
  if n.fraction.isSome || n.exponent.isSome then none
  else if n.negative then
    if 0 < value ∧ value ≤ 2 ^ 63 then some (-(value : Int)) else none
  else if value ≤ maxWord then some value
  else none

/-- The number that a numeral stands for; none if it is too large for a double. -/
def Numeral.value (n : Numeral) : Option Number :=
  match n.whole? with
  | some value => some (.whole value)
  | none => n.magnitude.map fun x => .double (if n.negative then x.neg else x)

/-! ## Writing -/

/-- So many zeros. -/
def zeros (n : Nat) : List Char := List.replicate n '0'

/-- The text of a decimal: with a point and at least one digit on each side of it for decimal
exponents from -5 to 15, and otherwise with one digit before the point, which is left out when
nothing follows it, and the exponent with its sign. -/
def decimalText (d : Decimal) : String :=
  let digits := Nat.toDigits 10 d.digits
  let point : Int := digits.length + d.exponent
  if 0 ≤ d.exponent ∧ point ≤ 16 then
    String.ofList (digits ++ zeros d.exponent.toNat ++ ['.', '0'])
  else if 0 < point ∧ point ≤ 16 then
    String.ofList (digits.take point.toNat ++ '.' :: digits.drop point.toNat)
  else if -5 < point ∧ point ≤ 0 then
    String.ofList ('0' :: '.' :: zeros (-point).toNat ++ digits)
  else
    let lead := digits.take 1
    let rest := digits.drop 1
    let mantissa := if rest.isEmpty then lead else lead ++ '.' :: rest
    let sign := if 0 ≤ point - 1 then '+' else '-'
    String.ofList (mantissa ++ 'e' :: sign :: Nat.toDigits 10 (point - 1).natAbs)

/-- The text of a number. -/
def Number.text : Number → String
  | .whole value => toString value
  | .double value => (if value.negative then "-" else "") ++ decimalText (shortest value)

end FormatChain.Json
