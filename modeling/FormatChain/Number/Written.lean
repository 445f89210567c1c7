import FormatChain.Number.Binary64

/-!
# Quotients written with a point

A quotient of whole numbers is written with a fixed number of places, or with one digit before the
point and a power of ten, or in the way of the two that has so many digits in all.  Each is rounded
once to the nearest, a tie going to the even digit.

* `fixedText` : so many places.
* `scientificText` : so many places and a power of ten.
* `generalText` : so many digits.
* `binaryText` : digits to the base of sixteen and a power of two.
-/

namespace FormatChain.Number

/-- A number with at least so many digits. -/
def digitsPadded (width n : Nat) : List Char :=
  let digits := (Nat.repr n).toList
  List.replicate (width - digits.length) '0' ++ digits

/-- The quotient with so many places, and a point without places if that is wanted. -/
def fixedText (point : Bool) (places num den : Nat) : List Char :=
  let digits := digitsPadded (places + 1) (roundQuotient (num * 10 ^ places) den)
  let whole := digits.take (digits.length - places)
  if places = 0 then whole ++ (if point then ['.'] else [])
  else whole ++ '.' :: digits.drop (digits.length - places)

/-- The quotient divided by a power of ten, rounded. -/
def roundedAt (num den : Nat) (exponent : Int) : Nat :=
  if 0 ≤ exponent then roundQuotient num (den * 10 ^ exponent.toNat)
  else roundQuotient (num * 10 ^ (-exponent).toNat) den

/-- The digits of a quotient above zero, so many after the first one, and the power of ten of the
first one. -/
def leadingDigits (places num den : Nat) : List Char × Int :=
  let length (n : Nat) : Int := (Nat.repr n).length
  let top : Int :=
    if den ≤ num then length (num / den) - 1
    else
      let least := -(length (den / num))
      if den ≤ num * 10 ^ (-least - 1).toNat then least + 1 else least
  let digits := (Nat.repr (roundedAt num den (top - places))).toList
  if digits.length = places + 2 then (digits.dropLast, top + 1) else (digits, top)

/-- The power of ten as it is written. -/
def exponentText (mark : Char) (exponent : Int) : List Char :=
  mark :: (if exponent < 0 then '-' else '+') :: digitsPadded 2 exponent.natAbs

/-- The quotient with one digit before the point and a power of ten. -/
def scientificText (mark : Char) (point : Bool) (places num den : Nat) : List Char :=
  let (digits, exponent) :=
    if num = 0 then (List.replicate (places + 1) '0', 0) else leadingDigits places num den
  let rest := digits.drop 1
  digits.take 1 ++ (if rest.isEmpty && !point then [] else '.' :: rest) ++ exponentText mark exponent

/-- A number with a point without the zeros at its end. -/
def withoutZeros (text : List Char) : List Char :=
  if text.contains '.' then
    let shorter := text.reverse.dropWhile (· == '0')
    (if shorter.head? = some '.' then shorter.drop 1 else shorter).reverse
  else text

/-- The quotient with so many digits in all, zeros at its end kept if that is wanted. -/
def generalText (mark : Char) (keep : Bool) (digits num den : Nat) : List Char :=
  let digits := max digits 1
  let exponent : Int := if num = 0 then 0 else (leadingDigits (digits - 1) num den).2
  if -4 ≤ exponent && exponent < digits then
    let text := fixedText keep (digits - 1 - exponent).toNat num den
    if keep then text else withoutZeros text
  else
    let text := scientificText mark keep (digits - 1) num den
    if keep then text
    else
      withoutZeros (text.takeWhile (· != mark)) ++ text.dropWhile (· != mark)

/-- The quotient nearest to another one among those with so many binary digits, a tie going to the
even one. -/
def nearestWithBits (bits num den : Nat) : Nat × Nat :=
  if num = 0 then (0, 1)
  else
    let guess : Int := (num.log2 : Int) - (den.log2 : Int) - (bits - 1 : Nat)
    let (n, d) := scaleQuotient num den guess
    let exponent := if n / d < 2 ^ (bits - 1) then guess - 1 else guess
    let (n, d) := scaleQuotient num den exponent
    let mantissa := roundQuotient n d
    if 0 ≤ exponent then (mantissa * 2 ^ exponent.toNat, 1)
    else (mantissa, 2 ^ (-exponent).toNat)

/-- The digits to the base of sixteen of a number, so many. -/
def sixteenths (count n : Nat) : List Char :=
  let digits := Nat.toDigits 16 n
  List.replicate (count - digits.length) '0' ++ digits

/-- The quotient, which has so many binary digits, with one digit to the base of sixteen before the
point, so many after it or as many as it takes, and a power of two. The first digit holds what is left of
the binary digits after taking them by fours. -/
def binaryText (bits : Nat) (point : Bool) (places : Option Nat) (num den : Nat) : List Char :=
  let first := if bits % 4 = 0 then 4 else bits % 4
  let count := (bits - first) / 4
  let top : Int := if num = 0 then 0 else (num.log2 : Int) - den.log2
  let scale : Int := (bits - 1 : Nat) - top
  let mantissa := if 0 ≤ scale then num * 2 ^ scale.toNat / den else num / (den * 2 ^ (-scale).toNat)
  let shown := min count (places.getD count)
  let rounded := roundQuotient mantissa (16 ^ (count - shown))
  let spills := 16 ≤ rounded / 16 ^ shown
  let lead := if spills then 1 else rounded / 16 ^ shown
  let digits := sixteenths shown (if spills then 0 else rounded % 16 ^ shown)
  let digits := match places with
    | some n => digits ++ List.replicate (n - shown) '0'
    | none => (digits.reverse.dropWhile (· == '0')).reverse
  let power : Int := if num = 0 then 0 else top - (first - 1 : Nat) + (if spills then 4 else 0)
  sixteenths 1 lead ++ (if digits.isEmpty && !point then [] else '.' :: digits)
    ++ 'p' :: (if power < 0 then '-' else '+') :: (Nat.repr power.natAbs).toList

end FormatChain.Number
