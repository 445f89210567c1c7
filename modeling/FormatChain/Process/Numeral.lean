import FormatChain.Process.Bytes
import FormatChain.Process.Escape

/-!
# Numbers in arguments

Commands read numbers of any form, and amounts with units.

* `Numeral` : such a number, exactly.
* `Numeral.read?` : the number at the start of bytes, and the rest.
* `Numeral.compare` : the order of two numbers.
* `AmountFault`, `amountAt` : a whole number with a suffix, or what is wrong with it.
* `AmountRules`, `AmountRules.read` : a whole number between bounds, or what is said if there is none.
-/

/-!
## Numbers of any form

A number may be written in base ten or in base sixteen, with a point and a power, or as a word for a
number that is not finite.
-/

namespace FormatChain.Process

/-- A number. -/
inductive Numeral where
  /-- A quotient. -/
  | finite (negative : Bool) (num den : Nat)
  /-- A number beyond all others. -/
  | infinite (negative : Bool)
  /-- None at all. -/
  | notANumber (negative : Bool)
  deriving Repr, DecidableEq, Inhabited

/-- The greatest power that counts. -/
def powerLimit : Nat := 6000

/-- The power after a mark, and the rest; what follows no mark or no digit is left. -/
def readPower (mark : Char) (bytes : Bytes) : Int × Bytes :=
  match bytes with
  | c :: after =>
    if c.toLower = mark then
      let (sign, after) : Int × Bytes := match after with
        | '-' :: after => (-1, after)
        | '+' :: after => (1, after)
        | after => (1, after)
      match readNat after with
      | (_, 0, _) => (0, bytes)
      | (n, _, after) => (sign * (min n powerLimit : Nat), after)
    else (0, bytes)
  | [] => (0, bytes)

/-- The quotient of digits in a base with a point and a power of another base at the start of bytes, and
the rest. -/
def readQuotient? (digit? : Char → Option Nat) (base : Nat) (mark : Char) (powerBase pointPower : Nat)
    (bytes : Bytes) : Option ((Nat × Nat) × Bytes) :=
  let (whole, count, rest) := readDigits digit? base bytes.length 0 0 bytes
  let (fraction, places, rest) := match rest with
    | '.' :: after => readDigits digit? base after.length 0 0 after
    | _ => (0, 0, rest)
  if count + places = 0 then none
  else
    let digits := whole * base ^ places + fraction
    let (power, rest) := readPower mark rest
    let power := power - (pointPower * places : Nat)
    let quotient : Nat × Nat :=
      if 0 ≤ power then (digits * powerBase ^ power.toNat, 1) else (digits, powerBase ^ (-power).toNat)
    some (quotient, rest)

/-- The number at the start of bytes without white space before it, and the rest. -/
def Numeral.read? (bytes : Bytes) : Option (Numeral × Bytes) :=
  let (negative, digits) := match bytes with
    | '-' :: rest => (true, rest)
    | '+' :: rest => (false, rest)
    | rest => (false, rest)
  let word (n : Nat) : String := String.ofList ((digits.take n).map Char.toLower)
  let finite (found : (Nat × Nat) × Bytes) : Numeral × Bytes :=
    (.finite negative found.1.1 found.1.2, found.2)
  if word 8 = "infinity" then some (.infinite negative, digits.drop 8)
  else if word 3 = "inf" then some (.infinite negative, digits.drop 3)
  else if word 3 = "nan" then
    let rest := digits.drop 3
    let inner := (rest.drop 1).takeWhile fun c => c.isAlphanum || c = '_'
    let closed := rest.head? = some '(' && (rest.drop (1 + inner.length)).head? = some ')'
    some (.notANumber negative, if closed then rest.drop (2 + inner.length) else rest)
  else
    let hexadecimal := if word 2 = "0x" then readQuotient? hexDigit? 16 'p' 2 4 (digits.drop 2) else none
    (hexadecimal <|> readQuotient? decimalDigit? 10 'e' 10 1 digits).map finite

/-- The quotient with its sign. -/
def Numeral.quotient : Numeral → Int × Nat
  | .finite true num den => (-(num : Int), den)
  | .finite false num den => (num, den)
  | _ => (0, 1)

/-- The order of two numbers: what is none comes first. -/
def Numeral.compare (a b : Numeral) : Ordering :=
  match a, b with
  | .notANumber _, .notANumber _ => .eq
  | .notANumber _, _ => .lt
  | _, .notANumber _ => .gt
  | .infinite x, .infinite y => if x = y then .eq else if x then .lt else .gt
  | .infinite x, _ => if x then .lt else .gt
  | _, .infinite y => if y then .gt else .lt
  | a, b =>
    let (m, d) := a.quotient
    let (n, e) := b.quotient
    compareOfLessAndEq (m * e) (n * d)

end FormatChain.Process

/-!
## Amounts in arguments

A whole number in an argument may have a suffix for a factor.  It has to lie between bounds.
-/

namespace FormatChain.Process

/-- What is wrong with an amount. -/
inductive AmountFault where
  /-- It is none. -/
  | none
  /-- Something that is no suffix follows it. -/
  | suffix
  /-- It is too great. -/
  | beyond
  deriving Repr, DecidableEq

/-- The power of the factor of a suffix. -/
def suffixPower? (c : Char) : Option Nat :=
  match c with
  | 'k' | 'K' => some 1
  | 'm' | 'M' => some 2
  | 'g' | 'G' => some 3
  | 't' | 'T' => some 4
  | 'P' => some 5
  | 'E' => some 6
  | 'Z' => some 7
  | 'Y' => some 8
  | _ => none

/-- The factor of a suffix among the letters allowed; a zero among them allows the letters for powers of a
thousand and of a binary thousand after the suffix. -/
def factorOf? (letters : String) (suffix : Bytes) : Option Nat :=
  match suffix with
  | [] => some 1
  | c :: rest =>
    if !letters.toList.contains c then none
    else
      let pair := letters.toList.contains '0'
      match c, rest with
      | 'b', [] => some 512
      | 'c', [] => some 1
      | 'w', [] => some 2
      | 'B', [] => some 1024
      | _, _ =>
        match suffixPower? c, String.ofList rest with
        | some power, "" => some (1024 ^ power)
        | some power, "iB" => if pair then some (1024 ^ power) else none
        | some power, "B" => if pair then some (1000 ^ power) else none
        | some power, "D" => if pair then some (1000 ^ power) else none
        | _, _ => none

/-- The whole number that bytes are, with a suffix of the letters allowed and within limits. -/
def amountAt (letters : String) (low high : Int) (bytes : Bytes) : Except AmountFault Int :=
  let trimmed := bytes.dropWhile isSpaceByte
  let (negative, digits) := match trimmed with
    | '-' :: rest => (true, rest)
    | '+' :: rest => (false, rest)
    | rest => (false, rest)
  let (n, count, suffix) := readNat digits
  let start := match digits with
    | c :: _ => trimmed.length = digits.length && letters.toList.contains c
    | [] => false
  if (negative && 0 ≤ low) || (count = 0 && !start) then .error .none
  else
    let n := if count = 0 then 1 else n
    match factorOf? letters suffix with
    | none => .error .suffix
    | some factor =>
      let value : Int := if negative then -((n * factor : Nat) : Int) else (n * factor : Nat)
      if value < low || high < value then .error .beyond else .ok value

/-- The greatest whole number of 64 binary digits with a sign. -/
def greatestSigned : Int := 2 ^ 63 - 1

/-- The greatest whole number of 64 binary digits. -/
def greatestUnsigned : Int := 2 ^ 64 - 1

/-- What an amount may be. -/
structure AmountRules where
  /-- What is said if it is refused. -/
  refusal : String
  /-- The suffixes. -/
  letters : String := ""
  /-- The least amount. -/
  low : Int := 0
  /-- The greatest amount. -/
  high : Int := 2 ^ 64 - 1
  /-- Whether it has a sign. -/
  signed : Bool := false

/-- The amount that bytes are, or what is said of them. -/
def AmountRules.read (r : AmountRules) (bytes : Bytes) : Except String Int :=
  let (low, high) := if r.signed then (-greatestSigned - 1, greatestSigned) else (0, greatestUnsigned)
  let refused (why : String) : Except String Int := .error s!"{r.refusal}: {quoted bytes}{why}"
  let tooLarge := ": Value too large for defined data type"
  match amountAt r.letters low high bytes with
  | .ok n =>
    if n < r.low || r.high < n then
      refused (if 2 ^ 30 ≤ n || n < -(2 ^ 30) then tooLarge else ": Numerical result out of range")
    else .ok n
  | .error .beyond => refused tooLarge
  | .error _ => refused ""

/-- The amount that bytes are, which is not below zero, or what is said of them. -/
def AmountRules.readNat (r : AmountRules) (bytes : Bytes) : Except String Nat :=
  (r.read bytes).map Int.toNat

end FormatChain.Process
