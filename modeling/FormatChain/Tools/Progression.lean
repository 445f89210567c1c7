import FormatChain.Process.Formatted
import FormatChain.Process.Options

/-!
# Numbers in a row

Numbers are made one after the other: those of a progression, and the prime factors of one.

* `isPrime` : whether a number is a prime.
* `factorsOf` : the primes that a number is the product of.
* `factor` : the command.
* `RowEnd` : a number as it was given, with its width and places.
* `RowFormat` : the format for the numbers.
* `Progression`, `Progression.texts` : the numbers, and how they are written.
* `seq` : the command.
-/

/-!
## Prime factors

A number is parted into primes.  Small primes are tried one by one; what is left is parted at a factor
that a walk through the remainders finds, until each part is a prime.
-/

namespace FormatChain.Tools

open FormatChain.Process

/-- The power of a number modulo another one; the exponent is given by its binary digits, the greatest
first. -/
def powerModulo (m base : Nat) (digits : List Bool) : Nat :=
  digits.foldl (fun power digit =>
    let square := power * power % m
    if digit then square * base % m else square) (1 % m)

/-- The binary digits of a number, the greatest first, before those that were found, in at most so many
steps. -/
def binaryDigits : Nat → Nat → List Bool → List Bool
  | 0, _, done => done
  | steps + 1, n, done => if n = 0 then done else binaryDigits steps (n / 2) ((n % 2 = 1) :: done)

/-- The bases with which a number is tried. -/
def trialBases : List Nat := [2, 3, 5, 7, 11, 13, 17, 19, 23, 29, 31, 37, 41]

/-- Whether a number above the bases is a prime: an odd one that no base tells from a prime by the powers
that lead up to the one that is 1 for a prime. -/
def isPrime (n : Nat) : Bool :=
  if n < 2 then false
  else if trialBases.any fun p => n % p = 0 then trialBases.contains n
  else
    let digits := binaryDigits (n.log2 + 1) (n - 1) []
    let twos := (digits.reverse.takeWhile (!·)).length
    let odd := digits.take (digits.length - twos)
    trialBases.all fun base =>
      let first := powerModulo n base odd
      let powers := (List.range (twos - 1)).foldl
        (fun powers _ => match powers with
          | power :: _ => power * power % n :: powers
          | [] => []) [first]
      first = 1 || powers.contains (n - 1)

/-- A factor of a number that is not a prime, found by two walks of different speed that meet modulo the
factor, in at most so many steps. -/
def meetingFactor? (n shift : Nat) : Nat → Nat → Nat → Option Nat
  | 0, _, _ => none
  | steps + 1, slow, fast =>
    let step (x : Nat) := (x * x + shift) % n
    let slow := step slow
    let fast := step (step fast)
    let common := Nat.gcd (if slow ≤ fast then fast - slow else slow - fast) n
    if common = 1 then meetingFactor? n shift steps slow fast
    else if common = n then none
    else some common

/-- How many steps a walk takes. -/
def walkLength : Nat := 2000000

/-- The primes that an odd number without small factors is the product of, in at most so many steps. -/
def largeFactors : Nat → Nat → List Nat
  | 0, n => [n]
  | steps + 1, n =>
    if n = 1 then []
    else if isPrime n then [n]
    else
      match [1, 2, 3, 5, 7].findSome? fun shift => meetingFactor? n shift walkLength 2 2 with
      | some part => largeFactors steps part ++ largeFactors steps (n / part)
      | none => [n]

/-- The prime factors of a number not below a divisor, in at most so many steps. -/
def factorsFrom : Nat → Nat → Nat → List Nat
  | 0, _, n => (largeFactors 128 n).mergeSort
  | steps + 1, d, n =>
    if n ≤ 1 then []
    else if n < d * d then [n]
    else if n % d = 0 then d :: factorsFrom steps d (n / d)
    else factorsFrom steps (d + 1) n

/-- The primes that a number is the product of, the least first. -/
def factorsOf (n : Nat) : List Nat := factorsFrom 5000 2 n

/-- Writes the prime factors of numbers. -/
def factor : Program := fun j =>
  j.withOptions 1 { letters := "" } fun _ operands => do
    let numbers ← if operands.isEmpty then do pure (wordsOf (← Running.takeInput)) else pure operands
    let mut well := true
    for written in numbers do
      let digits := written.dropWhile (· == ' ')
      match natOf? (if digits.head? = some '+' then digits.drop 1 else digits) with
      | some n =>
        let factors := (factorsOf n).flatMap fun f => ' ' :: digitsOf f
        Running.writeLine (digitsOf n ++ ':' :: factors)
      | none =>
        j.complain s!"{quoted written} is not a valid positive integer"
        well := false
    return statusOf well

end FormatChain.Tools

/-!
## Numbers in a row

Numbers follow one another at the same distance, from a first one up to a last one.  They are written
with as many places as the first one and the distance have, or in a format.
-/

namespace FormatChain.Tools

open FormatChain.Process

/-! ### The numbers given -/

/-- A number as it was given. -/
structure RowEnd where
  /-- The number. -/
  value : Numeral
  /-- The bytes that it takes when it is written. -/
  width : Nat := 0
  /-- Its places after the point, if they are known. -/
  places : Option Nat := none
  deriving Inhabited

/-- The number one. -/
def RowEnd.one : RowEnd := { value := .finite false 1 1, width := 1, places := some 0 }

/-- What is wrong with an argument. -/
inductive RowFault where
  /-- It is no number. -/
  | noNumber (arg : Bytes)
  /-- It says that it is none. -/
  | notANumber (arg : Bytes)

/-- The wording of what is wrong. -/
def RowFault.message : RowFault → String
  | .noNumber arg => s!"invalid floating point argument: {quoted arg}"
  | .notANumber arg => s!"invalid 'not-a-number' argument: {quoted arg}"

/-- The width and the places of a decimal number as it is written, without a power. -/
def plainExtent (written : Bytes) : Int × Nat :=
  let length : Int := written.length
  match written.dropWhile (· != '.') with
  | '.' :: fraction =>
    let before := written.length - fraction.length - 1
    let bare := before = 0 || !((written[before - 1]?.map Char.isDigit).getD false)
    (length + (if fraction.isEmpty then -1 else if bare then 1 else 0), fraction.length)
  | _ => (length, 0)

/-- The width and the places of a decimal number as it is written. -/
def extentOf (written : Bytes) : Nat × Nat :=
  let body := written.takeWhile fun c => c != 'e' && c != 'E'
  let (width, places) := plainExtent body
  if body.length = written.length then (width.toNat, places)
  else
    let pointed := body.contains '.'
    let power := (readPower 'e' (written.drop body.length)).1
    if power < 0 then
      let more := power.natAbs
      let width := width + (if !pointed || body.getLast? = some '.' then 1 else 0)
      ((width + more).toNat, places + more)
    else
      let less := min places power.toNat
      let width := width - (if pointed && places - less = 0 && 0 < places then 1 else 0)
      ((width + (power.toNat - min places power.toNat : Nat)).toNat, places - less)

/-- The number that an argument is, or what is wrong with it. -/
def RowEnd.read (arg : Bytes) : Except RowFault RowEnd :=
  match Numeral.read? (arg.dropWhile isSpaceByte) with
  | some (.notANumber _, []) => .error (.notANumber arg)
  | some (value, []) =>
    let written := arg.dropWhile fun c => isSpaceByte c || c = '+'
    let sixteenths := written.any fun c => c = 'x' || c = 'X'
    let finite := value matches .finite ..
    if finite && !sixteenths then
      let (width, places) := extentOf written
      .ok { value, width, places := some places }
    else .ok { value, places := if written.any fun c => c = '.' || c = 'p' then none else some 0 }
  | _ => .error (.noNumber arg)

/-! ### Formats -/

/-- The format for the numbers. -/
structure RowFormat where
  /-- What is written before each. -/
  before : Bytes := []
  /-- How a number is laid out. -/
  layout : Layout
  /-- The letter of the conversion. -/
  letter : Char
  /-- What is written after each. -/
  after : Bytes := []
  /-- Whether numbers are written as they are, not as the nearest one with 64 binary digits. -/
  exact : Bool := false

/-- The bytes of a format up to its conversion, two percent signs being one, and what follows the percent
sign; none if there is no conversion. -/
def upToConversion : Bytes → Bytes × Option Bytes
  | '%' :: '%' :: rest =>
    let (before, found) := upToConversion rest
    ('%' :: before, found)
  | '%' :: rest => ([], some rest)
  | c :: rest =>
    let (before, found) := upToConversion rest
    (c :: before, found)
  | [] => ([], none)

/-- The format that bytes are, or what is wrong with them. -/
def RowFormat.read (format : Bytes) : Except String RowFormat :=
  let strange (what : String) : Except String RowFormat := .error s!"format {quoted format} {what}"
  match upToConversion format with
  | (_, none) => strange "has no % directive"
  | (before, some rest) =>
    let c := Conversion.readWith ('\'' :: Conversion.plainFlags) false rest
    let (letter, rest) := match c.letter with
      | some 'L' => (c.rest.head?, c.rest.drop 1)
      | letter => (letter, c.rest)
    match letter with
    | none => strange "ends in %"
    | some letter =>
      if "efgaEFGA".toList.contains letter then
        let number : Measure → Option Nat
          | .exactly n => some n
          | _ => none
        match upToConversion rest with
        | (_, some _) => strange "has too many % directives"
        | (after, none) =>
          .ok { before, letter, after, layout := { c.layout with
            width := (number c.width).getD 0, precision := number c.precision } }
      else strange s!"has unknown %{letter} directive"

/-- The number in the format. -/
def RowFormat.body (f : RowFormat) (n : Numeral) : Bytes :=
  f.layout.numeral f.letter 64 (if f.exact then n else (n.nearest 64).1)

/-- A number with what is around it. -/
def RowFormat.text (f : RowFormat) (n : Numeral) : Bytes := f.before ++ f.body n ++ f.after

/-! ### Rows -/

/-- Numbers that follow one another. -/
structure Progression where
  /-- The first one. -/
  first : RowEnd := .one
  /-- The distance. -/
  step : RowEnd := .one
  /-- What none is beyond. -/
  last : RowEnd

namespace Progression

/-- How many numbers are enough for anyone who reads them. -/
def supply : Nat := 1000000

/-- The places of the numbers, if they are known. -/
def places? (p : Progression) : Option Nat := do return max (← p.first.places) (← p.step.places)

/-- The format for the numbers if none is given, all as wide as the widest if that is asked for. -/
def format (p : Progression) (equal : Bool) : RowFormat :=
  match p.places?, p.last.places with
  | some places, some lastPlaces =>
    let firstPlaces := p.first.places.getD 0
    let first := p.first.width + (places - firstPlaces) + (if firstPlaces = 0 && places ≠ 0 then 1 else 0)
    let last : Int := (p.last.width : Int) + ((places : Int) - lastPlaces)
      + (if lastPlaces = 0 && places ≠ 0 then 1 else 0) - (if lastPlaces ≠ 0 && places = 0 then 1 else 0)
    { letter := 'f', exact := true
      layout := { zeros := equal, precision := some places, width := if equal then max first last.toNat else 0 } }
  | _, _ => { letter := 'g', layout := {} }

/-- A quotient as a number. -/
def numeralOf (num : Int) (den : Nat) : Numeral := .finite (decide (num < 0)) num.natAbs den

/-- The numbers as far as anyone reads them, and whether they go on after that; and the first number
beyond the last one. -/
def numbers (p : Progression) : List Numeral × Bool × Numeral :=
  let (a, d) := p.first.value.quotient
  let (b, e) := p.step.value.quotient
  let den := d * e
  let start := a * e
  let by_ := b * d
  let at_ (i : Nat) : Numeral := numeralOf (start + by_ * i) den
  match p.last.value with
  | .finite .. =>
    let (c, f) := p.last.value.quotient
    let reach := if 0 < by_ then c * den - start * f else start * f - c * den
    let count := if reach < 0 then 0 else (reach / (by_.natAbs * f : Nat)).toNat + 1
    let shown := min count supply
    ((List.range shown).map at_, shown < count, at_ count)
  | beyond =>
    let upwards := !(beyond matches .infinite true)
    if upwards == decide (0 < by_) then ((List.range 60000).map at_, true, at_ 0) else ([], false, at_ 0)

/-- The numbers as they are written, and whether they go on. A number just beyond the last one is written
if it is written as the last one. -/
def texts (p : Progression) (f : RowFormat) : List Bytes × Bool :=
  let (numbers, endless, beyond) := p.numbers
  let written := numbers.map f.text
  let isLast := match Numeral.read? ((f.body beyond).dropWhile isSpaceByte) with
    | some (n, []) => n.compare p.last.value == .eq
    | _ => false
  let more := isLast && !endless && (written.getLast?.map fun text => text != f.text beyond).getD false
  (written ++ (if more then [f.text beyond] else []), endless)

end Progression

/-! ### The command -/

/-- Writes a row of numbers. -/
def writeRow (given : List Given) (p : Progression) (f : RowFormat) : Running ExitStatus := do
  let separator := (valueOf? given 's').getD ['\n']
  let (texts, endless) := p.texts f
  unless texts.isEmpty do
    Running.write (joinWith separator texts ++ (if endless then separator else ['\n']))
  if endless then
    Running.neverEnd
    return .signal 13
  return success

/-- Whether an argument is a number below zero rather than an option. -/
def isNegativeNumber (arg : Bytes) : Bool :=
  match arg with
  | '-' :: c :: _ => c.isDigit || c = '.'
  | _ => false

/-- The options of the command. -/
def rowRules : OptionRules :=
  { letters := "f:s:w", words := [("format", 'f'), ("separator", 's'), ("equal-width", 'w')], first := true }

/-- The row that operands ask for, or what is wrong with them. -/
def Progression.read (operands : List Bytes) : Except String Progression :=
  let number (arg : Bytes) : Except String RowEnd := (RowEnd.read arg).mapError RowFault.message
  match operands with
  | [last] => do return { last := ← number last }
  | [first, last] => do
    let first ← number first
    return { first, last := ← number last }
  | [first, step, last] => do
    let first ← number first
    let step ← number step
    if step.value.quotient.1 = 0 && (step.value matches .finite ..) then
      throw s!"invalid Zero increment value: {quoted (operands.getD 1 [])}"
    return { first, step, last := ← number last }
  | [] => .error "missing operand"
  | _ => .error s!"extra operand {quoted (operands.getD 3 [])}"

/-- Writes numbers from one to another. -/
def seq : Program := fun j => do
  let options := j.args.takeWhile fun arg => !isNegativeNumber arg
  match rowRules.read options with
  | .error fault => j.misused 1 fault
  | .ok (given, others) =>
    let operands := others ++ j.args.drop options.length
    if operands.isEmpty then j.misused 1 "missing operand"
    else if 3 < operands.length then j.misused 1 s!"extra operand {quoted (operands.getD 3 [])}"
    else
      match (valueOf? given 'f').map RowFormat.read with
      | some (.error message) => j.fail 1 message
      | asked =>
        let format? := asked.bind Except.toOption
        if format?.isSome && has given 'w' then
          j.misused 1 "format string may not be specified when printing equal width strings"
        else
          match Progression.read operands with
          | .error message => j.misused 1 message
          | .ok p => writeRow given p (format?.getD (p.format (has given 'w')))

end FormatChain.Tools
