import FormatChain.Number.Written
import FormatChain.Process.Formatted
import FormatChain.Tools.Awk.Token
import Std.Data.HashMap

/-!
# Values and arrays of programs for records

Values of programs for records are texts and numbers at once. Arrays hold them by texts.

* `Value` : values.
* `Value.number`, `Value.text` : a value taken as a number or as a text.
* `Value.compare` : the order of two values.
* `formatValues` : values in a format.
* `Table` : arrays.
* `Table.find`, `Table.insert`, `Table.erase` : elements.
* `Table.keys` : the keys in the order in which a loop meets them.
-/

/-!
## Values of programs for records

A value is a number, a text, or a text that looks like a number and is then compared as one.
-/

namespace FormatChain.Tools.Awk

open FormatChain.Number FormatChain.Process

/-- A value. -/
inductive Value where
  /-- Nothing yet. -/
  | unset
  /-- A number. -/
  | number (x : Float)
  /-- A text. -/
  | text (bytes : Bytes)
  /-- A text that looks like a number. -/
  | numeric (bytes : Bytes) (x : Float)
  deriving Inhabited

/-- The sign of a number, and its magnitude as a quotient; none if it is not finite. -/
def quotientOf? (x : Float) : Option (Bool × Nat × Nat) :=
  let bits := x.toBits.toNat
  let negative := decide (2 ^ 63 ≤ bits)
  let exponent := bits / 2 ^ 52 % 2048
  let fraction := bits % 2 ^ 52
  if exponent = 2047 then none
  else
    let mantissa := if exponent = 0 then fraction else fraction + 2 ^ 52
    let power : Int := (if exponent = 0 then 1 else exponent : Nat) - 1075
    some (if 0 ≤ power then (negative, mantissa * 2 ^ power.toNat, 1)
      else (negative, mantissa, 2 ^ (-power).toNat))

/-- How a number is shown that is not finite; one that is no number has the sign that arithmetic gives
it. -/
def infiniteText (x : Float) : Bytes :=
  if x.isNaN then "-nan".toList else if x < 0 then "-inf".toList else "inf".toList

/-- The whole number toward zero from a number, within 64 binary digits. -/
def truncated (x : Float) : Int :=
  match quotientOf? x with
  | none => if x.isNaN || x < 0 then -(2 ^ 63) else 2 ^ 63 - 1
  | some (negative, num, den) =>
    let n : Int := num / den
    if negative then -n else n

/-- The greatest whole number that is shown with all its digits. -/
def shownLimit : Nat := 2 ^ 31 - 1

/-- The whole number that a number is, if it is one that is shown with all its digits. -/
def wholeNumber? (x : Float) : Option Int :=
  match quotientOf? x with
  | some (negative, num, den) =>
    if num % den = 0 && num / den ≤ shownLimit then
      some (if negative then -((num / den : Nat) : Int) else (num / den : Nat))
    else none
  | none => none

/-- A number in one conversion of a format. -/
def numberIn (c : Conversion) (x : Float) : Bytes :=
  let layout := { c.layout with
    precision := match c.precision with
      | .exactly n => some n
      | _ => none
    width := match c.width with
      | .exactly n => n
      | _ => 0 }
  match c.letter, quotientOf? x with
  | some 'd', _ => layout.integer (truncated x)
  | some 'i', _ => layout.integer (truncated x)
  | some letter, some (negative, num, den) => layout.quotient letter negative num den
  | _, _ => layout.pad (infiniteText x)

/-- A number as it is shown: whole ones with all digits, others in a format. -/
def numberText (format : Bytes) (x : Float) : Bytes :=
  match wholeNumber? x with
  | some n => integerText n
  | none =>
    let before := format.takeWhile (· != '%')
    match format.drop before.length with
    | '%' :: rest =>
      let c := Conversion.read true rest
      before ++ numberIn c x ++ c.rest
    | _ => format

/-! ### Numbers in texts -/

/-- The number in base sixteen after its mark, and the rest. -/
def hexNumber? (bytes : Bytes) : Option (Float × Bytes) :=
  let (whole, count, rest) := readDigits hexDigit? 16 bytes.length 0 0 bytes
  let (fraction, places, rest) := match rest with
    | '.' :: after => readDigits hexDigit? 16 after.length 0 0 after
    | _ => (0, 0, rest)
  if count + places = 0 then none
  else
    let digits := whole * 16 ^ places + fraction
    let (exponent, rest) : Int × Bytes := match rest with
      | p :: after =>
        if p = 'p' || p = 'P' then
          let (sign, after) : Int × Bytes := match after with
            | '-' :: after => (-1, after)
            | '+' :: after => (1, after)
            | after => (1, after)
          match readNat after with
          | (_, 0, _) => (0, rest)
          | (n, _, after) => (sign * min n 5000, after)
        else (0, rest)
      | [] => (0, rest)
    some (Float.scaleB (Float.ofNat digits) (exponent - 4 * places), rest)

/-- The number at the start of a text and the rest: a decimal one, one in base sixteen, or a word for
one that is not finite. -/
def textNumber? (bytes : Bytes) : Option (Float × Bytes) :=
  let trimmed := bytes.dropWhile isSpaceByte
  let (negative, digits) := match trimmed with
    | '-' :: rest => (true, rest)
    | '+' :: rest => (false, rest)
    | rest => (false, rest)
  let word (n : Nat) : String := String.ofList ((digits.take n).map Char.toLower)
  let found : Option (Float × Bytes) :=
    if word 8 = "infinity" then some (1.0 / 0.0, digits.drop 8)
    else if word 3 = "inf" then some (1.0 / 0.0, digits.drop 3)
    else if word 3 = "nan" then some (0.0 / 0.0, digits.drop 3)
    else
      let hexadecimal := if word 2 = "0x" then hexNumber? (digits.drop 2) else none
      hexadecimal <|> (numberAt? digits).map fun (x, n) => (x, digits.drop n)
  found.map fun (x, rest) => (if negative then -x else x, rest)

/-- The number at the start of a text. -/
def leadingNumber (bytes : Bytes) : Float := ((textNumber? bytes).map (·.1)).getD 0

/-- The number that a text looks like, spaces around it not counting, if it looks like one. -/
def likeNumber? (bytes : Bytes) : Option Float :=
  let trimmed := bytes.dropWhile isSpaceByte
  let trimmed := (trimmed.reverse.dropWhile isSpaceByte).reverse
  let starts := (trimmed.head?.map fun c => c.isDigit || c = '+' || c = '-' || c = '.').getD false
  let ends := (trimmed.getLast?.map fun c => c.isDigit || c = '.').getD false
  if starts && ends then
    match textNumber? trimmed with
    | some (x, []) => if x.isInf then none else some x
    | _ => none
  else none

namespace Value

/-- The value of something that came in: a number if it looks like one. -/
def ofInput (bytes : Bytes) : Value :=
  match likeNumber? bytes with
  | some x => .numeric bytes x
  | none => .text bytes

/-- The value as a number. -/
def toNumber : Value → Float
  | .unset => 0
  | .number x => x
  | .text bytes => leadingNumber bytes
  | .numeric _ x => x

/-- The value as a text. -/
def toText (format : Bytes) : Value → Bytes
  | .unset => []
  | .number x => numberText format x
  | .text bytes => bytes
  | .numeric bytes _ => bytes

/-- Whether the value holds. -/
def holds : Value → Bool
  | .unset => false
  | .number x => x != 0
  | .text bytes => !bytes.isEmpty
  | .numeric _ x => x != 0

/-- Whether the value is compared as a number. -/
def isNumber : Value → Bool
  | .text _ => false
  | _ => true

/-- What a truth is as a value. -/
def ofBool (b : Bool) : Value := .number (if b then 1 else 0)

/-- The order of two values. -/
def compare (format : Bytes) (a b : Value) : Ordering :=
  if a.isNumber && b.isNumber then
    let x := a.toNumber
    let y := b.toNumber
    if x < y then .lt else if x == y then .eq else .gt
  else
    let x := a.toText format
    let y := b.toText format
    if x = y then .eq else if bytesBefore x y then .lt else .gt

end Value

/-! ### Formats -/

/-- What is wrong with a format or with what it is given. -/
inductive FormatFault where
  /-- Too little is given. -/
  | tooFew
  /-- A conversion is none; its number. -/
  | improper (n : Nat)

/-- The wording of what is wrong. -/
def FormatFault.message (fault : FormatFault) (name : String) (format : Bytes) : String :=
  match fault with
  | .tooFew => s!"not enough arguments passed to {name}(\"{textOf format}\")"
  | .improper n => s!"improper conversion(number {n}) in {name}(\"{textOf format}\")"

/-- What one conversion makes of a value; none if there is no such conversion. -/
def convertValue? (convfmt : Bytes) (layout : Layout) (letter : Char) (v : Value) : Option Bytes :=
  let x := v.toNumber
  if letter = 'd' || letter = 'i' then
    some (if 9223372036854775807 ≤ x then layout.natural 'u' (if x < 18446744073709551615 then x.toUInt64.toNat
        else 2 ^ 64 - 1)
      else layout.integer (truncated x))
  else if ['o', 'x', 'X', 'u'].contains letter then
    some (layout.natural letter (Formatting.unsigned (truncated x)))
  else if ['e', 'E', 'f', 'F', 'g', 'G'].contains letter then
    some (match quotientOf? x with
      | some (negative, num, den) => layout.quotient letter negative num den
      | none =>
        let shown := infiniteText x
        layout.pad (if letter.isUpper then shown.map Char.toUpper else shown))
  else if letter = 'c' then
    match v with
    | .text bytes => some (layout.pad (if bytes.isEmpty then ['\x00'] else bytes.take 1))
    | .unset => some (layout.pad ['\x00'])
    | v => some (layout.pad [Char.ofNat ((truncated v.toNumber % 256).toNat)])
  else if letter = 's' then some (layout.text (v.toText convfmt))
  else none

/-- The number of a measure, taken from the values if need be. -/
def measureOf (args : List Value) : Measure → Except FormatFault (Option Int × List Value)
  | .none => .ok (none, args)
  | .exactly n => .ok (some n, args)
  | .argument =>
    match args with
    | v :: args => .ok (some (truncated v.toNumber), args)
    | [] => .error .tooFew

/-- A format with its conversions, which take the values in order, in at most so many steps; `count`
conversions were made before, and `done` holds what was made, the latest first. -/
def formatFrom (convfmt : Bytes) :
    Nat → Nat → List Bytes → List Value → Bytes → Except FormatFault (List Bytes)
  | 0, _, done, _, _ => .ok done
  | _, _, done, _, [] => .ok done
  | steps + 1, count, done, args, '%' :: '%' :: rest =>
    formatFrom convfmt steps count (['%'] :: done) args rest
  | steps + 1, count, done, args, '%' :: rest => do
    if args.isEmpty then throw .tooFew
    let c := Conversion.read true rest
    let (width, args) ← measureOf args c.width
    let (precision, args) ← measureOf args c.precision
    let width := width.getD 0
    let layout := { c.layout with
      left := c.layout.left || decide (width < 0)
      width := width.natAbs
      precision := precision.bind fun n => if n < 0 then none else some n.toNat }
    match c.letter, args with
    | none, _ => throw (.improper (count + 1))
    | _, [] => throw .tooFew
    | some letter, v :: args =>
      match convertValue? convfmt layout letter v with
      | some made => formatFrom convfmt steps (count + 1) (made :: done) args c.rest
      | none => throw (.improper (count + 1))
  | steps + 1, count, done, args, c :: rest => formatFrom convfmt steps count ([c] :: done) args rest

/-- Values in a format. -/
def formatValues (convfmt format : Bytes) (args : List Value) : Except FormatFault Bytes :=
  (formatFrom convfmt (format.length + 1) 0 [] args format).map fun done => done.reverse.flatten

end FormatChain.Tools.Awk

/-!
## Arrays of programs for records

An array finds its elements by keys.  A loop over the keys meets them in an order that depends on how
they were asked for: keys stand in rows, each one in the row of its number, and a key that is asked
for moves to the front of its row.  Whole numbers have rows of their own until a text is asked for.
-/

namespace FormatChain.Tools.Awk

open FormatChain.Process

/-- An array. -/
structure Table where
  /-- The values by the texts of their keys. -/
  values : Std.HashMap String Value := {}
  /-- Whether texts were asked for. -/
  texted : Bool := false
  /-- The rows of texts. -/
  texts : Std.HashMap Nat (List String) := {}
  /-- The rows of whole numbers. -/
  numbers : Std.HashMap Nat (List Int) := {}
  deriving Inhabited

/-- A key: a whole number or a text. -/
inductive Key where
  /-- A whole number. -/
  | number (n : Int)
  /-- A text. -/
  | text (key : String)
  deriving Inhabited

/-- The text of a key. -/
def Key.shown : Key → String
  | .number n => toString n
  | .text key => key

/-- The number of rows. -/
def rowCount : Nat := 64

/-- The row of a text. -/
def textRow (key : String) : Nat :=
  key.toList.foldl (fun h c => Nat.xor h c.toNat * 16777619 % 2 ^ 32) 2166136261 % rowCount

/-- The row of a whole number. -/
def numberRow (n : Int) : Nat := (n % rowCount).toNat

namespace Table

/-- The number of elements. -/
def size (t : Table) : Nat := t.values.size

/-- A row of texts. -/
def textsAt (t : Table) (row : Nat) : List String := (t.texts[row]?).getD []

/-- A row of whole numbers. -/
def numbersAt (t : Table) (row : Nat) : List Int := (t.numbers[row]?).getD []

/-- Puts a text at the front of its row. -/
def frontText (t : Table) (key : String) : Table :=
  let row := textRow key
  { t with texts := t.texts.insert row (key :: (t.textsAt row).filter (· != key)) }

/-- Puts a whole number at the front of its row. -/
def frontNumber (t : Table) (n : Int) : Table :=
  let row := numberRow n
  { t with numbers := t.numbers.insert row (n :: (t.numbersAt row).filter (· != n)) }

/-- Puts all whole numbers into the rows of texts too. -/
def withTexts (t : Table) : Table :=
  if t.texted then t
  else
    let numbers := (List.range rowCount).flatMap t.numbersAt
    numbers.foldl (fun t n => t.frontText (toString n)) { t with texted := true }

/-- Looks a text up; one that is found moves to the front, one that is not is put there if `create`
says so. -/
def touchText (t : Table) (create : Bool) (key : String) : Table :=
  let t := t.withTexts
  if t.values.contains key then t.frontText key
  else if create then { t.frontText key with values := t.values.insert key .unset }
  else t

/-- Looks a key up; one that is found moves to the front, one that is not is put there if `create`
says so. -/
def touch (t : Table) (create : Bool) (key : Key) : Table :=
  if t.values.isEmpty && !create then t
  else
    match key with
    | .text key => t.touchText create key
    | .number n =>
      if (t.numbersAt (numberRow n)).contains n then t.frontNumber n
      else if t.texted then
        let t := t.touchText create (toString n)
        if t.values.contains (toString n) then t.frontNumber n else t
      else if create then { t.frontNumber n with values := t.values.insert (toString n) .unset }
      else t

/-- The value of a key, if it is there. -/
def find? (t : Table) (key : Key) : Option Value := t.values[key.shown]?

/-- The array with a value for a key. -/
def insert (t : Table) (key : Key) (v : Value) : Table :=
  let t := t.touch true key
  { t with values := t.values.insert key.shown v }

/-- The array without a key. -/
def erase (t : Table) (key : Key) : Table :=
  let text := key.shown
  if t.values.contains text then
    let t := t.touch false key
    let values := t.values.erase text
    if values.isEmpty then {}
    else
      let numbers := match intOf? text.toList with
        | some n => t.numbers.insert (numberRow n) ((t.numbersAt (numberRow n)).filter (· != n))
        | none => t.numbers
      { t with
        values, numbers
        texts := t.texts.insert (textRow text) ((t.textsAt (textRow text)).filter (· != text)) }
  else t

/-- The keys in the order in which a loop meets them. -/
def keys (t : Table) : List String := (List.range rowCount).flatMap t.withTexts.textsAt

end Table

end FormatChain.Tools.Awk
