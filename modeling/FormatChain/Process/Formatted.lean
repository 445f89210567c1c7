import FormatChain.Number.Written
import FormatChain.Process.Escape
import FormatChain.Process.Numeral
import FormatChain.Process.World

/-!
# Formats with conversions

A format is a text with conversions, which stand for the arguments in order.  It is used again while
arguments are left.  Each of the commands that take formats words its complaints in its own way.

* `Layout` : how a value is laid out, with its width and its places.
* `Conversion`, `Conversion.read?` : a conversion as it is written.
* `FormatStyle`, `formatted` : the formats of a command.
-/

namespace FormatChain.Process

open FormatChain.Number

/-! ## Laying values out -/

/-- How a value is laid out. -/
structure Layout where
  /-- Whether the spaces are on the right. -/
  left : Bool := false
  /-- Whether numbers that are not below zero have a sign. -/
  plus : Bool := false
  /-- Whether numbers that are not below zero have a space for a sign. -/
  blank : Bool := false
  /-- Whether the base is shown, and zeros at the end are kept. -/
  alternate : Bool := false
  /-- Whether zeros fill the width. -/
  zeros : Bool := false
  /-- The width. -/
  width : Nat := 0
  /-- The places. -/
  precision : Option Nat := none
  deriving Inhabited

namespace Layout

/-- Bytes with spaces up to the width. -/
def pad (l : Layout) (bytes : Bytes) : Bytes :=
  if l.left then padEnd l.width bytes else padStart l.width bytes

/-- A text, cut to the places. -/
def text (l : Layout) (bytes : Bytes) : Bytes :=
  l.pad (match l.precision with
    | some n => bytes.take n
    | none => bytes)

/-- The sign of a number. -/
def sign (l : Layout) (negative : Bool) : Bytes :=
  if negative then ['-'] else if l.plus then ['+'] else if l.blank then [' '] else []

/-- A number of a sign or a mark of its base and digits, with zeros up to the width if those may
fill it. -/
def number (l : Layout) (before digits : Bytes) (fill : Bool) : Bytes :=
  if l.zeros && !l.left && fill then
    before ++ padZeros (l.width - before.length) digits
  else l.pad (before ++ digits)

/-- A whole number with a sign. -/
def integer (l : Layout) (n : Int) : Bytes :=
  let digits := match l.precision with
    | some 0 => if n = 0 then [] else digitsOf n.natAbs
    | some least => padZeros least (digitsOf n.natAbs)
    | none => digitsOf n.natAbs
  l.number (l.sign (decide (n < 0))) digits l.precision.isNone

/-- A whole number in a base, given by its letter. -/
def natural (l : Layout) (letter : Char) (n : Nat) : Bytes :=
  let digits := match letter with
    | 'o' => octalText n
    | 'x' => hexText n
    | 'X' => (hexText n).map Char.toUpper
    | _ => digitsOf n
  let digits := match l.precision with
    | some 0 => if n = 0 then [] else digits
    | some least => padZeros least digits
    | none => digits
  let mark := if !l.alternate || n = 0 then [] else match letter with
    | 'o' => if digits.head? = some '0' then [] else ['0']
    | 'x' => ['0', 'x']
    | 'X' => ['0', 'X']
    | _ => []
  l.number mark digits l.precision.isNone

/-- A quotient, written as a letter says. -/
def quotient (l : Layout) (letter : Char) (negative : Bool) (num den : Nat) : Bytes :=
  let places := l.precision.getD 6
  let digits := match letter with
    | 'e' => scientificText 'e' l.alternate places num den
    | 'E' => scientificText 'E' l.alternate places num den
    | 'g' => generalText 'e' l.alternate places num den
    | 'G' => generalText 'E' l.alternate places num den
    | _ => fixedText l.alternate places num den
  l.number (l.sign negative) digits true

/-- A number of any form, written as a letter says; its quotients have so many binary digits. -/
def numeral (l : Layout) (letter : Char) (bits : Nat) : Numeral → Bytes
  | .finite negative num den =>
    if letter = 'a' then
      l.number (l.sign negative ++ ['0', 'x']) (binaryText bits l.alternate l.precision num den) true
    else if letter = 'A' then
      let digits := (binaryText bits l.alternate l.precision num den).map Char.toUpper
      l.number (l.sign negative ++ ['0', 'X']) digits true
    else l.quotient letter negative num den
  | .infinite negative => word negative "inf"
  | .notANumber negative => word negative "nan"
where
  /-- A word for what is not finite. -/
  word (negative : Bool) (text : String) : Bytes :=
    let shown := l.sign negative ++ text.toList
    l.pad (if letter.isUpper then shown.map Char.toUpper else shown)

end Layout

/-! ## Conversions -/

/-- A number in a conversion. -/
inductive Measure where
  /-- None. -/
  | none
  /-- The number of an argument. -/
  | argument
  /-- This number. -/
  | exactly (n : Nat)
  deriving Repr, DecidableEq

/-- A conversion as it is written. -/
structure Conversion where
  /-- What it asks for, without the numbers. -/
  layout : Layout
  /-- The width. -/
  width : Measure
  /-- The places. -/
  precision : Measure
  /-- All bytes of it. -/
  written : Bytes
  /-- The letter, if there is one. -/
  letter : Option Char
  /-- What follows it. -/
  rest : Bytes

namespace Conversion

/-- A number or an asterisk, and the rest. -/
def readMeasure : Bytes → Measure × Bytes
  | '*' :: rest => (.argument, rest)
  | bytes =>
    match readNat bytes with
    | (_, 0, rest) => (.none, rest)
    | (n, _, rest) => (.exactly n, rest)

/-- The conversion after a percent sign with these flags. Letters for sizes may stand before its letter if
that is allowed. -/
def readWith (known : List Char) (sizes : Bool) (bytes : Bytes) : Conversion :=
  let flags := bytes.takeWhile known.contains
  let rest := bytes.drop flags.length
  let (width, rest) := readMeasure rest
  let (precision, rest) := match rest with
    | '.' :: after =>
      match readMeasure after with
      | (.none, after) => (Measure.exactly 0, after)
      | found => found
    | _ => (.none, rest)
  let rest := if sizes then rest.dropWhile fun c => ['h', 'l', 'L', 'j', 'z', 't'].contains c
    else rest
  let after := rest.drop 1
  { layout := {
      left := flags.contains '-'
      plus := flags.contains '+'
      blank := flags.contains ' '
      alternate := flags.contains '#'
      zeros := flags.contains '0' }
    width
    precision
    written := '%' :: bytes.take (bytes.length - after.length)
    letter := rest.head?
    rest := after }

/-- The flags of conversions that everybody knows. -/
def plainFlags : List Char := ['-', '+', ' ', '#', '0']

/-- The conversion after a percent sign. Where letters for sizes are allowed, so is the quote as a
flag. -/
def read (sizes : Bool) (bytes : Bytes) : Conversion :=
  readWith (if sizes then '\'' :: plainFlags else plainFlags) sizes bytes

/-- Whether it asks for nothing that its letter has no use for. -/
def isApt (c : Conversion) : Bool :=
  match c.letter with
  | none => true
  | some letter =>
    let among (letters : String) : Bool := letters.toList.contains letter
    if among "bq" then c.written.length = 2
    else
      !(c.layout.alternate && among "cdisu") && !(c.layout.zeros && among "cs")
        && !(c.written.contains '\'' && among "aAceEosxX") && !(c.precision != .none && among "c")

end Conversion

/-! ## Numbers in arguments -/

/-- How well an argument is a number. -/
inductive Fit where
  /-- It is one. -/
  | whole
  /-- It starts with one. -/
  | part
  /-- It is none. -/
  | none
  /-- It is one that is too large. -/
  | beyond
  deriving Repr, DecidableEq

/-- The whole number at the start of bytes without a sign, written in base ten, in base sixteen after
a zero and an x, or in base eight after a zero; how many digits it has; and the rest. -/
def readLiteral : Bytes → Nat × Nat × Bytes
  | '0' :: x :: rest =>
    if x = 'x' || x = 'X' then
      match readDigits hexDigit? 16 rest.length 0 0 rest with
      | (_, 0, _) => (0, 1, x :: rest)
      | found => found
    else
      let (n, count, rest) := readDigits octalDigit? 8 (rest.length + 1) 0 0 (x :: rest)
      (n, count + 1, rest)
  | bytes => readNat bytes

/-- The whole number that an argument starts with. A quote before a byte stands for the number of the
byte. -/
def integerArgument (bytes : Bytes) : Int × Fit :=
  match bytes with
  | quote :: c :: rest =>
    if quote = '\'' || quote = '"' then
      (c.toNat, if rest.isEmpty then .whole else .part)
    else plain bytes
  | _ => plain bytes
where
  /-- The number without quotes. -/
  plain (bytes : Bytes) : Int × Fit :=
    let trimmed := bytes.dropWhile isSpaceByte
    let (negative, digits) := match trimmed with
      | '-' :: rest => (true, rest)
      | '+' :: rest => (false, rest)
      | rest => (false, rest)
    match readLiteral digits with
    | (_, 0, _) => (0, if bytes.isEmpty then .whole else .none)
    | (n, _, rest) => (if negative then -(n : Int) else n, if rest.isEmpty then .whole else .part)

/-- The quotient that a decimal number at the start of bytes is: its digits, the power of ten, and
the rest; none if there is no digit. -/
def readDecimal? (bytes : Bytes) : Option (Nat × Int × Bytes) :=
  let whole := bytes.takeWhile Char.isDigit
  let rest := bytes.drop whole.length
  let (fraction, rest) := match rest with
    | '.' :: after => (after.takeWhile Char.isDigit, after.dropWhile Char.isDigit)
    | _ => ([], rest)
  if whole.isEmpty && fraction.isEmpty then none
  else
    let digits := (readNat (whole ++ fraction)).1
    let scale : Int := -(fraction.length : Int)
    match rest with
    | e :: after =>
      if e = 'e' || e = 'E' then
        let (negative, after) := match after with
          | '-' :: after => (true, after)
          | '+' :: after => (false, after)
          | after => (false, after)
        match readNat after with
        | (_, 0, _) => some (digits, scale, rest)
        | (n, _, after) => some (digits, scale + (if negative then -(n : Int) else n), after)
      else some (digits, scale, rest)
    | [] => some (digits, scale, rest)

/-- A number times a power of ten, as a quotient. -/
def scaled (digits : Nat) (exponent : Int) : Nat × Nat :=
  let exponent := max (-5000) (min 5000 exponent)
  if 0 ≤ exponent then (digits * 10 ^ exponent.toNat, 1) else (digits, 10 ^ (-exponent).toNat)

/-- The number nearest to another one among those with so many binary digits, and how well that fits. -/
def Numeral.nearest (bits : Nat) : Numeral → Numeral × Fit
  | .finite negative num den =>
    let (num, den) := nearestWithBits bits num den
    let most : Int := if bits ≤ 53 then 1024 else 16384
    if num ≠ 0 && most ≤ (num.log2 : Int) - den.log2 then (.infinite negative, .beyond)
    else (.finite negative num den, .whole)
  | other => (other, .whole)

/-- The number that an argument starts with, with so many binary digits. -/
def numeralArgument (bits : Nat) (bytes : Bytes) : Numeral × Fit :=
  match bytes with
  | quote :: c :: rest =>
    if quote = '\'' || quote = '"' then
      (.finite false c.toNat 1, if rest.isEmpty then .whole else .part)
    else plain bytes
  | _ => plain bytes
where
  /-- The number without quotes. -/
  plain (bytes : Bytes) : Numeral × Fit :=
    match Numeral.read? (bytes.dropWhile isSpaceByte) with
    | none => (.finite false 0 1, if bytes.isEmpty then .whole else .none)
    | some (n, rest) =>
      match n.nearest bits with
      | (n, .beyond) => (n, .beyond)
      | (n, _) => (n, if rest.isEmpty then .whole else .part)

/-! ## Formats -/

/-- The formats of a command. -/
structure FormatStyle where
  /-- The escapes in a format. -/
  escapes : EscapeRules
  /-- The escapes in an argument that has escapes. -/
  argumentEscapes : EscapeRules
  /-- How an argument is refused that is no number. -/
  noNumber : Bytes → String
  /-- How an argument is refused of which only the start is a number. -/
  partNumber : Bytes → String
  /-- How a number is refused that is too large. -/
  tooLarge : Bytes → String
  /-- How a conversion is refused, and with which number the command ends. -/
  unknown : Conversion → String
  /-- The number with which the command ends that has an unknown conversion. -/
  unknownStatus : Nat := 1
  /-- The binary digits of quotients. -/
  bits : Nat := 53
  /-- Whether letters for sizes may stand in conversions. -/
  sizes : Bool := false
  /-- Whether a conversion shows texts as a shell would read them. -/
  quoting : Option (Bytes → Bytes) := none
  /-- Whether conversions are refused that ask for what their letter has no use for, and those of texts
  that are not given make nothing. -/
  strict : Bool := false
  /-- What a conversion in parentheses makes of a moment in seconds, if there are such conversions. -/
  moments : Option (Bytes → Int → Bytes) := none
  /-- The moment at which all happens. -/
  now : Int := 1700000000

/-- What is made of a format by now. -/
structure Formatting where
  /-- What was written, the latest first. -/
  written : List Bytes := []
  /-- What was complained about, the latest first. -/
  complaints : List String := []
  /-- The arguments that are left. -/
  args : List Bytes := []
  /-- Whether an argument was taken. -/
  took : Bool := false
  /-- Whether something ended all early, and with which number. -/
  ended : Option Nat := none
  deriving Inhabited

namespace Formatting

/-- Adds bytes. -/
def add (f : Formatting) (bytes : Bytes) : Formatting := { f with written := bytes :: f.written }

/-- The next argument. -/
def next (f : Formatting) : Bytes × Formatting :=
  (f.args.headD [], { f with args := f.args.drop 1, took := true })

/-- Complains of an argument that is no number. -/
def judge (style : FormatStyle) (f : Formatting) (arg : Bytes) : Fit → Formatting
  | .whole => f
  | .part => { f with complaints := style.partNumber arg :: f.complaints }
  | .none => { f with complaints := style.noNumber arg :: f.complaints }
  | .beyond => { f with complaints := style.tooLarge arg :: f.complaints }

/-- The number of a conversion, taken from the arguments if need be. -/
def measure (style : FormatStyle) (f : Formatting) : Measure → Option Int × Formatting
  | .none => (none, f)
  | .exactly n => (some n, f)
  | .argument =>
    let (arg, f) := f.next
    let (n, fit) := integerArgument arg
    (some n, f.judge style arg fit)

/-- The largest whole number of 64 binary digits with a sign. -/
def largestSigned : Int := 2 ^ 63 - 1

/-- The number of 64 binary digits without a sign that has the same digits. -/
def unsigned (n : Int) : Nat := (n % 2 ^ 64).toNat

/-- What is made of a conversion. -/
def convert (style : FormatStyle) (f : Formatting) (c : Conversion) : Formatting :=
  let (width, f) := f.measure style c.width
  let (precision, f) := f.measure style c.precision
  let width := width.getD 0
  let layout := { c.layout with
    left := c.layout.left || decide (width < 0)
    width := width.natAbs
    precision := precision.bind fun n => if n < 0 then none else some n.toNat }
  let refused := { f with
    complaints := style.unknown c :: f.complaints, ended := some style.unknownStatus }
  match c.letter with
  | none => refused
  | some letter =>
    if letter = '%' && c.written = ['%', '%'] then f.add ['%']
    else if style.strict && !c.isApt then refused
    else if style.strict && ['b', 'q'].contains letter && f.args.isEmpty then f
    else if ['d', 'i'].contains letter then
      let (arg, f) := f.next
      let (n, fit) := integerArgument arg
      let (n, fit) :=
        if largestSigned < n then (largestSigned, .beyond)
        else if n < -largestSigned - 1 then (-largestSigned - 1, .beyond)
        else (n, fit)
      (f.judge style arg fit).add (layout.integer n)
    else if ['o', 'u', 'x', 'X'].contains letter then
      let (arg, f) := f.next
      let (n, fit) := integerArgument arg
      let (n, fit) := if 2 ^ 64 ≤ n.natAbs then ((2 ^ 64 - 1 : Int), .beyond) else (n, fit)
      (f.judge style arg fit).add (layout.natural letter (unsigned n))
    else if ['a', 'A', 'e', 'E', 'f', 'F', 'g', 'G'].contains letter then
      let (arg, f) := f.next
      let (n, fit) := numeralArgument style.bits arg
      (f.judge style arg fit).add (layout.numeral letter style.bits n)
    else if letter = 'c' then
      let (arg, f) := f.next
      f.add (layout.pad (if arg.isEmpty then ['\x00'] else arg.take 1))
    else if letter = 's' then
      let (arg, f) := f.next
      f.add (layout.text arg)
    else if letter = 'b' then
      let (arg, f) := f.next
      let (bytes, whole) := unescape style.argumentEscapes arg
      let f := f.add (layout.text bytes)
      if whole then f else { f with ended := some 0 }
    else
      match letter, style.quoting with
      | 'q', some quote =>
        let (arg, f) := f.next
        f.add (layout.text (quote arg))
      | _, _ => refused

/-- What is made of a conversion that shows a moment; without an argument it is the one given. -/
def convertMoment (style : FormatStyle) (f : Formatting) (c : Conversion) (now : Int)
    (show_ : Int → Bytes) : Formatting :=
  let (width, f) := f.measure style c.width
  let (precision, f) := f.measure style c.precision
  let width := width.getD 0
  let layout := { c.layout with
    left := c.layout.left || decide (width < 0)
    width := width.natAbs
    precision := precision.map Int.toNat }
  if f.args.isEmpty then f.add (layout.text (show_ now))
  else
    let (arg, f) := f.next
    let (n, fit) := integerArgument arg
    (f.judge style arg fit).add (layout.text (show_ (if n < 0 ∧ -2 ≤ n then now else n)))

/-- The format of a conversion in parentheses, and what follows it. -/
def momentFormat? (rest : Bytes) : Option (Bytes × Bytes) :=
  let inner := rest.takeWhile (· != ')')
  match rest.drop inner.length with
  | ')' :: 'T' :: after => some (if inner.isEmpty then ['%', 'X'] else inner, after)
  | _ => none

/-- One pass over a format, in at most so many steps. -/
def pass (style : FormatStyle) : Nat → Formatting → Bytes → Formatting
  | 0, f, _ => f
  | _, f, [] => f
  | steps + 1, f, c :: rest =>
    if f.ended.isSome then f
    else if c = '\\' then
      match readEscape style.escapes rest with
      | (.bytes bytes, rest) => pass style steps (f.add bytes) rest
      | (.stop, _) => { f with ended := some 0 }
    else if c = '%' then
      let conversion := Conversion.read style.sizes rest
      let moment := if conversion.letter = some '(' then momentFormat? conversion.rest else none
      match style.moments, moment with
      | some show_, some (inner, after) =>
        pass style steps (f.convertMoment style conversion style.now (show_ inner)) after
      | _, _ => pass style steps (f.convert style conversion) conversion.rest
    else pass style steps (f.add [c]) rest

/-- Passes over a format while arguments are left, at most so many. -/
def passes (style : FormatStyle) (format : Bytes) : Nat → Formatting → Formatting
  | 0, f => f
  | most + 1, f =>
    let f := pass style (format.length + 1) { f with took := false } format
    if f.ended.isSome || !f.took || f.args.isEmpty then f else passes style format most f

end Formatting

/-- What becomes of a format and its arguments. -/
structure Formatted where
  /-- What is written. -/
  output : Bytes
  /-- The complaints, in order. -/
  complaints : List String
  /-- The number with which the command ends. -/
  status : Nat
  /-- The arguments that the format has no use for. -/
  ignored : List Bytes

/-- What becomes of a format and its arguments. -/
def formatted (style : FormatStyle) (format : Bytes) (args : List Bytes) : Formatted :=
  let f := Formatting.passes style format (args.length + 1) { args }
  let status := match f.ended with
    | some (n + 1) => n + 1
    | _ => if f.complaints.isEmpty then 0 else 1
  ⟨f.written.reverse.flatten, f.complaints.reverse, status, if f.took then [] else f.args⟩

end FormatChain.Process
