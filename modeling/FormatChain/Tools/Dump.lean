import FormatChain.Number.Written
import FormatChain.Process.Numeral
import FormatChain.Process.Options

/-!
# Bytes as letters and numbers

Bytes are shown as letters of a small alphabet, or as numbers.

* `Alphabet`, `Alphabet.encode` : an alphabet, and how bytes are parted for it.
* `base64`, `base32` : the commands.
* `FloatShape`, `FloatShape.text` : numbers with a point, as they stand in bytes, and the fewest digits for them.
* `DumpForm` : how the numbers of bytes are written.
* `readForms` : the forms that are written, such as `x1` or `c`.
* `Dump` : the lines of a dump.
* `od` : the command.
-/

/-!
## Bytes as letters

Bytes are written in the letters of an alphabet, and read back.
-/

namespace FormatChain.Tools

open FormatChain.Process

/-- An alphabet, and how bytes are parted for it. -/
structure Alphabet where
  /-- The letters. -/
  letters : Array Char
  /-- The binary digits of a letter. -/
  bits : Nat
  /-- The letters that stand for one group of bytes. -/
  group : Nat

/-- The alphabet of 64 letters. -/
def alphabet64 : Alphabet :=
  ⟨"ABCDEFGHIJKLMNOPQRSTUVWXYZabcdefghijklmnopqrstuvwxyz0123456789+/".toList.toArray, 6, 4⟩

/-- The alphabet of 32 letters. -/
def alphabet32 : Alphabet := ⟨"ABCDEFGHIJKLMNOPQRSTUVWXYZ234567".toList.toArray, 5, 8⟩

namespace Alphabet

/-- The bytes of one group. -/
def groupBytes (a : Alphabet) : Nat := a.group * a.bits / 8

/-- The letters of the bytes of one group, which may be fewer. -/
def encodeGroup (a : Alphabet) (bytes : Bytes) : Bytes :=
  let value := bytes.foldl (fun n c => n * 256 + c.toNat) 0
  let count := (bytes.length * 8 + a.bits - 1) / a.bits
  let value := value * 2 ^ (count * a.bits - bytes.length * 8)
  let letters := (List.range count).map fun i =>
    a.letters.getD (value / 2 ^ ((count - 1 - i) * a.bits) % 2 ^ a.bits) '='
  letters ++ List.replicate (a.group - count) '='

/-- The letters of bytes, in at most so many groups; `done` are those of the bytes before. -/
def encodeFrom (a : Alphabet) : Nat → List Bytes → Bytes → Bytes
  | 0, done, _ => done.reverse.flatten
  | _, done, [] => done.reverse.flatten
  | groups + 1, done, bytes =>
    encodeFrom a groups (a.encodeGroup (bytes.take a.groupBytes) :: done) (bytes.drop a.groupBytes)

/-- The letters of bytes. -/
def encode (a : Alphabet) (bytes : Bytes) : Bytes := a.encodeFrom (bytes.length + 1) [] bytes

/-- The bytes of the letters of one group, and whether they are in order. -/
def decodeGroup (a : Alphabet) (letters : Bytes) : Bytes × Bool :=
  let digits := letters.takeWhile (· != '=')
  let values := digits.filterMap fun c => a.letters.findIdx? (· == c)
  let whole := values.length = digits.length
  let count := values.length * a.bits / 8
  let value := values.foldl (fun n v => n * 2 ^ a.bits + v) 0
  let value := value / 2 ^ (values.length * a.bits - count * 8)
  let bytes := (List.range count).map fun i =>
    Char.ofNat (value / 2 ^ ((count - 1 - i) * 8) % 256)
  let padded := letters.length = a.group && !digits.isEmpty && (letters.drop digits.length).all (· == '=')
  (bytes, whole && padded && (count * 8 + a.bits - 1) / a.bits = values.length)

/-- The bytes of letters in at most so many groups, and whether all are in order. -/
def decodeFrom (a : Alphabet) : Nat → List Bytes → Bytes → Bytes × Bool
  | 0, done, _ => (done.reverse.flatten, true)
  | _, done, [] => (done.reverse.flatten, true)
  | groups + 1, done, letters =>
    match a.decodeGroup (letters.take a.group) with
    | (bytes, true) => decodeFrom a groups (bytes :: done) (letters.drop a.group)
    | (bytes, false) => ((bytes :: done).reverse.flatten, false)

end Alphabet

/-- Bytes in lines of a width, in at most so many lines. -/
def wrapped (width : Nat) : Nat → List Bytes → Bytes → Bytes
  | 0, done, _ => done.reverse.flatten
  | _, done, [] => done.reverse.flatten
  | lines + 1, done, bytes => wrapped width lines ((bytes.take width ++ ['\n']) :: done) (bytes.drop width)

/-- Writes bytes in the letters of an alphabet, or back. -/
def recode (a : Alphabet) : Program := fun j => do
  let rules : OptionRules := {
    letters := "diw:", words := [("decode", 'd'), ("ignore-garbage", 'i'), ("wrap", 'w')] }
  let (given, operands) := rules.readSoFar j.args
  let widths := (given.filter fun g => g.letter == 'w').map fun g =>
    (g.value, amountAt "" (-greatestSigned - 1) greatestSigned g.value)
  let refused := widths.find? fun (_, n) => match n with
    | .ok n => n < 0
    | .error .beyond => false
    | .error _ => true
  match refused, operands with
  | some (value, _), _ => j.fail 1 s!"invalid wrap size: {quoted value}"
  | none, .error fault => j.misused 1 fault
  | none, .ok (_ :: extra :: _) => j.misused 1 s!"extra operand {quoted extra}"
  | none, .ok files =>
    let width : Nat := match widths.getLast? with
      | some (_, .ok n) => n.toNat
      | some (_, .error _) => 0
      | none => 76
    match ← j.readOperand (files.headD ['-']) with
    | none => return .code 1
    | some bytes =>
      if has given 'd' then
        let letters := bytes.filter fun c => c != '\n'
          && (!has given 'i' || c = '=' || a.letters.contains c)
        let (decoded, well) := a.decodeFrom (letters.length + 1) [] letters
        Running.write decoded
        if well then return success else j.fail 1 "invalid input"
      else
        let letters := a.encode bytes
        match width with
        | 0 => Running.write letters
        | n => Running.write (wrapped n (letters.length + 1) [] letters)
        return success

/-- Writes bytes in an alphabet of 64 letters. -/
def base64 : Program := recode alphabet64

/-- Writes bytes in an alphabet of 32 letters. -/
def base32 : Program := recode alphabet32

end FormatChain.Tools

/-!
## Bytes as numbers

Bytes are written line by line as numbers of a size and in a base, or as characters.  Several forms of
the same bytes stand below each other.
-/

namespace FormatChain.Tools

open FormatChain.Process

/-! ### Numbers with a point -/

/-- How a number with a point stands in bytes. -/
structure FloatShape where
  /-- The bytes that hold it. -/
  bytes : Nat
  /-- The binary digits of its power. -/
  powerBits : Nat
  /-- The binary digits after the first one. -/
  fractionBits : Nat
  /-- Whether the first digit is written too. -/
  whole : Bool
  /-- The fewest digits in base ten that are written. -/
  leastDigits : Nat
  /-- The most digits in base ten that are written. -/
  mostDigits : Nat
  /-- The columns of it. -/
  width : Nat

/-- The shape of numbers of so many bytes. -/
def floatShape? (size : Nat) : Option FloatShape :=
  match size with
  | 4 => some ⟨4, 8, 23, false, 6, 9, 15⟩
  | 8 => some ⟨8, 11, 52, false, 15, 17, 24⟩
  | 16 => some ⟨10, 15, 63, true, 18, 21, 29⟩
  | _ => none

namespace FloatShape

/-- Whether a quotient of digits is nearest to a number, which is a whole number times a power of two, among
those next to it. -/
def reads (mantissa : Nat) (power : Int) (edge : Bool) (num den : Nat) : Bool :=
  let scaled (power : Int) : Nat :=
    if 0 ≤ power then Number.roundQuotient num (den * 2 ^ power.toNat)
    else Number.roundQuotient (num * 2 ^ (-power).toNat) den
  scaled power = mantissa && (!edge || scaled (power - 1) = 2 * mantissa
    || (2 * mantissa < scaled (power - 1)))

/-- The number that stands in bytes, the least first, in the fewest digits that tell it from others. -/
def text (s : FloatShape) (bytes : Bytes) : Bytes :=
  let value := (bytes.take s.bytes).reverse.foldl (fun n c => n * 256 + c.toNat) 0
  let stored := s.fractionBits + (if s.whole then 1 else 0)
  let fraction := value % 2 ^ stored
  let power := value / 2 ^ stored % 2 ^ s.powerBits
  let sign : Bytes := if value / 2 ^ (stored + s.powerBits) = 1 then ['-'] else []
  let first := 2 ^ s.fractionBits
  let odd := s.whole && (0 < power && fraction < first)
  if power = 2 ^ s.powerBits - 1 || odd then
    sign ++ (if !odd && fraction % first = 0 then "inf".toList else "nan".toList)
  else
    let mantissa := if s.whole || power = 0 then fraction else first + fraction
    let bias : Int := (2 ^ (s.powerBits - 1) - 1 : Nat)
    let exponent : Int := (max power 1 : Nat) - bias - s.fractionBits
    let (num, den) : Nat × Nat :=
      if 0 ≤ exponent then (mantissa * 2 ^ exponent.toNat, 1) else (mantissa, 2 ^ (-exponent).toNat)
    let edge := mantissa = first && 1 < power
    let least := if mantissa < first then 1 else s.leastDigits
    let written (digits : Nat) := Number.generalText 'e' false digits num den
    let fitting := (List.range (s.mostDigits - least)).find? fun more =>
      match Numeral.read? (written (least + more)) with
      | some (.finite _ m d, _) => mantissa = 0 || reads mantissa exponent edge m d
      | _ => false
    sign ++ written ((fitting.map (least + ·)).getD s.mostDigits)

end FloatShape

/-! ### Forms -/

/-- How the numbers of bytes are written. -/
structure DumpForm where
  /-- The letter of the form. -/
  letter : Char
  /-- The bytes of one number. -/
  size : Nat
  /-- Whether the bytes follow as they are. -/
  shown : Bool := false
  deriving Inhabited

/-- The width of a number. -/
def DumpForm.width (f : DumpForm) : Nat :=
  let digits (base : Nat) (n : Nat) := (Nat.toDigits base n).length
  let largest := 256 ^ f.size - 1
  match f.letter with
  | 'o' => digits 8 largest
  | 'x' => 2 * f.size
  | 'u' => digits 10 largest
  | 'd' => digits 10 (256 ^ f.size / 2) + 1
  | 'f' => ((floatShape? f.size).map (·.width)).getD 3
  | _ => 3

/-- The names of the bytes that cannot be printed. -/
def byteNames : List String :=
  ["nul", "soh", "stx", "etx", "eot", "enq", "ack", "bel", "bs", "ht", "nl", "vt", "ff", "cr", "so", "si",
    "dle", "dc1", "dc2", "dc3", "dc4", "nak", "syn", "etb", "can", "em", "sub", "esc", "fs", "gs", "rs",
    "us", "sp"]

/-- A byte as a character. -/
def characterText (c : Char) : Bytes :=
  match c with
  | '\x00' => ['\\', '0']
  | '\x07' => ['\\', 'a']
  | '\x08' => ['\\', 'b']
  | '\t' => ['\\', 't']
  | '\n' => ['\\', 'n']
  | '\x0b' => ['\\', 'v']
  | '\x0c' => ['\\', 'f']
  | '\r' => ['\\', 'r']
  | c => if isPrintByte c then [c] else padZeros 3 (octalText c.toNat)

/-- The number of bytes as a form writes it; whether the greatest byte comes first. -/
def DumpForm.text (f : DumpForm) (greatFirst : Bool) (bytes : Bytes) : Bytes :=
  let ordered := if greatFirst then bytes else bytes.reverse
  let value := ordered.foldl (fun n c => n * 256 + c.toNat) 0
  match f.letter with
  | 'c' => characterText (bytes.headD '\x00')
  | 'a' =>
    let n := value % 128
    if n = 127 then "del".toList
    else match byteNames[n]? with
      | some name => name.toList
      | none => [Char.ofNat n]
  | 'f' => ((floatShape? f.size).map fun shape => shape.text ordered.reverse).getD []
  | 'o' => padZeros f.width (octalText value)
  | 'x' => padZeros f.width (hexText value)
  | 'u' => digitsOf value
  | _ =>
    let half := 256 ^ f.size / 2
    integerText (if half ≤ value then (value : Int) - (256 ^ f.size : Nat) else value)

/-- The size that a letter stands for. -/
def sizeLetter? (letter : Char) : Option Nat :=
  match letter with
  | 'C' => some 1
  | 'S' => some 2
  | 'I' => some 4
  | 'L' => some 8
  | _ => none

/-- The forms that are written, or what is wrong with them, in at most so many steps. -/
def readForms (all : Bytes) : Nat → Bytes → Except String (List DumpForm)
  | 0, _ => .ok []
  | _, [] => .ok []
  | steps + 1, letter :: rest => do
    let add (size : Nat) (rest : Bytes) : Except String (List DumpForm) := do
      let (shown, rest) := match rest with
        | 'z' :: rest => (true, rest)
        | rest => (false, rest)
      return ⟨letter, size, shown⟩ :: (← readForms all steps rest)
    if letter = 'a' || letter = 'c' then add 1 rest
    else if letter = 'f' then
      match rest with
      | 'F' :: rest => add 4 rest
      | 'D' :: rest => add 8 rest
      | 'L' :: rest => add 16 rest
      | _ =>
        match readNat rest with
        | (_, 0, _) => add 8 rest
        | (n, _, rest) =>
          if (floatShape? n).isSome then add n rest
          else
            throw s!"invalid type string {quoted all};\nthis system doesn't provide a {n}-byte floating point type"
    else if ['d', 'o', 'u', 'x'].contains letter then
      match rest.head?.bind sizeLetter? with
      | some size => add size (rest.drop 1)
      | none =>
        match readNat rest with
        | (_, 0, _) => add 4 rest
        | (n, _, rest) =>
          if [1, 2, 4, 8].contains n then add n rest
          else
            throw s!"invalid type string {quoted all};\nthis system doesn't provide a {n}-byte integral type"
    else throw s!"invalid character '{letter}' in type string {quoted all}"

/-- The form that an old option of one letter stands for. -/
def oldForm? (letter : Char) : Option DumpForm :=
  match letter with
  | 'a' => some ⟨'a', 1, false⟩
  | 'B' => some ⟨'o', 2, false⟩
  | 'b' => some ⟨'o', 1, false⟩
  | 'c' => some ⟨'c', 1, false⟩
  | 'D' => some ⟨'u', 4, false⟩
  | 'e' => some ⟨'f', 8, false⟩
  | 'F' => some ⟨'f', 8, false⟩
  | 'f' => some ⟨'f', 4, false⟩
  | 'd' => some ⟨'u', 2, false⟩
  | 'H' => some ⟨'x', 4, false⟩
  | 'X' => some ⟨'x', 4, false⟩
  | 'h' => some ⟨'x', 2, false⟩
  | 'x' => some ⟨'x', 2, false⟩
  | 'I' => some ⟨'d', 8, false⟩
  | 'L' => some ⟨'d', 8, false⟩
  | 'l' => some ⟨'d', 8, false⟩
  | 'i' => some ⟨'d', 4, false⟩
  | 'O' => some ⟨'o', 4, false⟩
  | 'o' => some ⟨'o', 2, false⟩
  | 's' => some ⟨'d', 2, false⟩
  | _ => none

/-! ### Lines -/

/-- What is dumped, and how. -/
structure Dump where
  /-- The forms. -/
  forms : List DumpForm := []
  /-- The letter of the base of places; none if they are not written. -/
  base : Option Char := some 'o'
  /-- The bytes of a line. -/
  width : Nat := 16
  /-- Whether lines like the one before are written. -/
  all : Bool := false
  /-- Whether the greatest byte comes first. -/
  greatFirst : Bool := false
  /-- How many bytes are passed over. -/
  skip : Nat := 0
  /-- How many bytes are written at most. -/
  most : Option Nat := none
  /-- How many bytes a text has at least, if only texts are written. -/
  texts : Option Nat := none

namespace Dump

/-- A place. -/
def place (d : Dump) (n : Nat) : Bytes :=
  match d.base with
  | none => []
  | some 'x' => padZeros 6 (hexText n)
  | some 'd' => padZeros 7 (digitsOf n)
  | some _ => padZeros 7 (octalText n)

/-- The width of all numbers of a line in the widest form. -/
def rowWidth (d : Dump) : Nat :=
  d.forms.foldl (fun w f => max w ((f.width + 1) * (d.width / f.size))) 0

/-- The bytes of a line in groups of a size, the last one filled with zeros. -/
def groups (size : Nat) : Nat → Bytes → List Bytes
  | 0, _ => []
  | _, [] => []
  | steps + 1, bytes =>
    let group := bytes.take size
    (group ++ List.replicate (size - group.length) '\x00') :: groups size steps (bytes.drop size)

/-- The numbers of a line in a form. What the form is less wide than the widest one stands before its
numbers in equal parts. -/
def row (d : Dump) (f : DumpForm) (line : Bytes) : Bytes :=
  let fields := d.width / f.size
  let spare := d.rowWidth - (f.width + 1) * fields
  let numbers := (groups f.size (line.length + 1) line).zipIdx.flatMap fun (group, i) =>
    let before := spare * (fields - i) / fields
    let after := spare * (fields - i - 1) / fields
    ' ' :: padStart (f.width + (before - after)) (f.text d.greatFirst group)
  if f.shown then
    let blank := (d.width - line.length) / f.size
    numbers ++ List.replicate (blank * (f.width + 1)) ' ' ++ ' ' :: ' ' :: '>'
      :: line.map (fun c => if isPrintByte c then c else '.') ++ ['<']
  else numbers

/-- The lines of bytes from a place on, in at most so many, the latest first; a row of equal lines becomes a
star. -/
def linesFrom (d : Dump) : Nat → Nat → Option Bytes → Bool → List Bytes → Bytes → List Bytes
  | 0, _, _, _, done, _ => done
  | _, n, _, _, done, [] =>
    let last := d.place n
    (if last.isEmpty then [] else last ++ ['\n']) :: done
  | lines + 1, n, before, starred, done, bytes =>
    let line := bytes.take d.width
    let rest := bytes.drop d.width
    if !d.all && before = some line && line.length = d.width then
      linesFrom d lines (n + d.width) before true (if starred then done else ['*', '\n'] :: done) rest
    else
      let rows := d.forms.zipIdx.flatMap fun (form, i) =>
        (if i = 0 then d.place n else List.replicate (d.place n).length ' ') ++ d.row form line ++ ['\n']
      linesFrom d lines (n + line.length) (some line) false (rows :: done) rest

/-- The lines of bytes. -/
def lines (d : Dump) (bytes : Bytes) : Bytes :=
  (d.linesFrom (bytes.length + 2) d.skip none false [] bytes).reverse.flatten

/-- The texts among bytes with their places: bytes that can be printed, so many at least, with a zero after
them. -/
def textsFrom (d : Dump) (least : Nat) : Nat → Nat → List Bytes → Bytes → List Bytes
  | 0, _, done, _ => done.reverse
  | _, _, done, [] => done.reverse
  | steps + 1, n, done, bytes =>
    let text := bytes.takeWhile isPrintByte
    let rest := bytes.drop text.length
    let found := least ≤ text.length && rest.head? = some '\x00'
    let place := d.place n
    let line := (if place.isEmpty then [] else place ++ [' ']) ++ text ++ ['\n']
    textsFrom d least steps (n + text.length + 1) (if found then line :: done else done) (rest.drop 1)

end Dump

/-! ### The command -/

/-- The number of an option, written in base eight after a zero and in base sixteen after a zero and an
x, or what is said of it. -/
def dumpAmount (letter : Char) (value : Bytes) : Except String Nat :=
  let (base, digits, text) : Nat × (Char → Option Nat) × Bytes := match value with
    | '0' :: 'x' :: rest => (16, hexDigit?, rest)
    | '0' :: 'X' :: rest => (16, hexDigit?, rest)
    | '0' :: rest => (8, octalDigit?, '0' :: rest)
    | rest => (10, decimalDigit?, rest)
  let (n, count, suffix) := readDigits digits base text.length 0 0 text
  if count = 0 then .error s!"invalid -{letter} argument {quoted value}"
  else
    match factorOf? "bEGKkMmPTYZ0" suffix with
    | none => .error s!"invalid suffix in -{letter} argument {quoted value}"
    | some factor =>
      if greatestUnsigned < n * factor then .error s!"-{letter} argument {quoted value} too large"
      else .ok (n * factor)

/-- The dump with an option. -/
def Dump.adding (d : Dump) (g : Given) : Except String Dump := do
  match g.letter with
  | 'A' =>
    match g.value with
    | 'n' :: _ => return { d with base := none }
    | c :: _ =>
      if ['d', 'o', 'x'].contains c then return { d with base := some c }
      else throw s!"invalid output address radix '{c}'; it must be one character from [doxn]"
    | [] => throw "invalid output address radix '\x00'; it must be one character from [doxn]"
  | 'j' => return { d with skip := ← dumpAmount 'j' g.value }
  | 'N' => return { d with most := some (← dumpAmount 'N' g.value) }
  | 't' => return { d with forms := d.forms ++ (← readForms g.value (g.value.length + 1) g.value) }
  | 'v' => return { d with all := true }
  | 'w' =>
    if g.value.isEmpty then return { d with width := 32 }
    else return { d with width := ← dumpAmount 'w' g.value }
  | 'S' =>
    if g.value.isEmpty then return { d with texts := some 3 }
    else return { d with texts := some (← dumpAmount 'S' g.value) }
  | letter => return { d with forms := d.forms ++ (oldForm? letter).toList }

/-- Writes bytes as numbers. -/
def od : Program := fun j => do
  let rules : OptionRules := {
    letters := "A:aBbcDdeFfHhIij:LlN:OosS:t:vw::Xx\x01:"
    words := [("address-radix", 'A'), ("skip-bytes", 'j'), ("read-bytes", 'N'), ("format", 't'),
      ("output-duplicates", 'v'), ("width", 'w'), ("endian", '\x01'), ("strings", 'S')] }
  let args := j.args.map fun arg => if arg = "--strings".toList then "--strings=3".toList else arg
  let (given, operands) := rules.readSoFar args
  let ends := (given.filter (·.letter == '\x01')).mapM fun g =>
    choose [(["little"], false), (["big"], true)] "--endian" g.value
  match (given.filter (·.letter != '\x01')).foldlM Dump.adding {}, ends, operands with
  | .error fault, _, _ => j.fail 1 fault
  | .ok _, .error fault, _ => j.misused 1 fault
  | .ok _, .ok _, .error fault => j.misused 1 fault
  | .ok d, .ok ends, .ok files =>
    let d := { d with greatFirst := ends.getLast?.getD false }
    if d.texts.isSome && !d.forms.isEmpty then
      return ← j.fail 1 "no type may be specified when dumping strings"
    let d := if d.forms.isEmpty then { d with forms := [⟨'o', 2, false⟩] } else d
    let unit := d.forms.foldl (fun n f => max n f.size) 1
    let width := if d.width % unit = 0 && 0 < d.width then d.width else unit
    if width ≠ d.width then j.complain s!"warning: invalid width {d.width}; using {width} instead"
    let (contents, well) ← j.readAll files
    let bytes := contents.flatten
    if bytes.length < d.skip then j.fail 1 "cannot skip past end of combined input"
    else
      let bytes := bytes.drop d.skip
      let bytes := match d.most with
        | some n => bytes.take n
        | none => bytes
      match d.texts with
      | some least => Running.write (d.textsFrom least (bytes.length + 1) d.skip [] bytes).flatten
      | none => Running.write ({ d with width }.lines bytes)
      return statusOf well

end FormatChain.Tools
