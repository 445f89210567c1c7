import FormatChain.Number.Binary64
import FormatChain.Text.Utf8

/-!
# Bytes that commands work on

Commands work on bytes, whether these are text or not.  Each byte is shown as the character of its
number.

* `Bytes` : bytes in order.
* `bytesOf`, `textOf` : between bytes and texts.
* `linesOf`, `Line` : bytes as lines.
* `natOf?`, `intOf?` : numbers written in bytes.
-/

namespace FormatChain.Process

open FormatChain.Text

/-- Bytes in order, each the character of its number. -/
abbrev Bytes := List Char

/-- The bytes given as numbers. -/
def ofNumbers (numbers : List UInt8) : Bytes := numbers.map fun b => Char.ofNat b.toNat

/-- The numbers of bytes. -/
def toNumbers (bytes : Bytes) : List UInt8 := bytes.map fun c => c.toNat.toUInt8

/-- The bytes of a text. -/
def bytesOf (text : String) : Bytes := ofNumbers (encodeUtf8 text)

/-- Bytes as a text. -/
def textOf (bytes : Bytes) : String := decodeLossy (toNumbers bytes)

/-- The digits of a number. -/
def digitsOf (n : Nat) : Bytes := (Nat.repr n).toList

/-- A whole number as it is written. -/
def integerText (n : Int) : Bytes :=
  if n < 0 then '-' :: digitsOf n.natAbs else digitsOf n.natAbs

/-- White space of one byte. -/
def isSpaceByte (c : Char) : Bool := c = ' ' || ('\t' ≤ c && c ≤ '\r')

/-- A space or a tab. -/
def isBlankByte (c : Char) : Bool := c = ' ' || c = '\t'

/-- Whether a byte may be shown as it is. -/
def isPrintByte (c : Char) : Bool := ' ' ≤ c && c ≤ '~'

/-- A small letter for a capital one. -/
def lowerByte (c : Char) : Char := c.toLower

/-- Whether bytes come before others or are the same, byte by byte. -/
def bytesBefore : Bytes → Bytes → Bool
  | [], _ => true
  | _ :: _, [] => false
  | a :: as, b :: bs => if a = b then bytesBefore as bs else a < b

/-- Pieces with something between them. -/
def joinWith (separator : Bytes) : List Bytes → Bytes
  | [] => []
  | first :: rest => first ++ rest.flatMap (separator ++ ·)

/-- Bytes with so many spaces before them that they have a width. -/
def padStart (width : Nat) (bytes : Bytes) : Bytes :=
  List.replicate (width - bytes.length) ' ' ++ bytes

/-- Bytes with so many spaces after them that they have a width. -/
def padEnd (width : Nat) (bytes : Bytes) : Bytes :=
  bytes ++ List.replicate (width - bytes.length) ' '

/-- The bytes between separators, at least one piece; `done` holds pieces and `current` bytes read
before, last first. -/
def splitFrom (separator : Char) (done : List Bytes) (current : Bytes) : Bytes → List Bytes
  | [] => (current.reverse :: done).reverse
  | c :: rest =>
    if c = separator then splitFrom separator (current.reverse :: done) [] rest
    else splitFrom separator done (c :: current) rest

/-- The bytes between separators, at least one piece. -/
def splitAtByte (separator : Char) (bytes : Bytes) : List Bytes :=
  splitFrom separator [] [] bytes

/-- The words between white space; `done` holds words and `current` bytes read before, last first. -/
def wordsFrom (done : List Bytes) (current : Bytes) : Bytes → List Bytes
  | [] => (if current.isEmpty then done else current.reverse :: done).reverse
  | c :: rest =>
    if isSpaceByte c then
      wordsFrom (if current.isEmpty then done else current.reverse :: done) [] rest
    else wordsFrom done (c :: current) rest

/-- The words between white space. -/
def wordsOf (bytes : Bytes) : List Bytes := wordsFrom [] [] bytes

/-! ## Lines -/

/-- A line of bytes. -/
structure Line where
  /-- What stands in it. -/
  body : Bytes
  /-- Whether it has an end; the last one may have none. -/
  ended : Bool
  deriving Inhabited, Repr, DecidableEq

/-- The bytes of a line, with the byte that ends lines. -/
def Line.bytesWith (mark : Char) (line : Line) : Bytes :=
  if line.ended then line.body ++ [mark] else line.body

/-- The bytes of a line. -/
def Line.bytes (line : Line) : Bytes := line.bytesWith '\n'

/-- The lines of bytes, given the lines and the bytes read before, last first. -/
def linesFrom (mark : Char) (done : List Line) (current : Bytes) : Bytes → List Line
  | [] => (if current.isEmpty then done else ⟨current.reverse, false⟩ :: done).reverse
  | c :: rest =>
    if c = mark then linesFrom mark (⟨current.reverse, true⟩ :: done) [] rest
    else linesFrom mark done (c :: current) rest

/-- The lines of bytes that a byte ends. -/
def linesEndedBy (mark : Char) (bytes : Bytes) : List Line := linesFrom mark [] [] bytes

/-- The lines of bytes. -/
def linesOf (bytes : Bytes) : List Line := linesEndedBy '\n' bytes

/-- The bytes of lines. -/
def joinLines (lines : List Line) : Bytes := lines.flatMap Line.bytes

/-- Bodies of lines, each with an end. -/
def endedLines (bodies : List Bytes) : Bytes := bodies.flatMap (· ++ ['\n'])

/-- The last elements. -/
def lastOf {α : Type} (n : Nat) (items : List α) : List α := items.drop (items.length - n)

/-! ## Numbers -/

/-- The digit of base eight that a byte is. -/
def octalDigit? (c : Char) : Option Nat :=
  if '0' ≤ c && c ≤ '7' then some (c.toNat - 48) else none

/-- The digit of base ten that a byte is. -/
def decimalDigit? (c : Char) : Option Nat :=
  if c.isDigit then some (c.toNat - 48) else none

/-- The digit of base sixteen that a byte is. -/
def hexDigit? (c : Char) : Option Nat :=
  if c.isDigit then some (c.toNat - 48)
  else if 'a' ≤ c && c ≤ 'f' then some (c.toNat - 87)
  else if 'A' ≤ c && c ≤ 'F' then some (c.toNat - 55)
  else none

/-- The number that up to so many digits at the start make up, how many there are, and the rest. -/
def readDigits (digit? : Char → Option Nat) (base : Nat) : Nat → Nat → Nat → Bytes →
    Nat × Nat × Bytes
  | most + 1, count, value, c :: rest =>
    match digit? c with
    | some d => readDigits digit? base most (count + 1) (value * base + d) rest
    | none => (value, count, c :: rest)
  | _, count, value, rest => (value, count, rest)

/-- The number at the start, how many digits it has, and the rest. -/
def readNat (bytes : Bytes) : Nat × Nat × Bytes :=
  readDigits decimalDigit? 10 bytes.length 0 0 bytes

/-- The number that bytes are, all of them digits. -/
def natOf? (bytes : Bytes) : Option Nat :=
  match readNat bytes with
  | (n, _ + 1, []) => some n
  | _ => none

/-- The number that bytes are, a sign before it or not. -/
def intOf? (bytes : Bytes) : Option Int :=
  match bytes with
  | '-' :: rest => (natOf? rest).map fun n => -(n : Int)
  | '+' :: rest => (natOf? rest).map fun n => (n : Int)
  | rest => (natOf? rest).map fun n => (n : Int)

/-- The number in base eight. -/
def octalText (n : Nat) : Bytes := Nat.toDigits 8 n

/-- The number in base sixteen. -/
def hexText (n : Nat) : Bytes := Nat.toDigits 16 n

/-- Bytes with so many zeros before them that they have a width. -/
def padZeros (width : Nat) (bytes : Bytes) : Bytes :=
  List.replicate (width - bytes.length) '0' ++ bytes

end FormatChain.Process
