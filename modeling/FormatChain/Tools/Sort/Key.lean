import FormatChain.Process.Escape
import FormatChain.Process.Numeral

/-!
# Keys of lines

Lines are put in order by their keys, each of which is compared in an order of its own.

* `SortOrder` : how texts are compared.
* `NumberKey.compare` : the order of numbers that are written with digits and a point.
* `compareVersions` : the order of names that hold versions.
* `SortOrder.compare` : the order of two texts.
* `KeyEnd`, `SortKey` : a key.
* `SortKey.read` : the key that bytes write, or what is wrong with them.
* `SortKey.readOld?` : a key in the old way of writing it.
* `SortKey.part` : the part of a line that is a key.
-/

/-!
## The order of texts

Texts are put in order byte by byte, or as numbers, sizes, months or versions.
-/

namespace FormatChain.Tools

open FormatChain.Process

/-! ### Bytes and numbers -/

/-- The order of bytes. -/
def compareBytes (a b : Bytes) : Ordering :=
  if a = b then .eq else if bytesBefore a b then .lt else .gt

/-- A number at the start of bytes: its sign, the digits before the point without zeros at their
start, and those after it without zeros at their end. -/
structure NumberKey where
  /-- Whether it is below zero. -/
  negative : Bool
  /-- The digits before the point. -/
  whole : Bytes
  /-- The digits after the point. -/
  fraction : Bytes
  /-- What follows the number. -/
  rest : Bytes
  deriving Inhabited

/-- The number at the start of bytes. -/
def NumberKey.of (bytes : Bytes) : NumberKey :=
  let bytes := bytes.dropWhile isBlankByte
  let (negative, bytes) := match bytes with
    | '-' :: rest => (true, rest)
    | _ => (false, bytes)
  let whole := bytes.takeWhile Char.isDigit
  let rest := bytes.drop whole.length
  let (fraction, rest) := match rest with
    | '.' :: after => (after.takeWhile Char.isDigit, after.dropWhile Char.isDigit)
    | _ => ([], rest)
  let whole := whole.dropWhile (· == '0')
  let fraction := (fraction.reverse.dropWhile (· == '0')).reverse
  ⟨negative && !(whole.isEmpty && fraction.isEmpty), whole, fraction, rest⟩

/-- The order of two numbers. -/
def NumberKey.compare (a b : NumberKey) : Ordering :=
  let magnitude (a b : NumberKey) : Ordering :=
    if a.whole.length < b.whole.length then .lt
    else if b.whole.length < a.whole.length then .gt
    else (compareBytes a.whole b.whole).then (compareBytes a.fraction b.fraction)
  match a.negative, b.negative with
  | true, false => .lt
  | false, true => .gt
  | false, false => magnitude a b
  | true, true => magnitude b a

/-- The rank of a size for people: that of its suffix. -/
def sizeRank (key : NumberKey) : Int :=
  let units := ['k', 'M', 'G', 'T', 'P', 'E', 'Z', 'Y']
  let rank : Int := match key.rest.head? with
    | some 'K' => 1
    | some c => ((units.findIdx? (· = c)).map fun i => (i : Int) + 1).getD 0
    | none => 0
  if key.whole.isEmpty && key.fraction.isEmpty then 0 else if key.negative then -rank else rank

/-- The number of a month, zero if bytes name none. -/
def monthRank (bytes : Bytes) : Nat :=
  let name := ((bytes.dropWhile isBlankByte).take 3).map Char.toUpper
  let months := ["JAN", "FEB", "MAR", "APR", "MAY", "JUN", "JUL", "AUG", "SEP", "OCT", "NOV", "DEC"]
  match months.findIdx? fun month => month.toList = name with
  | some n => n + 1
  | none => 0

/-- The order of two texts as numbers of any form; a text that is none comes first. -/
def compareNumerals (a b : Bytes) : Ordering :=
  match Numeral.read? (a.dropWhile isSpaceByte), Numeral.read? (b.dropWhile isSpaceByte) with
  | none, none => .eq
  | none, some _ => .lt
  | some _, none => .gt
  | some (x, _), some (y, _) => x.compare y

/-! ### Versions -/

/-- The rank of a byte in versions, or of the end: a tilde before everything, letters before other
bytes. -/
def versionRank : Option Char → Int
  | none => -1
  | some c => if c.isDigit then 0 else if c.isAlpha then c.toNat else if c = '~' then -2 else c.toNat + 256

/-- The order of what stands before the next digits, and what follows it in both, in at most so many
steps. -/
def compareWords : Nat → Bytes → Bytes → Ordering × Bytes × Bytes
  | 0, a, b => (.eq, a, b)
  | steps + 1, a, b =>
    let isWord (x : Bytes) : Bool := (x.head?.map fun c => !c.isDigit).getD false
    if isWord a || isWord b then
      let m := versionRank a.head?
      let n := versionRank b.head?
      if m < n then (.lt, a, b) else if n < m then (.gt, a, b) else compareWords steps (a.drop 1) (b.drop 1)
    else (.eq, a, b)

/-- The order of versions, words and numbers by turns, in at most so many steps. -/
def comparePartsUpTo : Nat → Bytes → Bytes → Ordering
  | 0, _, _ => .eq
  | steps + 1, a, b =>
    if a.isEmpty && b.isEmpty then .eq
    else
      match compareWords (a.length + b.length + 1) a b with
      | (.eq, a, b) =>
        let (m, _, a) := readNat a
        let (n, _, b) := readNat b
        if m < n then .lt else if n < m then .gt else comparePartsUpTo steps a b
      | (different, _, _) => different

/-- The order of versions, words and numbers by turns. -/
def compareParts (a b : Bytes) : Ordering := comparePartsUpTo (a.length + b.length + 1) a b

/-- Whether bytes are suffixes of a file, each a point, a letter and letters or digits. -/
def areSuffixes : Nat → Bytes → Bool
  | _, [] => true
  | steps + 1, '.' :: c :: rest =>
    (c.isAlpha || c = '~') && areSuffixes steps (rest.dropWhile fun c => c.isAlphanum || c = '~')
  | _, _ => false

/-- A name without the suffixes at its end. -/
def withoutSuffixes (name : Bytes) : Bytes :=
  let start := (List.range name.length).find? fun i =>
    0 < i && name[i]? = some '.' && areSuffixes name.length (name.drop i)
  name.take (start.getD name.length)

/-- The rank of a name by the points at its start. -/
def pointRank (name : Bytes) : Nat :=
  if name.isEmpty then 0
  else if name = ['.'] then 1
  else if name = ['.', '.'] then 2
  else if name.head? = some '.' then 3
  else 4

/-- The order of names that hold versions: first without their suffixes. -/
def compareVersions (a b : Bytes) : Ordering :=
  match compareOfLessAndEq (pointRank a) (pointRank b) with
  | .eq =>
    if pointRank a < 3 then .eq
    else (compareParts (withoutSuffixes a) (withoutSuffixes b)).then (compareParts a b)
  | different => different

/-! ### Orders -/

/-- As what texts are compared. -/
inductive SortKind where
  /-- As bytes. -/
  | bytes
  /-- As numbers with digits and a point. -/
  | numbers
  /-- As numbers of any form. -/
  | numerals
  /-- As sizes for people. -/
  | sizes
  /-- As names of months. -/
  | months
  /-- As versions. -/
  | versions
  /-- Equal ones together, otherwise by chance. -/
  | chance
  deriving Inhabited, DecidableEq

/-- The kind that a letter stands for. -/
def SortKind.of? (letter : Char) : Option SortKind :=
  match letter with
  | 'n' => some .numbers
  | 'g' => some .numerals
  | 'h' => some .sizes
  | 'M' => some .months
  | 'V' => some .versions
  | 'R' => some .chance
  | _ => none

/-- How texts are compared. -/
structure SortOrder where
  /-- The letters that ask for it. -/
  letters : List Char := []
  /-- Whether spaces at the start do not count. -/
  skipStart : Bool := false
  /-- Whether spaces do not count where the end is found. -/
  skipStop : Bool := false
  deriving Inhabited, DecidableEq

namespace SortOrder

/-- The order with what a letter asks for. -/
def adding (o : SortOrder) (letter : Char) : SortOrder :=
  if letter = 'i' && o.letters.contains 'd' then o
  else if o.letters.contains letter then o
  else if letter = 'd' then { o with letters := letter :: o.letters.filter (· != 'i') }
  else { o with letters := letter :: o.letters }

/-- Whether the order is the other way round. -/
def backwards (o : SortOrder) : Bool := o.letters.contains 'r'

/-- Whether nothing is asked for but perhaps the other way round. -/
def isPlain (o : SortOrder) : Bool := !o.skipStart && !o.skipStop && o.letters.all (· = 'r')

/-- Letters that cannot be asked for together, if there are such. -/
def conflict? (o : SortOrder) : Option (List Char) :=
  let kinds := (['n', 'g', 'h', 'M'].filter o.letters.contains).length
  let others := ['V', 'R', 'd', 'i'].any o.letters.contains
  if kinds + (if others then 1 else 0) > 1 then
    some (['d', 'f', 'g', 'h', 'i', 'M', 'n', 'R', 'V'].filter o.letters.contains)
  else none

/-- As what texts are compared. -/
def kind (o : SortOrder) : SortKind :=
  ((['n', 'g', 'h', 'M', 'R', 'V'].filter o.letters.contains).head?.bind SortKind.of?).getD .bytes

/-- A text without what does not count. -/
def plain (o : SortOrder) (text : Bytes) : Bytes :=
  let text := if o.letters.contains 'd' then text.filter fun c => isBlankByte c || c.isAlphanum else text
  let text := if o.letters.contains 'i' then text.filter isPrintByte else text
  if o.letters.contains 'f' then text.map Char.toUpper else text

/-- The order of two texts. -/
def compare (o : SortOrder) (a b : Bytes) : Ordering :=
  let x := o.plain a
  let y := o.plain b
  let order := match o.kind with
    | .bytes => compareBytes x y
    | .numbers => (NumberKey.of x).compare (NumberKey.of y)
    | .numerals => compareNumerals x y
    | .sizes =>
      let m := NumberKey.of x
      let n := NumberKey.of y
      (compareOfLessAndEq (sizeRank m) (sizeRank n)).then (m.compare n)
    | .months => compareOfLessAndEq (monthRank x) (monthRank y)
    | .versions => compareVersions x y
    | .chance => compareBytes x y
  if o.backwards then order.swap else order

end SortOrder

end FormatChain.Tools

/-!
## Keys of lines

A key is a part of a line by which it is compared.  It is written as the numbers of two fields, each
with the number of a byte in it, and with letters that say how it is compared.
-/

namespace FormatChain.Tools

open FormatChain.Process

/-- The end of a key: a field, and a byte in it; zero stands for the end of the field. -/
structure KeyEnd where
  /-- The number of the field. -/
  field : Nat
  /-- The number of the byte. -/
  byte : Nat
  deriving Inhabited

/-- A part of a line by which it is compared. -/
structure SortKey where
  /-- The field that it starts in, counted from zero. -/
  field : Nat
  /-- The byte of the field that it starts at, counted from zero. -/
  byte : Nat
  /-- Where it ends, if not at the end of the line. -/
  stop : Option KeyEnd := none
  /-- How it is compared. -/
  order : SortOrder
  deriving Inhabited

/-! ### Writing -/

/-- A number at the start of bytes, and the rest. -/
def readFieldNumber (bytes : Bytes) : Option (Nat × Bytes) :=
  let trimmed := bytes.dropWhile isSpaceByte
  let digits := match trimmed with
    | '+' :: rest => rest
    | rest => rest
  match readNat digits with
  | (_, 0, _) => none
  | (n, _, rest) => some (n, rest)

/-- A number at the start of bytes, and the rest, or a complaint. -/
def readField (what : String) (bytes : Bytes) : Except String (Nat × Bytes) :=
  match readFieldNumber bytes with
  | some found => .ok found
  | none => .error s!"{what}: invalid count at start of {quoted bytes}"

/-- A number after a point, if there is one, and the rest. -/
def readByteNumber (bytes : Bytes) : Except String (Option Nat × Bytes) :=
  match bytes with
  | '.' :: after => do
    let (n, rest) ← readField "invalid number after '.'" after
    return (some n, rest)
  | _ => .ok (none, bytes)

/-- The letters at the start of bytes that say how a key is compared. -/
def orderLetters (bytes : Bytes) : Bytes :=
  bytes.takeWhile fun c => ['b', 'd', 'f', 'g', 'h', 'i', 'M', 'n', 'R', 'r', 'V'].contains c

/-- The order with what letters ask for. -/
def SortOrder.addingAll (o : SortOrder) (letters : Bytes) : SortOrder :=
  (letters.filter (· != 'b')).foldl SortOrder.adding o

/-- The key that bytes write, or what is wrong with them. -/
def SortKey.read (bytes : Bytes) : Except String SortKey := do
  let strange (why : String) : String := s!"{why}: invalid field specification {quoted bytes}"
  let (field, rest) ← readField "invalid number at field start" bytes
  if field = 0 then throw (strange "field number is zero")
  let (byte, rest) ← readByteNumber rest
  if byte = some 0 then throw (strange "character offset is zero")
  let letters := orderLetters rest
  let order : SortOrder := { SortOrder.addingAll {} letters with skipStart := letters.contains 'b' }
  let start : SortKey := { field := field - 1, byte := byte.getD 1 - 1, order }
  match rest.drop letters.length with
  | [] => return start
  | ',' :: rest =>
    let (field, rest) ← readField "invalid number after ','" rest
    if field = 0 then throw (strange "field number is zero")
    let (byte, rest) ← readByteNumber rest
    let letters := orderLetters rest
    if rest.length != letters.length then throw (strange "stray character in field spec")
    return { start with
      stop := some ⟨field, byte.getD 0⟩
      order := { order.addingAll letters with skipStop := letters.contains 'b' } }
  | _ => throw (strange "stray character in field spec")

/-- The key that an argument with a plus sign and perhaps the next one write in the old way; none if they
write none. -/
def SortKey.readOld? (arg : Bytes) (stop : Option Bytes) : Except String (Option SortKey) :=
  let start : Option SortKey := do
    let text ← match arg with
      | '+' :: text => some text
      | _ => none
    let (field, rest) ← readFieldNumber text
    let (byte, rest) ← match rest with
      | '.' :: after => readFieldNumber after
      | _ => some (0, rest)
    let letters := orderLetters rest
    if rest.length = letters.length then
      some { field, byte, order := { SortOrder.addingAll {} letters with skipStart := letters.contains 'b' } }
    else none
  match start, stop with
  | none, _ => .ok none
  | some key, none => .ok (some key)
  | some key, some stop => do
    let (field, rest) ← readField "invalid number after '-'" (stop.drop 1)
    let (byte, rest) ← readByteNumber rest
    let letters := orderLetters rest
    if rest.length != letters.length then
      throw s!"stray character in field spec: invalid field specification {quoted stop}"
    let byte := byte.getD 0
    return some { key with
      stop := some ⟨if byte = 0 then field else field + 1, byte⟩
      order := { key.order.addingAll letters with skipStop := letters.contains 'b' } }

/-! ### Parts of lines -/

/-- The rest of a line after so many fields. A field that has no separator takes the spaces before
it with it. -/
def afterFields (separator : Option Char) : Nat → Bytes → Bytes
  | 0, bytes => bytes
  | n + 1, bytes =>
    if bytes.isEmpty then []
    else
      match separator with
      | some mark => afterFields separator n ((bytes.dropWhile (· != mark)).drop 1)
      | none =>
        afterFields separator n
          ((bytes.dropWhile isBlankByte).dropWhile fun c => !isBlankByte c)

/-- The bytes of a line from its start up to the end of a field, without a separator. -/
def lengthUpTo (separator : Option Char) (fields : Nat) (bytes : Bytes) : Nat :=
  let before := afterFields separator (fields - 1) bytes
  let field := match separator with
    | some mark => before.takeWhile (· != mark)
    | none =>
      let blanks := before.takeWhile isBlankByte
      blanks ++ (before.drop blanks.length).takeWhile fun c => !isBlankByte c
  bytes.length - before.length + field.length

/-- The part of a line that is a key. -/
def SortKey.part (k : SortKey) (separator : Option Char) (line : Bytes) : Bytes :=
  let fields := afterFields separator k.field line
  let fields := if k.order.skipStart then fields.dropWhile isBlankByte else fields
  let found := fields.drop k.byte
  match k.stop with
  | none => found
  | some stop =>
    let length :=
      if stop.byte = 0 then
        if stop.field = 0 then 0 else lengthUpTo separator stop.field line
      else
        let before := afterFields separator (stop.field - 1) line
        let blanks := if k.order.skipStop then (before.takeWhile isBlankByte).length else 0
        min line.length (line.length - before.length + blanks + stop.byte)
    found.take (length - (line.length - found.length))

end FormatChain.Tools
