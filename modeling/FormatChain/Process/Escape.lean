import FormatChain.Process.Bytes
import FormatChain.Text.Utf8

/-!
# Quoting and escapes

Names are quoted in complaints, and bytes are escaped in arguments.

* `quoted` : a name in quotes.
* `shellQuoted` : a name as a shell would read it, in quotes in any case.
* `wordShown`, `nameShown` : a name as a shell would read it, in quotes only if it has to be.
* `EscapeRules` : which escapes there are.
* `readEscape` : what an escape stands for.
* `unescape` : a text with all escapes read.
-/

/-!
## Names in complaints

Complaints put names in quotes.  Bytes that cannot be shown are written as escapes.  Some complaints
quote a name the way a shell would read it, and only if it has to be.
-/

namespace FormatChain.Process

/-- The letter after the backslash for a byte that has one. -/
def escapeLetter? (c : Char) : Option Char :=
  match c with
  | '\x07' => some 'a'
  | '\x08' => some 'b'
  | '\x0c' => some 'f'
  | '\n' => some 'n'
  | '\r' => some 'r'
  | '\t' => some 't'
  | '\x0b' => some 'v'
  | _ => none

/-- A byte as an escape. -/
def escapedByte (c : Char) : Bytes :=
  match escapeLetter? c with
  | some letter => ['\\', letter]
  | none => '\\' :: padZeros 3 (octalText c.toNat)

/-- The bytes of a name between quotes, with escapes. -/
def escapedBytes (bytes : Bytes) : Bytes :=
  bytes.flatMap fun c =>
    if c = '\'' || c = '\\' then ['\\', c]
    else if isPrintByte c then [c]
    else escapedByte c

/-- A name in quotes. -/
def quoted (bytes : Bytes) : String := textOf ('\'' :: escapedBytes bytes ++ ['\''])

/-- The bytes that have a meaning for a shell wherever they stand. -/
def shellBytes : List Char :=
  [' ', '!', '"', '$', '&', '(', ')', '*', ';', '<', '=', '>', '[', '^', '\x60', '|', '\\', '?', '\'']

/-- Whether a name has to be quoted for a shell. -/
def needsQuotes (bytes : Bytes) : Bool :=
  bytes.isEmpty || bytes = ['\x7b'] || bytes = ['\x7d'] || bytes.head? = some '#' || bytes.head? = some '~'
    || bytes.any fun c => shellBytes.contains c || !isPrintByte c

/-- The bytes that stand for themselves between double quotes. -/
def plainInDouble (bytes : Bytes) : Bool :=
  let single := bytes.length = 1
  bytes.zipIdx.all fun (c, i) =>
    isPrintByte c && (c = ' ' || c = '\'' || c = ':' || !shellBytes.contains c)
      && ((c != '#' && c != '~') || i = 0) && ((c != '\x7b' && c != '\x7d') || single)

/-- The bytes of a name between quotes that end and begin again around bytes that cannot be shown. -/
def brokenQuotes (escaping : Bool) : Bytes → Bytes
  | [] => []
  | c :: rest =>
    if isPrintByte c then
      let shown := if c = '\'' then ['\'', '\\', '\'', '\''] else [c]
      (if escaping then ['\'', '\''] else []) ++ shown ++ brokenQuotes false rest
    else (if escaping then [] else ['\'', '$', '\'']) ++ escapedByte c ++ brokenQuotes true rest

/-- A name as a shell would read it, in quotes. -/
def shellQuoted (bytes : Bytes) : String :=
  if bytes.contains '\'' && plainInDouble bytes then textOf ('"' :: bytes ++ ['"'])
  else textOf ('\'' :: brokenQuotes false bytes ++ ['\''])

/-- A word as a shell would read it, in quotes only if it has to be. -/
def wordShown (bytes : Bytes) : String :=
  if needsQuotes bytes then shellQuoted bytes else textOf bytes

/-- A name before a colon in a complaint, as a shell would read it. It is in quotes if it has to be or
holds a colon itself. -/
def nameShown (bytes : Bytes) : String :=
  if needsQuotes bytes || bytes.contains ':' then shellQuoted bytes else textOf bytes

end FormatChain.Process

/-!
## Escapes

A backslash and what follows it stand for bytes in the texts that some commands are given.
-/

namespace FormatChain.Process

/-- Which escapes there are. -/
structure EscapeRules where
  /-- The number of digits of base eight after a leading zero. -/
  zeroDigits : Nat
  /-- Whether digits of base eight may stand without a leading zero. -/
  bareOctal : Bool := true
  /-- Whether a byte may be given in base sixteen. -/
  hexadecimal : Bool := false
  /-- Whether a character may be given by its number. -/
  characters : Bool := false
  /-- The letters that stand for the escape character. -/
  escapeLetters : List Char := ['e']
  /-- Whether a letter ends everything. -/
  stops : Bool := true
  /-- The bytes that stand for themselves after a backslash. -/
  plain : List Char := ['\\']

/-- What an escape stands for, after the backslash: its bytes, or the end of all. -/
inductive Escape where
  /-- These bytes. -/
  | bytes (bytes : Bytes)
  /-- Nothing, and nothing after it. -/
  | stop

/-- The escapes of one letter. -/
def letterEscape? (c : Char) : Option Char :=
  match c with
  | 'n' => some '\n'
  | 't' => some '\t'
  | 'r' => some '\r'
  | 'a' => some '\x07'
  | 'b' => some '\x08'
  | 'f' => some '\x0c'
  | 'v' => some '\x0b'
  | _ => none

/-- The byte of a number. -/
def byteOfNat (n : Nat) : Char := Char.ofNat (n % 256)

/-- The digits of base sixteen of a number, capital ones, at least so many. -/
def capitalDigits (least n : Nat) : Bytes :=
  let digits := (Nat.toDigits 16 n).map Char.toUpper
  List.replicate (least - digits.length) '0' ++ digits

/-- The bytes of a character, by its number. One that is no byte is shown by its number. -/
def characterBytes (n : Nat) : Bytes :=
  if n < 128 then [Char.ofNat n]
  else if n < 65536 then '\\' :: 'u' :: capitalDigits 4 n
  else '\\' :: 'U' :: capitalDigits 8 n

/-- What the bytes after a backslash stand for, and the rest. -/
def readEscape (rules : EscapeRules) : Bytes → Escape × Bytes
  | [] => (.bytes ['\\'], [])
  | c :: rest =>
    match letterEscape? c with
    | some byte => (.bytes [byte], rest)
    | none =>
      if rules.plain.contains c then (.bytes [c], rest)
      else if rules.escapeLetters.contains c then (.bytes ['\x1b'], rest)
      else if rules.stops && c = 'c' then (.stop, [])
      else if c = '0' then
        let (value, _, rest) := readDigits octalDigit? 8 rules.zeroDigits 0 0 rest
        (.bytes [byteOfNat value], rest)
      else if rules.bareOctal && (octalDigit? c).isSome then
        let (value, _, rest) := readDigits octalDigit? 8 3 0 0 (c :: rest)
        (.bytes [byteOfNat value], rest)
      else if rules.hexadecimal && c = 'x' then
        match readDigits hexDigit? 16 2 0 0 rest with
        | (_, 0, _) => (.bytes ['\\', c], rest)
        | (value, _, rest) => (.bytes [byteOfNat value], rest)
      else if rules.characters && (c = 'u' || c = 'U') then
        match readDigits hexDigit? 16 (if c = 'u' then 4 else 8) 0 0 rest with
        | (_, 0, _) => (.bytes ['\\', c], rest)
        | (value, _, rest) => (.bytes (characterBytes value), rest)
      else (.bytes ['\\', c], rest)

/-- The bytes with the escapes read, in at most so many steps, `done` read before, last first; and
whether no escape ended them early. -/
def unescapeUpTo (rules : EscapeRules) : Nat → Bytes → Bytes → Bytes × Bool
  | 0, done, _ => (done.reverse, true)
  | _, done, [] => (done.reverse, true)
  | steps + 1, done, c :: rest =>
    if c = '\\' then
      match readEscape rules rest with
      | (.bytes bytes, rest) => unescapeUpTo rules steps (bytes.reverse ++ done) rest
      | (.stop, _) => (done.reverse, false)
    else unescapeUpTo rules steps (c :: done) rest

/-- The bytes with the escapes read, and whether no escape ended them early. -/
def unescape (rules : EscapeRules) (bytes : Bytes) : Bytes × Bool :=
  unescapeUpTo rules (bytes.length + 1) [] bytes

end FormatChain.Process
