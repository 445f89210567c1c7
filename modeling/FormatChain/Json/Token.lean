import FormatChain.Json.Number
import FormatChain.Text.Characters

/-!
# The tokens of a settings text

A text of settings is cut into tokens, or it is said what is wrong with it and where.

* `Fault` : the causes, with their wording in `Fault.message`.
* `Place` : a line and a column, both counted from one.
* `ReadError` : a cause and its place.
* `Token` : the tokens.
* `Tokens` : the tokens of a text with their indices, up to its end or the first fault.
* `tokens` : the tokens of the characters.
-/

/-! ## What is wrong with a text of settings -/

namespace FormatChain.Json

/-- Why a text is not a value. -/
inductive Fault where
  /-- A block comment has no end. -/
  | unterminatedComment
  /-- A character starts no token. -/
  | unexpectedToken
  /-- A token stands where a member or the end of a mapping should. -/
  | unexpectedTokenInObject
  /-- A name is not followed by a colon. -/
  | expectedColon
  /-- Nothing follows a colon. -/
  | expectedFieldValue
  /-- A closing brace stands where a value should. -/
  | unexpectedCloseBrace
  /-- A closing bracket stands where a value should. -/
  | unexpectedCloseBracket
  /-- A comma stands where a value should. -/
  | unexpectedComma
  /-- A colon stands where a value should. -/
  | unexpectedColon
  /-- A bare word stands where a value should. -/
  | unexpectedWord
  /-- A sequence has no end. -/
  | unterminatedArray
  /-- A mapping has no end. -/
  | unterminatedObject
  /-- A text has no closing quote. -/
  | unterminatedString
  /-- Something follows the value. -/
  | moreThanOneValue
  /-- A digit is missing in a number. -/
  | expectedDigit
  /-- A minus sign is not followed by a digit. -/
  | expectedDigitAfterMinus
  /-- Neither a sign nor a digit follows the exponent's letter. -/
  | expectedExponent
  /-- A backslash is followed by a character that has no escape. -/
  | invalidEscape
  /-- A single quote is escaped between double quotes. -/
  | invalidEscapeInDoubleQuotes
  /-- A double quote is escaped between single quotes. -/
  | invalidEscapeInSingleQuotes
  /-- Fewer than four digits of base sixteen follow an escape. -/
  | expectedFourHexDigits
  /-- The digits of an escape are no character. -/
  | invalidCodePoint (digits : String)
  deriving Repr, DecidableEq

/-- The wording of a cause. -/
def Fault.message : Fault → String
  | .unterminatedComment => "Unterminated comment block"
  | .unexpectedToken => "Unexpected token"
  | .unexpectedTokenInObject => "Unexpected token in object"
  | .expectedColon => "Expected colon after the string or word in object property"
  | .expectedFieldValue => "Expected value after colon in object property"
  | .unexpectedCloseBrace => "Unexpected close brace"
  | .unexpectedCloseBracket => "Unexpected close bracket"
  | .unexpectedComma => "Unexpected comma"
  | .unexpectedColon => "Unexpected colon"
  | .unexpectedWord => "Unexpected word"
  | .unterminatedArray => "Unterminated array"
  | .unterminatedObject => "Unterminated object"
  | .unterminatedString => "Unterminated string literal"
  | .moreThanOneValue => "Text cannot contain more than one JSON value"
  | .expectedDigit => "Expected digit"
  | .expectedDigitAfterMinus => "Expected digit following negative sign"
  | .expectedExponent => "Expected plus, minus, or digit in number literal"
  | .invalidEscape => "Invalid escape"
  | .invalidEscapeInDoubleQuotes => "Invalid escape in double quote string"
  | .invalidEscapeInSingleQuotes => "Invalid escape in single quote string"
  | .expectedFourHexDigits => "Expected four hex digits"
  | .invalidCodePoint digits =>
    s!"Invalid unicode escape sequence. '{digits}' is not a valid UTF8 character"

/-- A place in a text. -/
structure Place where
  /-- The line, from one. -/
  line : Nat
  /-- The column in characters, from one. -/
  column : Nat
  deriving Repr, DecidableEq

/-- The place one character further. Only a line feed ends a line. -/
def Place.after (place : Place) (c : Char) : Place :=
  if c = '\n' then ⟨place.line + 1, 1⟩ else ⟨place.line, place.column + 1⟩

/-- The place of the character at an index. -/
def Place.ofIndex (text : List Char) (index : Nat) : Place :=
  (text.take index).foldl Place.after ⟨1, 1⟩

/-- A cause and where it was met. -/
structure ReadError where
  /-- The cause. -/
  fault : Fault
  /-- Where it was met. -/
  place : Place
  deriving Repr, DecidableEq

/-- The message: the cause and its place. -/
def ReadError.message (e : ReadError) : String :=
  s!"{e.fault.message} on line {e.place.line} column {e.place.column}"

end FormatChain.Json

/-!
## The tokens of a settings text

Punctuation, quoted texts, numbers, the three named values and bare words.  White space and comments
stand between tokens: a line comment ends before its line feed, a block comment at the first end
mark after it starts.  A text may be in double or single quotes and may hold any character raw.
-/

namespace FormatChain.Json

open FormatChain.Text

/-- A token. -/
inductive Token where
  /-- The start of a mapping. -/
  | openBrace
  /-- The end of a mapping. -/
  | closeBrace
  /-- The start of a sequence. -/
  | openBracket
  /-- The end of a sequence. -/
  | closeBracket
  /-- A comma. -/
  | comma
  /-- A colon. -/
  | colon
  /-- A quoted text. -/
  | string (text : String)
  /-- A bare word. -/
  | word (text : String)
  /-- A truth value. -/
  | bool (value : Bool)
  /-- A number. -/
  | number (numeral : Numeral)
  /-- The null value. -/
  | null
  deriving Repr, DecidableEq

/-- The tokens of a text, each with the index at which it starts. -/
inductive Tokens where
  /-- The text ends at this index. -/
  | finish (index : Nat)
  /-- The text goes wrong at this index. -/
  | fault (fault : Fault) (index : Nat)
  /-- A token, and what follows it. -/
  | token (token : Token) (index : Nat) (rest : Tokens)
  deriving Repr

/-- What a text starts with. Counts are of characters after the first one. -/
inductive Lexeme where
  /-- The first character and so many more mean nothing. -/
  | blank (more : Nat)
  /-- The first character and so many more are a token. -/
  | token (token : Token) (more : Nat)
  /-- Something is wrong so many characters after the first one. -/
  | fault (fault : Fault) (offset : Nat)
  deriving Repr

/-! ### Quoted texts -/

/-- Whether the character is a digit of base sixteen. -/
def isHexDigit (c : Char) : Bool :=
  c.isDigit || ('a' ≤ c && c ≤ 'f') || ('A' ≤ c && c ≤ 'F')

/-- The value of a digit of base sixteen. -/
def hexDigitValue (c : Char) : Nat :=
  if c.isDigit then c.toNat - '0'.toNat
  else if 'a' ≤ c then c.toNat - 'a'.toNat + 10
  else c.toNat - 'A'.toNat + 10

/-- The character that four digits of base sixteen stand for, with the count of digits. -/
def codePoint (rest : List Char) : Except Fault (Char × Nat) :=
  let digits := rest.take 4
  if digits.length = 4 ∧ digits.all isHexDigit then
    let code := digits.foldl (fun n c => n * 16 + hexDigitValue c) 0
    if code.isValidChar then .ok (Char.ofNat code, 4)
    else .error (.invalidCodePoint (String.ofList digits))
  else .error .expectedFourHexDigits

/-- The character that an escape stands for, and how many characters follow the one after the
backslash in it. -/
def escape (quote c : Char) (rest : List Char) : Except Fault (Char × Nat) :=
  if c = '"' then
    if quote = '"' then .ok ('"', 0) else .error .invalidEscapeInSingleQuotes
  else if c = '\'' then
    if quote = '\'' then .ok ('\'', 0) else .error .invalidEscapeInDoubleQuotes
  else if c = '\\' then .ok ('\\', 0)
  else if c = '/' then .ok ('/', 0)
  else if c = 'b' then .ok (Char.ofNat 8, 0)
  else if c = 'f' then .ok (Char.ofNat 12, 0)
  else if c = 'n' then .ok ('\n', 0)
  else if c = 'r' then .ok ('\r', 0)
  else if c = 't' then .ok ('\t', 0)
  else if c = 'u' then codePoint rest
  else .error .invalidEscape

/-- Reads a quoted text from the character after its quote on. `offset` counts from the quote,
`skip` characters belong to an escape that was read, and `text` holds what was read, last first. -/
def stringFrom (quote : Char) (offset skip : Nat) (text : List Char) : List Char → Lexeme
  | [] => .fault .unterminatedString 0
  | c :: rest =>
    if skip > 0 then stringFrom quote (offset + 1) (skip - 1) text rest
    else if c = quote then .token (.string (String.ofList text.reverse)) offset
    else if c = '\\' then
      match rest with
      | [] => .fault .unterminatedString 0
      | escaped :: more =>
        match escape quote escaped more with
        | .ok (char, digits) => stringFrom quote (offset + 1) (digits + 1) (char :: text) rest
        | .error fault => .fault fault offset
    else stringFrom quote (offset + 1) 0 (c :: text) rest

/-! ### Numbers -/

/-- The fraction of a number: its digits, and what follows; the fault is at the start of `rest`. -/
def fractionFrom (rest : List Char) : Except (Fault × List Char) (Option (List Char) × List Char) :=
  match rest with
  | '.' :: more =>
    let digits := more.takeWhile Char.isDigit
    if digits.isEmpty then .error (.expectedDigit, more)
    else .ok (some digits, more.dropWhile Char.isDigit)
  | _ => .ok (none, rest)

/-- The exponent of a number: its parts, and what follows. -/
def exponentFrom (rest : List Char) :
    Except (Fault × List Char) (Option ExponentPart × List Char) :=
  match rest with
  | letter :: more =>
    if letter = 'e' ∨ letter = 'E' then
      let (sign, after) := match more with
        | '+' :: after => (some '+', after)
        | '-' :: after => (some '-', after)
        | _ => (none, more)
      let digits := after.takeWhile Char.isDigit
      if digits.isEmpty then
        .error (if sign.isSome then .expectedDigit else .expectedExponent, after)
      else .ok (some ⟨letter, sign, digits⟩, after.dropWhile Char.isDigit)
    else .ok (none, rest)
  | [] => .ok (none, [])

/-- The number that the characters start with, and what follows it. A number has a single zero or no
leading zero before the point. -/
def numeralFrom (chars : List Char) : Except (Fault × List Char) (Numeral × List Char) := do
  let (negative, unsigned) := match chars with
    | '-' :: rest => (true, rest)
    | _ => (false, chars)
  let (whole, rest) ← match unsigned with
    | '0' :: rest => pure (['0'], rest)
    | _ =>
      let digits := unsigned.takeWhile Char.isDigit
      if digits.isEmpty then throw (.expectedDigitAfterMinus, unsigned)
      else pure (digits, unsigned.dropWhile Char.isDigit)
  let (fraction, rest) ← fractionFrom rest
  let (exponent, rest) ← exponentFrom rest
  return (⟨negative, whole, fraction, exponent⟩, rest)

/-! ### Words and comments -/

/-- Whether the characters start with the name, and no letter or digit follows it. -/
def startsWithName (name chars : List Char) : Bool :=
  name.isPrefixOf chars &&
    match chars.drop name.length with
    | next :: _ => !isAlphanumeric next
    | [] => true

/-- The bare word that the characters start with: letters, digits and hyphens up to white space, a
colon or the end. -/
def wordFrom (chars : List Char) : Lexeme :=
  let word := chars.takeWhile fun c => !(isBlank c || c == ':')
  if word.isEmpty || !word.all fun c => isAlphanumeric c || c == '-' then .fault .unexpectedToken 0
  else .token (.word (String.ofList word)) (word.length - 1)

/-- How many characters there are up to the end mark of a block comment, with the mark. -/
def blockCommentLength? (length : Nat) : List Char → Option Nat
  | '*' :: '/' :: _ => some (length + 2)
  | _ :: rest => blockCommentLength? (length + 1) rest
  | [] => none

/-- The comment after a slash, if there is one. -/
def commentFrom (rest : List Char) : Lexeme :=
  match rest with
  | '/' :: more => .blank (1 + (more.takeWhile (· != '\n')).length)
  | '*' :: more =>
    match blockCommentLength? 0 more with
    | some length => .blank (1 + length)
    | none => .fault .unterminatedComment 0
  | _ => .fault .unexpectedToken 0

/-! ### Tokens -/

/-- What the characters start with. -/
def lexeme (c : Char) (rest : List Char) : Lexeme :=
  if isBlank c then .blank 0
  else if c = '\x7b' then .token .openBrace 0
  else if c = '\x7d' then .token .closeBrace 0
  else if c = '[' then .token .openBracket 0
  else if c = ']' then .token .closeBracket 0
  else if c = ',' then .token .comma 0
  else if c = ':' then .token .colon 0
  else if c = '"' ∨ c = '\'' then stringFrom c 1 0 [] rest
  else if c = '/' then commentFrom rest
  else if c = '-' ∨ c.isDigit then
    match numeralFrom (c :: rest) with
    | .ok (numeral, after) => .token (.number numeral) (rest.length - after.length)
    | .error (fault, after) => .fault fault (rest.length + 1 - after.length)
  else if startsWithName "true".toList (c :: rest) then .token (.bool true) 3
  else if startsWithName "false".toList (c :: rest) then .token (.bool false) 4
  else if startsWithName "null".toList (c :: rest) then .token .null 3
  else wordFrom (c :: rest)

/-- The tokens from an index on, of which `skip` characters belong to what was read before. -/
def tokensFrom (index skip : Nat) : List Char → Tokens
  | [] => .finish index
  | c :: rest =>
    if skip > 0 then tokensFrom (index + 1) (skip - 1) rest
    else
      match lexeme c rest with
      | .blank more => tokensFrom (index + 1) more rest
      | .token token more => .token token index (tokensFrom (index + 1) more rest)
      | .fault fault offset => .fault fault (index + offset)

/-- The tokens of a text. -/
def tokens (chars : List Char) : Tokens :=
  tokensFrom 0 0 chars

end FormatChain.Json
