import FormatChain.Process.Bytes
import FormatChain.Process.Escape
import FormatChain.Tools.Awk.Syntax

/-!
# Words of programs for records

A program is read word by word.  What a word is depends on what was read before: a slash divides or
begins a pattern, a greater-than sign compares or says where something is written, and a semicolon
that is missing before a closing brace is supplied.

* `Token` : words.
* `Reader`, `Reading` : a program that is being read, and reading it.
* `scan` : the next word.
-/

namespace FormatChain.Tools.Awk

open FormatChain.Process

/-- A word of a program. -/
inductive Token where
  /-- The end of the program. -/
  | finish
  /-- The end of a line. -/
  | newline
  /-- A semicolon; one that was supplied before a closing brace is shown as that. -/
  | semicolon (supplied : Bool)
  /-- An opening brace. -/
  | openBrace
  /-- A closing brace. -/
  | closeBrace
  /-- An opening parenthesis. -/
  | openParen
  /-- A closing parenthesis. -/
  | closeParen
  /-- An opening bracket. -/
  | openBracket
  /-- A closing bracket. -/
  | closeBracket
  /-- An operator, a comma or another mark. -/
  | mark (text : String)
  /-- Two signs of plus or of minus. -/
  | count (up : Bool)
  /-- Whether a pattern has to fit, or must not. -/
  | fits (wanted : Bool)
  /-- Where something is written. -/
  | sink (text : String)
  /-- Where a line is read from. -/
  | source
  /-- A number as it is written. -/
  | number (x : Float) (written : Bytes)
  /-- A text. -/
  | text (bytes : Bytes) (written : Bytes)
  /-- A pattern. -/
  | pattern (bytes : Bytes)
  /-- A dollar sign. -/
  | dollar
  /-- A field with its number. -/
  | field (n : Nat)
  /-- The variable of the number of fields. -/
  | fieldCount
  /-- A variable or an array. -/
  | name (bytes : Bytes)
  /-- A variable or an array right after a dollar sign. -/
  | fieldName (bytes : Bytes)
  /-- A function of the program. -/
  | function (bytes : Bytes)
  /-- A function of the language. -/
  | builtin (name : String)
  /-- The length of the record. -/
  | bareLength
  /-- A word with a meaning of its own. -/
  | keyword (name : String)
  /-- A byte that has no business here. -/
  | stray (c : Char)
  deriving Inhabited

/-- A word as complaints show it; none if they show it in another way. -/
def Token.shown? : Token → Option String
  | .finish => some "end of file"
  | .newline => some "end of line"
  | .semicolon supplied => some (if supplied then "\x7d" else ";")
  | .openBrace => some "\x7b"
  | .closeBrace => some "\x7d"
  | .openParen => some "("
  | .closeParen => some ")"
  | .openBracket => some "["
  | .closeBracket => some "]"
  | .mark written => some written
  | .count up => some (if up then "++" else "--")
  | .fits wanted => some (if wanted then "~" else "!~")
  | .sink written => some written
  | .source => some "<"
  | .number _ written => some (textOf written)
  | .text _ written => some (textOf written)
  | .pattern bytes => some s!"/{textOf bytes}/"
  | .dollar => some "$"
  | .field _ => some "$"
  | .fieldCount => some "$"
  | .name bytes => some (textOf bytes)
  | .fieldName bytes => some (textOf bytes)
  | .function bytes => some (textOf bytes)
  | .builtin word => some word
  | .bareLength => some "length"
  | .keyword word => some word
  | .stray _ => none

/-- What a name stands for. -/
inductive Kind where
  /-- Nothing is known yet. -/
  | unknown
  /-- A variable. -/
  | variable
  /-- An array. -/
  | array
  /-- A function. -/
  | function
  deriving Repr, DecidableEq, Inhabited

/-- Where statements stand. -/
inductive Scope where
  /-- In a rule for no record. -/
  | apart
  /-- In a rule for records. -/
  | main
  /-- In a function. -/
  | function
  deriving Repr, DecidableEq, Inhabited

/-- A call of a function: its name, and what it is given, a name alone being kept. -/
structure Call where
  /-- The name of the function. -/
  name : Bytes
  /-- What it is given: names alone, with the function in which they stand. -/
  args : List (Option Bytes)
  deriving Inhabited

/-- A program that is being read. -/
structure Reader where
  /-- The bytes that are left. -/
  rest : Bytes
  /-- The number of the line. -/
  line : Nat := 1
  /-- The number of the line on which the last word began. -/
  tokenLine : Nat := 1
  /-- The last word. -/
  last : Token := .finish
  /-- The words that were read too early. -/
  waiting : List Token := []
  /-- How many parentheses are open. -/
  parens : Nat := 0
  /-- How many braces are open. -/
  braces : Nat := 0
  /-- Whether a greater-than sign would say where something is written. -/
  printing : Bool := false
  /-- Whether a less-than sign would say where something is read. -/
  getting : Bool := false
  /-- What names stand for. -/
  kinds : List (Bytes × Kind) := []
  /-- What names stand for in the function that is read. -/
  locals : List (Bytes × Kind) := []
  /-- The functions that were read, with the number of what they are given. -/
  defined : List (Bytes × Nat) := []
  /-- The calls of functions, the latest first. -/
  calls : List Call := []
  /-- Where statements stand. -/
  scope : Scope := .main
  /-- How many loops are open. -/
  loops : Nat := 0
  /-- How many words have to be right before something is complained about again. -/
  quiet : Nat := 0
  /-- What was complained about, the latest first. -/
  complaints : List String := []
  deriving Inhabited

/-- Why reading does not go on as it should. -/
inductive Halt where
  /-- A word stands where it must not. -/
  | misplaced
  /-- It ends for good. -/
  | over

/-- Reading a program. -/
abbrev Reading := ExceptT Halt (StateM Reader)

/-- How many complaints are enough. -/
def complaintLimit : Nat := 5

/-- Complains. -/
def remark (text : String) : Reading Unit := do
  modify fun s => { s with complaints := text :: s.complaints }
  if complaintLimit ≤ (← get).complaints.length then throw .over

/-- Complains and tells the line. -/
def object (text : String) : Reading Unit := do remark s!"line {(← get).tokenLine}: {text}"

/-! ## Names -/

/-- Whether a byte may stand in a name. -/
def isNameByte (c : Char) : Bool := c.isAlphanum || c = '_'

/-- The name at the start of bytes. -/
def nameAt (bytes : Bytes) : Bytes :=
  match bytes with
  | c :: _ => if c.isDigit then [] else bytes.takeWhile isNameByte
  | [] => []

/-- The functions of the language with the least and the greatest number of what they are given. -/
def builtins : List (String × Nat × Nat) :=
  [("length", 0, 1), ("substr", 2, 3), ("index", 2, 2), ("sprintf", 1, 255), ("sin", 1, 1), ("cos", 1, 1),
    ("atan2", 2, 2), ("exp", 1, 1), ("log", 1, 1), ("int", 1, 1), ("sqrt", 1, 1), ("rand", 0, 0), ("srand", 0, 1),
    ("close", 1, 1), ("system", 1, 1), ("toupper", 1, 1), ("tolower", 1, 1), ("fflush", 0, 1), ("mktime", 1, 1),
    ("strftime", 0, 3), ("systime", 0, 0)]

/-- The words with a meaning of their own. -/
def keywords : List String :=
  ["BEGIN", "END", "function", "if", "else", "while", "for", "do", "break", "continue", "next", "nextfile", "exit",
    "return", "delete", "in", "getline", "print", "printf", "split", "match", "sub", "gsub"]

/-! ## Texts and numbers -/

/-- The escapes in texts. -/
def textEscapes : EscapeRules :=
  { zeroDigits := 2, hexadecimal := true, escapeLetters := [], stops := false, plain := ['\\', '"'] }

/-- The bytes up to a quote, escapes left as they are, how many line ends were left out, and the rest,
in at most so many steps; without a rest if the line ends before it. -/
def untilQuote : Nat → Nat → Bytes → Bytes → Bytes × Nat × Option Bytes
  | 0, lines, done, _ => (done.reverse, lines, none)
  | _, lines, done, [] => (done.reverse, lines, none)
  | steps + 1, lines, done, c :: rest =>
    match c, rest with
    | '"', _ => (done.reverse, lines, some rest)
    | '\n', _ => (done.reverse, lines, none)
    | '\\', '\n' :: rest => untilQuote steps (lines + 1) done rest
    | '\\', d :: rest => untilQuote steps lines (d :: c :: done) rest
    | _, _ => untilQuote steps lines (c :: done) rest

/-- The bytes of a pattern up to the slash that ends it, and the rest, in at most so many steps; a
slash in a set does not end it.  Without a rest if the line ends before it. -/
def untilSlash : Nat → Bool → Bytes → Bytes → Bytes × Option Bytes
  | 0, _, done, _ => (done.reverse, none)
  | _, _, done, [] => (done.reverse, none)
  | steps + 1, inSet, done, c :: rest =>
    match c, rest with
    | '\\', '/' :: rest => untilSlash steps inSet ('/' :: done) rest
    | '\\', '\n' :: rest => untilSlash steps inSet done rest
    | '\\', d :: rest => untilSlash steps inSet (d :: c :: done) rest
    | '\n', _ => (done.reverse, none)
    | '/', _ => if inSet then untilSlash steps inSet (c :: done) rest else (done.reverse, some rest)
    | '[', '^' :: ']' :: rest =>
      if inSet then untilSlash steps true (c :: done) ('^' :: ']' :: rest)
      else untilSlash steps true (']' :: '^' :: c :: done) rest
    | '[', ']' :: rest =>
      if inSet then untilSlash steps true (c :: done) (']' :: rest)
      else untilSlash steps true (']' :: c :: done) rest
    | '[', ':' :: after =>
      let name := after.takeWhile Char.isAlpha
      match inSet, after.drop name.length with
      | true, ':' :: ']' :: after => untilSlash steps true (']' :: ':' :: name.reverse ++ ':' :: c :: done) after
      | _, _ => untilSlash steps true (c :: done) rest
    | '[', _ => untilSlash steps true (c :: done) rest
    | ']', _ => untilSlash steps false (c :: done) rest
    | _, _ => untilSlash steps inSet (c :: done) rest

/-- The power of ten at the start of bytes and the rest, if there is one. -/
def exponentAt? (bytes : Bytes) : Option (Int × Bytes) :=
  match bytes with
  | e :: after =>
    if e = 'e' || e = 'E' then
      let (sign, after) : Int × Bytes := match after with
        | '-' :: after => (-1, after)
        | '+' :: after => (1, after)
        | after => (1, after)
      match readNat after with
      | (_, 0, _) => none
      | (n, _, after) => some (sign * min n 5000, after)
    else none
  | [] => none

/-- The number nearest to a whole number times a power of ten. -/
def decimalFloat (digits : Nat) (exponent : Int) : Float :=
  if exponent < 0 then Float.ofScientific digits true (-exponent).toNat
  else if digits = 0 then 0
  else Float.ofScientific digits false (min exponent 5000).toNat

/-- The number at the start of bytes, and how many bytes it has; none if there is none. -/
def numberAt? (bytes : Bytes) : Option (Float × Nat) :=
  let whole := bytes.takeWhile Char.isDigit
  let rest := bytes.drop whole.length
  let (fraction, rest) := match rest with
    | '.' :: after => (after.takeWhile Char.isDigit, after.dropWhile Char.isDigit)
    | _ => ([], rest)
  if whole.isEmpty && fraction.isEmpty then none
  else
    let digits := (readNat (whole ++ fraction)).1
    let (exponent, rest) := (exponentAt? rest).getD (0, rest)
    some (decimalFloat digits (exponent - fraction.length), bytes.length - rest.length)

/-- Whether a number is too large or too small for its digits to be kept. -/
def strains (x : Float) (written : Bytes) : Bool :=
  let mantissa := written.takeWhile fun c => c != 'e' && c != 'E'
  x.isInf || (x < 2.2250738585072014e-308 && mantissa.any fun c => c.isDigit && c != '0')

/-! ## Spaces -/

/-- White space that ends no line. -/
def isGap (c : Char) : Bool := c = ' ' || c = '\t' || c = '\r' || c = '\x0b' || c = '\x0c'

/-- Takes so many bytes. -/
def skip (n : Nat) : Reading Unit := modify fun s => { s with rest := s.rest.drop n }

/-- Takes a line end. -/
def skipLine : Reading Unit := modify fun s => { s with rest := s.rest.drop 1, line := s.line + 1 }

/-- Skips spaces, remarks and line ends, in at most so many steps. -/
def skipLinesUpTo : Nat → Reading Unit
  | 0 => return
  | steps + 1 => do
    match (← get).rest with
    | '#' :: rest =>
      skip (1 + (rest.takeWhile (· != '\n')).length)
      skipLinesUpTo steps
    | '\n' :: _ =>
      skipLine
      skipLinesUpTo steps
    | '\\' :: rest =>
      let gap := rest.takeWhile isGap
      match rest.drop gap.length with
      | '\n' :: _ =>
        skip (1 + gap.length)
        skipLine
        skipLinesUpTo steps
      | _ =>
        skip (1 + gap.length)
        remark s!"{(← get).tokenLine}: unexpected character '\\'"
    | c :: _ =>
      if isGap c then
        skip 1
        skipLinesUpTo steps
      else return
    | [] => return

/-- Skips spaces, remarks and line ends. -/
def skipLines : Reading Unit := do skipLinesUpTo ((← get).rest.length + 1)

/-- Skips a semicolon on the line. -/
def skipSemicolon : Reading Unit := do
  let rest ← (·.rest) <$> get
  let gap := rest.takeWhile isGap
  skip (gap.length + if (rest.drop gap.length).head? = some ';' then 1 else 0)

/-! ## Words -/

/-- The token of a name. -/
def nameToken (name : Bytes) : Reading Token := do
  let s ← get
  let word := String.ofList name
  let after : Token := match s.last with
    | .dollar => .fieldName name
    | _ => .name name
  if (s.locals.find? fun entry => entry.1 = name).isSome then return after
  else if word = "NF" then return .fieldCount
  else if keywords.contains word then return .keyword word
  else if word = "length" then
    return if (s.rest.dropWhile isGap).head? = some '(' then .builtin word else .bareLength
  else if builtins.any fun entry => entry.1 = word then return .builtin word
  else
    let kind : Option Kind := (s.kinds.find? fun entry => entry.1 = name).map (·.2)
    match kind with
    | some .function => return .function name
    | some .variable => return after
    | some .array => return after
    | _ =>
      let called := s.rest.head? = some '('
      let others := s.kinds.filter fun entry => entry.1 != name
      set { s with kinds := (name, if called then Kind.function else .unknown) :: others }
      return if called then .function name else after

/-- Whether a slash after a token divides. -/
def Token.dividesAfter : Token → Bool
  | .number _ _ => true
  | .text _ _ => true
  | .closeParen => true
  | .name _ => true
  | .fieldName _ => true
  | .pattern _ => true
  | .closeBracket => true
  | .field _ => true
  | .fieldCount => true
  | .keyword word => word = "getline"
  | .count _ => true
  | _ => false

/-- Whether a closing brace may follow a token without a semicolon. -/
def Token.endsStatement : Token → Bool
  | .newline => true
  | .semicolon _ => true
  | .closeBrace => true
  | _ => false

/-- The operators that are not looked at more closely, of two that begin alike the longer one first. -/
def plainMarks : List String :=
  ["||", "&&", "==", "<=", ">=", "!=", "+=", "-=", "*=", "%=", "^=", "+", "-", "*", "%", "^", "=", "!", "?", ":",
    ",", ">", "<", "|"]

/-- The operators after which a line may end. -/
def openMarks : List String := ["||", "&&", ","]

/-- Reads a text after its quote. -/
def scanText (after : Bytes) : Reading Token := do
  match untilQuote (after.length + 1) 0 [] after with
  | (written, lines, some rest) =>
    modify fun s => { s with rest, line := s.line + lines }
    let bytes := if written.contains '\\' then (unescape textEscapes written).1 else written
    return .text bytes bytes
  | (written, _, none) =>
    object s!"runaway string constant \"{textOf (written.take 10)} ..."
    throw .over

/-- Reads a pattern after its slash. -/
def scanPattern (after : Bytes) : Reading Token := do
  match untilSlash (after.length + 1) false [] after with
  | (written, some rest) =>
    modify fun s => { s with rest }
    return .pattern written
  | (written, none) =>
    object s!"runaway regular expression /{textOf (written.take 10)} ..."
    throw .over

/-- Reads a number that there is. -/
def scanNumber (x : Float) (n : Nat) : Reading Token := do
  let written := (← get).rest.take n
  skip n
  if strains x written then
    object s!"{textOf written} : decimal overflow"
  return .number x written

/-- Reads a word, in at most so many tries. -/
def scanUpTo : Nat → Reading Token
  | 0 => throw .over
  | tries + 1 => do
    let s ← get
    match s.rest with
    | [] => return .finish
    | c :: after =>
      let single (token : Token) : Reading Token := do
        skip 1
        return token
      match c with
      | '\n' =>
        skipLine
        skipLines
        return .newline
      | '#' =>
        skip (1 + (after.takeWhile (· != '\n')).length)
        scanUpTo tries
      | '\\' =>
        let gap := after.takeWhile isGap
        match after.drop gap.length with
        | '\n' :: _ =>
          skip (1 + gap.length)
          skipLine
          modify fun s => { s with tokenLine := s.line }
          scanUpTo tries
        | _ => single (.stray c)
      | ';' =>
        skip 1
        skipLines
        return .semicolon false
      | '\x7b' =>
        skip 1
        skipLines
        modify fun s => { s with braces := s.braces + 1 }
        return .openBrace
      | '\x7d' =>
        if s.braces = 0 then
          skip 1
          object "extra '\x7d'"
          skipSemicolon
          scanUpTo tries
        else if s.last.endsStatement then
          skip 1
          if s.braces = 1 then skipSemicolon
          skipLines
          modify fun s => { s with braces := s.braces - 1 }
          return .closeBrace
        else return .semicolon true
      | '(' =>
        modify fun s => { s with parens := s.parens + 1 }
        single .openParen
      | ')' =>
        if s.parens = 0 then
          skip 1
          object "extra ')'"
          scanUpTo tries
        else
          modify fun s => { s with parens := s.parens - 1 }
          single .closeParen
      | '[' => single .openBracket
      | ']' => single .closeBracket
      | '"' =>
        skip 1
        scanText after
      | '/' =>
        if s.last.dividesAfter then
          if after.head? = some '=' then
            skip 2
            return .mark "/="
          else single (.mark "/")
        else
          skip 1
          scanPattern after
      | '~' => single (.fits true)
      | '$' =>
        let gap := after.takeWhile isGap
        let place := after.drop gap.length
        skip (1 + gap.length)
        match place with
        | d :: _ =>
          if d.isDigit || d = '.' then
            match numberAt? place with
            | some (x, n) =>
              skip n
              return .field x.toUInt64.toNat
            | none =>
              skip 2
              return .stray '.'
          else return .dollar
        | [] => return .dollar
      | _ =>
        if isGap c then
          skip 1
          scanUpTo tries
        else if c.isDigit || c = '.' then
          match numberAt? s.rest with
          | some (x, n) => scanNumber x n
          | none =>
            skip 2
            return .stray '.'
        else if isNameByte c then
          let name := nameAt s.rest
          skip name.length
          nameToken name
        else
          let two := s.rest.take 2
          if two = ['+', '+'] || two = ['-', '-'] then
            skip 2
            return .count (c = '+')
          else if two = ['!', '~'] then
            skip 2
            return .fits false
          else if s.printing && s.parens = 0 && two = ['>', '>'] then
            skip 2
            modify fun s => { s with printing := false }
            return .sink ">>"
          else if s.printing && s.parens = 0 && (c = '>' || c = '|' && two != ['|', '|']) then
            skip 1
            modify fun s => { s with printing := false }
            return .sink (String.singleton c)
          else if s.getting && c = '<' && two != ['<', '='] then
            skip 1
            modify fun s => { s with getting := false }
            return .source
          else
            match plainMarks.find? fun text => text.toList.isPrefixOf s.rest with
            | some text =>
              skip text.length
              if openMarks.contains text then skipLines
              return .mark text
            | none => single (.stray c)

/-- Reads the next word. -/
def scan : Reading Token := do
  modify fun s => { s with tokenLine := s.line }
  let token ← scanUpTo ((← get).rest.length + 2)
  modify fun s => { s with last := token }
  return token

/-- The next word, which stays. -/
def upcoming : Reading Token := do
  match (← get).waiting with
  | token :: _ => return token
  | [] =>
    let token ← scan
    modify fun s => { s with waiting := [token] }
    return token

/-- Takes the next word. -/
def advance : Reading Unit := do
  let _ ← upcoming
  modify fun s => { s with waiting := s.waiting.drop 1, quiet := s.quiet - 1 }

/-- Puts a word back. -/
def putBack (token : Token) : Reading Unit := modify fun s => { s with waiting := token :: s.waiting }

/-! ## Misplaced words -/

/-- Whether a parenthesis is missing if a token is misplaced while one is open. -/
def Token.lacksParen : Token → Bool
  | .finish => true
  | .newline => true
  | .semicolon _ => true
  | .closeBrace => true
  | _ => false

/-- Whether a brace is missing if a token is misplaced while one is open. -/
def Token.lacksBrace : Token → Bool
  | .finish => true
  | .keyword word => word = "BEGIN" || word = "END"
  | _ => false

/-- Complains of the next word. -/
def blame : Reading Unit := do
  let token ← upcoming
  let s ← get
  match token.shown? with
  | some shown =>
    if s.parens > 0 && token.lacksParen then
      modify fun s => { s with parens := 0 }
      object s!"missing ) near {shown}"
    else if s.braces > 0 && token.lacksBrace then
      modify fun s => { s with braces := 0 }
      object s!"missing \x7d near {shown}"
    else object s!"syntax error at or near {shown}"
  | none =>
    match token with
    | .stray c =>
      let named := if ' ' < c && c < '\x7f' then s!"'{c}'"
        else "0x" ++ textOf (padZeros 2 (hexText c.toNat))
      remark s!"{s.tokenLine}: unexpected character {named}"
    | _ => object "syntax error"

/-- The next word is misplaced. -/
def misplaced {α : Type} : Reading α := do
  if (← get).quiet = 0 then blame
  throw .misplaced

/-- Reads something; if a word in it is misplaced, words are skipped up to one that ends it, in which
way being found out for each word. -/
def recovering {α : Type} (read : Reading α) (ends : Token → Option (Reading α)) : Reading α :=
  tryCatch read fun halt =>
    match halt with
    | .over => throw .over
    | .misplaced => do
      modify fun s => { s with quiet := 3 }
      skipTo ((← get).rest.length + 4)
where
  /-- Skips words, at most so many. -/
  skipTo : Nat → Reading α
    | 0 => throw .over
    | tries + 1 => do
      let token ← upcoming
      match ends token with
      | some finish => finish
      | none =>
        match token with
        | .finish => throw .over
        | _ =>
          modify fun s => { s with waiting := s.waiting.drop 1 }
          skipTo tries

/-- Takes a word that must be next, known by how it is shown. -/
def expect (shown : String) : Reading Unit := do
  if (← upcoming).shown? = some shown then advance else misplaced

/-- Takes an operator if it is next. -/
def takeMark (text : String) : Reading Bool := do
  match ← upcoming with
  | .mark found =>
    if found = text then
      advance
      return true
    else return false
  | _ => return false

/-- Takes a word with a meaning of its own if it is next. -/
def takeKeyword (word : String) : Reading Bool := do
  match ← upcoming with
  | .keyword found =>
    if found = word then
      advance
      return true
    else return false
  | _ => return false

end FormatChain.Tools.Awk
