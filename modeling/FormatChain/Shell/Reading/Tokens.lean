import FormatChain.Shell.Reading.Words

/-!
# Reading tokens

A script is read token by token, and in double brackets as a condition.

Commands are made of words, signs and redirections.  A word may have a meaning for the shell, or be the
short name of a text, which is read in its place.

* `keywords` : the words that have a meaning.
* `readRedirect`, `readWord`, `readFresh` : the next token.
* `readToken`, `readFirst` : the same where words with a meaning and short names are looked for.
* `readClauses` : a condition and the token after it.
* `readClause` : a condition up to the brackets that end it.
-/

namespace FormatChain.Shell

open FormatChain.Process

/-- The words that have a meaning for the shell. -/
def keywords : Dialect → List String
  | .common => ["!", "case", "do", "done", "elif", "else", "esac", "fi", "for", "if", "in", "then",
      "until", "while", "\x7b", "\x7d"]
  | .rich => ["!", "case", "do", "done", "elif", "else", "esac", "fi", "for", "if", "in", "then",
      "until", "while", "\x7b", "\x7d", "[[", "function", "select", "time"]

/-- The sign of a redirection. -/
def readRedirect (stream : Option Nat) : Reading Token := do
  let rich := (← get).dialect = .rich
  if (← takes '>') then
    if (← takes '>') then return .redirect stream ">>"
    else if (← takes '|') then return .redirect stream ">|"
    else if (← takes '&') then return .redirect stream ">&"
    else return .redirect stream ">"
  else
    let _ ← takes '<'
    if (← takes '<') then
      if (← takes '-') then return .redirect stream "<<-"
      else if rich then
        if (← takes '<') then return .redirect stream "<<<" else return .redirect stream "<<"
      else return .redirect stream "<<"
    else if (← takes '&') then return .redirect stream "<&"
    else if (← takes '>') then return .redirect stream "<>"
    else return .redirect stream "<"

/-- Whether a part is quoted. -/
def isQuotedPart : Part → Bool
  | .literal _ => true
  | .quotes _ => true
  | _ => false

/-- The stream that a word before an angle bracket names. -/
def streamOf? (dialect : Dialect) (word : Word) : Option (Option Nat) :=
  match word with
  | [] => some none
  | [.text digits] =>
    if digits.length = 1 || dialect = .rich then (natOf? digits).map some else none
  | _ => none

/-- A word, or a redirection that starts with the number of a stream. -/
def readWord (g : Grammar) : Reading Token := do
  let before := (← get).rest
  let word ← g.parts .word
  let r ← get
  let atBracket := r.rest.head? = some '<' || r.rest.head? = some '>'
  match atBracket, streamOf? r.dialect word with
  | true, some stream => readRedirect stream
  | _, _ => return .word word (word.any isQuotedPart) (before.take (before.length - r.rest.length))

/-- The next token, in at most so many steps. -/
def readFresh (g : Grammar) : Nat → Reading Token
  | 0 => return .ending
  | steps + 1 => do
    let rich := (← get).dialect = .rich
    match ← peek with
    | none => return .ending
    | some c =>
      match c with
      | ' ' =>
        advance
        readFresh g steps
      | '\t' =>
        advance
        readFresh g steps
      | '#' =>
        modify fun r => { r with rest := r.rest.dropWhile (· ≠ '\n') }
        readFresh g steps
      | '\n' =>
        advance
        return .newline
      | '&' =>
        advance
        if (← takes '&') then return .sign "&&"
        else if rich && (← peek) = some '>' then
          advance
          if (← takes '>') then return .redirect none "&>>" else return .redirect none "&>"
        else return .sign "&"
      | '|' =>
        advance
        if (← takes '|') then return .sign "||"
        else if rich then
          if (← takes '&') then return .sign "|&" else return .sign "|"
        else return .sign "|"
      | ';' =>
        advance
        if (← takes ';') then
          if rich then
            if (← takes '&') then return .sign ";;&" else return .sign ";;"
          else return .sign ";;"
        else if rich then
          if (← takes '&') then return .sign ";&" else return .sign ";"
        else return .sign ";"
      | '(' =>
        advance
        return .sign "("
      | ')' =>
        advance
        return .sign ")"
      | _ => readWord g

/-- The last token once more, or the next one. -/
def readRaw (g : Grammar) : Reading Token := do
  let r ← get
  if r.again then
    set { r with again := false }
    return r.last
  else readFresh g (← stepsLeft)

/-- A token after ends of lines, in at most so many steps. -/
def readPastLines (g : Grammar) : Nat → Reading Token
  | 0 => return .ending
  | steps + 1 => do
    match ← readRaw g with
    | .newline =>
      readDocuments g
      readPastLines g steps
    | token => return token

/-- The text of a short name, unless it is being read. -/
def Reader.aliasOf? (r : Reader) (start : Nat) (name : Bytes) : Option Bytes :=
  if r.unfolding.any fun u => u.name = name && u.left < start then none
  else (r.aliases.find? fun entry => entry.1 = name).map (·.2)

/-- Reads a text in the place of its short name. -/
def unfold (name text : Bytes) : Reading Unit := modify fun r =>
  let blank := text.getLast? = some ' ' || text.getLast? = some '\t'
  { r with
    rest := text ++ r.rest
    blankBefore := false
    unfolding := ⟨name, r.rest.length, blank⟩ :: r.unfolding }

/-- Forgets the short names whose texts were read. -/
def forgetUnfolded : Reading Unit := modify fun r =>
  let (ended, others) := r.unfolding.partition fun u => r.rest.length ≤ u.left
  { r with unfolding := others, blankBefore := r.blankBefore || ended.any (·.blank) }

/-- The next token, in at most so many steps. Ends of lines before it are left out if that is wanted,
and words with a meaning have it if that is wanted. Texts take the place of short names where commands
start. -/
def readTokenFrom (g : Grammar) (pastLines withKeywords naming : Bool) : Nat → Reading Token
  | 0 => return .ending
  | steps + 1 => do
    let fresh := !(← get).again
    let start := (← get).rest.length
    let token ← if pastLines then do readPastLines g (← stepsLeft) else readRaw g
    let r ← get
    match token with
    | .word [.text bytes] false _ =>
      let text := textOf bytes
      if withKeywords && (keywords r.dialect).contains text then return .keyword text
      else if !fresh || r.aliases.isEmpty then return token
      else
        forgetUnfolded
        let named := naming || (← get).blankBefore
        modify fun r => { r with blankBefore := false }
        match if named then r.aliasOf? start bytes else none with
        | some text =>
          unfold bytes text
          readTokenFrom g pastLines withKeywords naming steps
        | none => return token
    | _ => return token

/-- The next token. -/
def readToken (g : Grammar) (pastLines withKeywords : Bool) : Reading Token := do
  let r ← get
  let token ← readTokenFrom g pastLines withKeywords withKeywords (r.aliases.length + 2)
  modify fun r => { r with last := token }
  return token

/-- The next token of a command of which no word was read yet. -/
def readFirst (g : Grammar) : Reading Token := do
  let r ← get
  let token ← readTokenFrom g false false true (r.aliases.length + 2)
  modify fun r => { r with last := token }
  return token

/-- Reads the last token once more. -/
def unread : Reading Unit := modify fun r => { r with again := true }

/-- Finds something else than what was expected. -/
def unexpected {α : Type} (expected : Option Token) : Reading α := do
  let r ← get
  let line := if r.dialect = .rich && (r.last matches .newline) then r.line - 1 else r.line
  throw (line, .unexpected r.last expected)

/-- Whether a token is a sign. -/
def Token.isSign (text : String) : Token → Bool
  | .sign other => other == text
  | _ => false

/-- Whether a token is a word with a meaning. -/
def Token.isKeyword (text : String) : Token → Bool
  | .keyword other => other == text
  | _ => false

/-- Whether a token ends a list of commands. -/
def Token.endsList : Token → Bool
  | .ending => true
  | .sign text => [")", ";;", ";&", ";;&"].contains text
  | .keyword text =>
    ["do", "done", "elif", "else", "esac", "fi", "then", "\x7d"].contains text
  | _ => false

/-- Whether a token ends a command that has no words. -/
def Token.endsCommand : Token → Bool
  | .newline => true
  | .ending => true
  | token => token.isSign ";" || token.isSign "&"

/-- Reads a word with a meaning, which has to be there. -/
def expectKeyword (g : Grammar) (pastLines : Bool) (text : String) : Reading Unit := do
  let token ← readToken g pastLines pastLines
  if !token.isKeyword text then unexpected (some (.keyword text))

end FormatChain.Shell

/-!
## Reading conditions in brackets

A condition is made of words with operators before them and between them, which may be turned round,
put together, and put into parentheses.
-/

namespace FormatChain.Shell

open FormatChain.Process

/-- What is read of a condition. -/
inductive ClauseLevel where
  /-- Conditions one of which must hold. -/
  | any
  /-- Conditions all of which must hold. -/
  | all
  /-- A single condition. -/
  | single
  deriving DecidableEq

/-- The operators before a word, which follow a dash. -/
def unaryLetters : List Char := "abcdefghknoprstuvwxzGLNORS".toList

/-- The operators between two words that are words. -/
def binaryWords : List String :=
  ["=", "==", "!=", "=~", "-nt", "-ot", "-ef", "-eq", "-ne", "-lt", "-le", "-gt", "-ge"]

/-- A token as complaints about conditions show it; a plain word is not shown. -/
def Token.inClause? : Token → Option String
  | .ending => none
  | .newline => some "newline"
  | .sign text => some text
  | .redirect none text => some text
  | .word [.text [']', ']']] false _ => some "]]"
  | _ => none

/-- Gives up on a condition. -/
def refuseClause {α : Type} (words : Option String) : Reading α := do
  let r ← get
  throw (if r.last matches .newline then r.line - 1 else r.line, .badClause words r.rest.length)

/-- Gives up because of the last token, which is told of if it can be shown. -/
def refuseToken {α : Type} (shown : String → String) (otherwise : String) : Reading α := do
  match (← get).last.inClause? with
  | some text => refuseClause (some (shown text))
  | none => refuseClause (some otherwise)

/-- Whether a token is the word that ends conditions. -/
def Token.endsClause : Token → Bool
  | .word [.text [']', ']']] false _ => true
  | _ => false

/-- The word after an operator before a word. -/
def readUnaryClause (g : Grammar) (op : Bytes) : Reading Clause := do
  let token ← readToken g false false
  match token with
  | .word word _ _ =>
    if !token.endsClause then return .unary op word
  | _ => pure ()
  refuseToken (fun text => s!"unexpected argument \x60{text}' to conditional unary operator")
    "unexpected argument to conditional unary operator"

/-- The word after an operator between two words. -/
def readBinaryClause (g : Grammar) (left : Word) (op : Bytes) : Reading Clause := do
  let text := textOf op
  let token ← if text = "=~" then do
      let _ ← takeAll isBlankByte
      let word ← g.parts (.pattern 0)
      if word.isEmpty then readToken g false false
      else
        let token : Token := .word word (word.any isQuotedPart) []
        modify fun r => { r with last := token }
        pure token
    else do
      let extended := (← get).extended
      modify fun r => { r with extended := extended || ["=", "==", "!="].contains text }
      let token ← readToken g false false
      modify fun r => { r with extended }
      pure token
  match token with
  | .word word _ _ =>
    if !token.endsClause then return .binary left op word
  | _ => pure ()
  refuseToken (fun text => s!"unexpected argument \x60{text}' to conditional binary operator")
    "unexpected argument to conditional binary operator"

/-- The sign of an operator between two words. -/
def Token.binarySign? : Token → Option Bytes
  | .redirect none "<" => some ['<']
  | .redirect none ">" => some ['>']
  | .word [.text bytes] false _ => if binaryWords.contains (textOf bytes) then some bytes else none
  | _ => none

/-- What follows the first word of a single condition, and the token after the condition. -/
def readAfterWord (g : Grammar) (word : Word) : Reading (Clause × Token) := do
  let token ← readToken g false false
  match token.binarySign? with
  | some op =>
    let clause ← readBinaryClause g word op
    return (clause, ← readToken g true false)
  | none =>
    if token.endsClause || token.isSign "&&" || token.isSign "||" || token.isSign ")" then
      return (.unary ['-', 'n'] word, token)
    else
      refuseToken (fun text => s!"unexpected token \x60{text}', conditional binary operator expected")
        "conditional binary operator expected"

/-- A condition and the token after it, in at most so many steps. -/
def readClauses (g : Grammar) : Nat → ClauseLevel → Reading (Clause × Token)
  | 0, _ => refuseClause none
  | steps + 1, .any => do
    let (a, after) ← readClauses g steps .all
    if after.isSign "||" then
      let (b, after) ← readClauses g steps .any
      return (.or a b, after)
    else return (a, after)
  | steps + 1, .all => do
    let (a, after) ← readClauses g steps .single
    if after.isSign "&&" then
      let (b, after) ← readClauses g steps .all
      return (.and a b, after)
    else return (a, after)
  | steps + 1, .single => do
    let token ← readToken g true false
    match token with
    | .word [.text ['!']] false _ =>
      let (a, after) ← readClauses g steps .single
      return (.not a, after)
    | .word word quoted _ =>
      if token.endsClause then refuseClause none
      match word, quoted with
      | [.text ['-', letter]], false =>
        if unaryLetters.contains letter then
          let clause ← readUnaryClause g ['-', letter]
          return (clause, ← readToken g true false)
        else readAfterWord g word
      | _, _ => readAfterWord g word
    | .ending => refuseClause (some "unexpected token \x60EOF' in conditional command")
    | _ =>
      if token.isSign "(" then
        let (a, after) ← readClauses g steps .any
        if after.isSign ")" then return (a, ← readToken g true false)
        else refuseToken (fun text => s!"unexpected token \x60{text}', expected \x60)'") "expected \x60)'"
      else
        refuseToken (fun text => s!"unexpected token \x60{text}' in conditional command")
          "syntax error in conditional expression"

/-- A condition up to the brackets that end it. -/
def readClause (g : Grammar) : Reading Clause := do
  let line := (← get).line
  let (clause, after) ← readClauses g (4 * (← stepsLeft)) .any
  if after.endsClause then return clause
  else if after matches .ending then
    throw (line, .badClause (some "unexpected EOF while looking for \x60]]'") 0)
  else
    refuseToken (fun text => s!"syntax error in conditional expression: unexpected token \x60{text}'")
      "syntax error in conditional expression"

end FormatChain.Shell
