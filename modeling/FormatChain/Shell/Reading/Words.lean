import FormatChain.Process.Escape
import FormatChain.Shell.Reading.Reader

/-!
# Reading words

A word is made of parts.  Quotes keep the bytes in them together, and a dollar sign starts what stands
for something else.

* `readSingle`, `readEscaped`, `readBackquoted` : bytes in quotes.
* `readAction`, `readBraces`, `readDollar` : what stands for something else.
* `readParts` : the parts of a word.
* `readDocuments` : the texts in a script.
-/

namespace FormatChain.Shell

open FormatChain.Process

/-- The bytes up to a single quote, given those read before, last first. -/
def readSingle (start : Nat) : Nat → Bytes → Reading Bytes
  | 0, _ => refuseFrom start .openQuotes
  | steps + 1, done => do
    match (← get).rest with
    | [] => refuseFrom start (if (← get).dialect = .rich then .missing '\'' else .openQuotes)
    | c :: _ =>
      advance
      if c = '\'' then return done.reverse else readSingle start steps (c :: done)

/-- The bytes up to a single quote that no backslash stands before, given those read before, last
first. -/
def readEscaped (start : Nat) : Nat → Bytes → Reading Bytes
  | 0, _ => refuseFrom start (.missing '\'')
  | steps + 1, done => do
    match (← get).rest with
    | [] => refuseFrom start (.missing '\'')
    | '\\' :: c :: _ =>
      advance
      advance
      readEscaped start steps (c :: '\\' :: done)
    | c :: _ =>
      advance
      if c = '\'' then return done.reverse else readEscaped start steps (c :: done)

/-- The bytes of a command in backquotes, given those read before, last first. -/
def readBackquoted (start : Nat) (quoted : Bool) : Nat → Bytes → Reading Bytes
  | 0, _ => refuseFrom start .openBackquotes
  | steps + 1, done => do
    match ← peek with
    | none => refuseFrom start .openBackquotes
    | some '\x60' =>
      advance
      return done.reverse
    | some '\\' =>
      advance
      match (← get).rest with
      | [] => readBackquoted start quoted steps ('\\' :: done)
      | c :: _ =>
        advance
        if c = '\\' || c = '\x60' || c = '$' || (quoted && c = '"') then
          readBackquoted start quoted steps (c :: done)
        else readBackquoted start quoted steps (c :: '\\' :: done)
    | some c =>
      advance
      readBackquoted start quoted steps (c :: done)

/-- Reads something, and another thing instead if there is a fault of a kind. -/
def readingOr {α : Type} (read : Reading α) (isOfKind : Fault → Bool) (instead : Nat → Reading α) :
    Reading α := fun r =>
  match read.run r with
  | .error (line, fault) => if isOfKind fault then (instead line).run r else .error (line, fault)
  | found => found

/-- Reads another text and goes on where it was before. -/
def readingInside {α : Type} (text : Bytes) (line : Nat) (read : Reading α) : Reading α := do
  let before ← get
  set { before with rest := text, line, again := false, awaited := [], unfolding := [] }
  let found ← read
  let after ← get
  set { before with documents := after.documents, count := after.count }
  return found

/-- The escapes in quotes after a dollar sign. -/
def quoteEscapes : EscapeRules :=
  { zeroDigits := 3, hexadecimal := true, characters := true, escapeLetters := ['e', 'E'],
    plain := ['\\', '"', '\'', '?'] }

/-- What is done with a value, up to the brace that ends it. -/
def readAction (g : Grammar) (within : Within) : Reading Action := do
  let rich := (← get).dialect = .rich
  let inner : Within := .braces within.isQuoted
  let orEmpty ← takes ':'
  match ← peek with
  | some '}' =>
    if orEmpty && rich then
      let _ ← g.parts inner
      return .unknown []
    advance
    if orEmpty then
      let _ ← g.parts inner
    return .plain
  | some '-' =>
    advance
    return .otherwise orEmpty (← g.parts inner)
  | some '+' =>
    advance
    return .instead orEmpty (← g.parts inner)
  | some '=' =>
    advance
    return .assign orEmpty (← g.parts inner)
  | some '?' =>
    advance
    return .demand orEmpty (← g.parts inner)
  | some c =>
    if orEmpty then
      if !rich then
        let _ ← g.parts inner
        return .unknown []
      let start ← g.parts (.bracesUpTo ':' within.isQuoted)
      if (← takes ':') then return .slice start (← g.parts inner) true
      else
        let _ ← takes '}'
        return .slice start [] false
    else if c = '%' || c = '#' then
      advance
      let longest ← takes c
      return .trim (c = '%') longest (← g.parts (.braces false))
    else if rich && c = '/' then
      advance
      let every ← takes '/'
      let atStart ← if every then pure false else takes '#'
      let atEnd ← if every || atStart then pure false else takes '%'
      let pattern ← g.parts (.bracesUpTo '/' false)
      let place := if atStart then some true else if atEnd then some false else none
      if (← takes '/') then return .replace every place pattern (← g.parts inner)
      else
        let _ ← takes '}'
        return .replace every place pattern []
    else if rich && (c = '^' || c = ',' || c = '~') then
      advance
      let every ← takes c
      let casing : Casing := if c = '^' then .capital else if c = ',' then .small else .turned
      return .casing casing every (← g.parts (.braces false))
    else if rich && c = '@' then
      match (← get).rest with
      | _ :: letter :: '\x7d' :: _ =>
        advance
        advance
        advance
        return .shown letter
      | _ =>
        let _ ← g.parts inner
        return .unknown []
    else
      let _ ← g.parts inner
      return .unknown []
  | none =>
    let _ ← g.parts inner
    return .unknown []

/-- The brackets after a name, if the language has arrays. -/
def readIndex (g : Grammar) : Reading Word := do
  if (← get).dialect = .rich then
    if (← takes '[') then g.parts .brackets else return []
  else return []

/-- A value in braces, after the brace that opens them. -/
def readBraces (g : Grammar) (within : Within) : Reading Part := do
  let unknown : Reading Part := do
    let _ ← g.parts (.braces within.isQuoted)
    return .value false [] [] (.unknown [])
  let named (name : Bytes) : Reading Part := do
    let index ← readIndex g
    return .value false name index (← readAction g within)
  let counted (name : Bytes) : Reading Part := do
    let index ← readIndex g
    if (← takes '}') then return .value false name index .length
    else unknown
  let readName : Reading Bytes := do
    match ← peek with
    | some c => if c.isDigit then takeAll Char.isDigit else takeAll isNameByte
    | none => return []
  match ← peek with
  | none => unknown
  | some '}' => unknown
  | some '#' =>
    advance
    match ← peek with
    | none => unknown
    | some c =>
      if isNameByte c then counted (← readName)
      else
        let r ← get
        match (r.rest.drop 1).head? with
        | some '}' =>
          if c ≠ '}' && isSpecialName c then
            advance
            counted [c]
          else named ['#']
        | _ => named ['#']
  | some '!' =>
    advance
    match ← peek with
    | some c =>
      if (← get).dialect = .common then named ['!']
      else if isNameByte c then
        let name ← readName
        match (← get).rest with
        | mark :: '\x7d' :: _ =>
          if mark = '*' || mark = '@' then
            advance
            advance
            return .value true name [] (.names (mark = '*'))
          else return .value true name (← readIndex g) (← readAction g within)
        | _ => return .value true name (← readIndex g) (← readAction g within)
      else if (c = '#' || c = '@' || c = '*') && ((← get).rest.drop 1).head? = some '\x7d' then
        advance
        return .value true [c] [] (← readAction g within)
      else named ['!']
    | none => unknown
  | some c =>
    if isNameByte c then named (← readName)
    else if isSpecialName c then
      advance
      named [c]
    else
      advance
      unknown

/-- A list of commands up to the parenthesis that closes it. -/
def readClosed (g : Grammar) : Reading Command := do
  let before := (← get).awaited
  let rich : Bool := (← get).dialect = .rich
  modify fun r => { r with awaited := [], again := false }
  let command ← readingOr (g.closed ()) (fun fault => rich && fault matches .unexpected .ending _)
    fun line => throw (line, .openCommand)
  modify fun r => { r with awaited := before }
  return command

/-- What stands after a dollar sign; none if the sign stands for itself. -/
def readDollar (g : Grammar) (within : Within) : Reading (Option Part) := do
  match ← peek with
  | none => return none
  | some '(' =>
    advance
    let rich : Bool := (← get).dialect = .rich
    let output : Reading Part := do return .output (← readClosed g)
    if (← peek) = some '(' then
      let sum : Reading Part := do
        advance
        return .sum (← g.parts (.sum 0))
      return some (← readingOr sum (fun fault => rich && fault matches .noSum) fun _ => output)
    else return some (← output)
  | some c =>
    if c = '[' && (← get).dialect = .rich then
      advance
      return some (.sum (← g.parts .brackets))
    else if c = '\x7b' then
      let before := (← get).rest
      advance
      match ← readBraces g within with
      | .value indirect name index (.unknown _) =>
        let written := before.take (before.length - (← get).rest.length)
        return some (.value indirect name index (.unknown ('$' :: written)))
      | part => return some part
    else if isNameStart c then return some (.value false (← takeAll isNameByte) [] .plain)
    else if isSpecialName c then
      advance
      return some (.value false [c] [] .plain)
    else if (← get).dialect = .rich && !within.isQuoted && (c = '\'' || c = '"') then
      advance
      if c = '"' then return some (.quotes (← g.parts .quotes))
      else return some (.literal (unescape quoteEscapes (← readEscaped (← get).line (← stepsLeft) [])).1)
    else return none

/-- Whether a byte after a backslash stands for itself in quotes. -/
def Within.unquotes (within : Within) (c : Char) : Bool :=
  c = '\\' || c = '\x60' || c = '$'
    || match within with
      | .document => false
      | .braces _ => c = '"' || c = '\x7d'
      | .bracesUpTo _ _ => c = '"' || c = '\x7d'
      | _ => c = '"'

/-- Whether the parts end before a byte, and whether it belongs to them. -/
def Within.ending (within : Within) (c : Char) (next : Option Char) : Option Bool :=
  match within with
  | .word => if endsWord c then some false else none
  | .pattern 0 => if endsWord c && c ≠ '(' && c ≠ '|' then some false else none
  | .pattern _ => none
  | .group _ => none
  | .quotes => if c = '"' then some true else none
  | .braces _ => if c = '\x7d' then some true else none
  | .document => none
  | .sum 0 => if c = ')' && next = some ')' then some true else none
  | .sum _ => none
  | .brackets => if c = ']' then some true else none
  | .bracesUpTo mark _ => if c = mark || c = '\x7d' then some false else none

/-- What is missing at the end of the script. -/
def Within.missing (dialect : Dialect) : Within → Option Fault
  | .word => none
  | .pattern 0 => none
  | .pattern _ => some (.missing ')')
  | .group _ => some (.missing ')')
  | .document => none
  | .quotes => some .openQuotes
  | .braces true => some (match dialect with
    | .common => .openQuotes
    | .rich => .openBraces)
  | .braces false => some .openBraces
  | .bracesUpTo _ _ => some .openBraces
  | .sum _ => some .openSum
  | .brackets => some (.missing ']')

/-- What the parts stand in after a byte that opens or closes parentheses. -/
def Within.after (within : Within) (c : Char) : Within :=
  match within with
  | .sum n => if c = '(' then .sum (n + 1) else if c = ')' then .sum (n - 1) else within
  | .pattern n => if c = '(' then .pattern (n + 1) else if c = ')' then .pattern (n - 1) else within
  | .group n =>
    if c = '(' then .group (n + 1)
    else if c = ')' then (if n = 1 then .word else .group (n - 1))
    else within
  | other => other

/-- The words of an array, up to the parenthesis that ends it. -/
def readElements (g : Grammar) (start : Nat) : Nat → List Word → Reading (List Word)
  | 0, done => return done.reverse
  | steps + 1, done => do
    match ← peek with
    | none => refuseFrom start .openElements
    | some ')' =>
      advance
      return done.reverse
    | some c =>
      if c = ' ' || c = '\t' || c = '\n' then
        advance
        readElements g start steps done
      else if c = '#' then
        let _ ← takeAll (· ≠ '\n')
        readElements g start steps done
      else
        let word ← g.parts .word
        if word.isEmpty then
          refuse (.unexpected (.sign (textOf [c])) none)
        else readElements g start steps (word :: done)

/-- Whether the text before a parenthesis gives a name the elements in it. -/
def startsElements (g : Gathered) : Bool :=
  g.parts.isEmpty
    && match g.current with
      | '=' :: '+' :: name => isName name.reverse
      | '=' :: name => isName name.reverse
      | _ => false

/-- The parts of a word that starts in a line, in at most so many steps. -/
def readParts (g : Grammar) (start : Nat) : Nat → Within → Gathered → Reading Word
  | 0, _, got => return got.word
  | steps + 1, within, got => do
    match ← peek with
    | none =>
      match within.missing (← get).dialect with
      | some fault => refuseFrom start fault
      | none => return got.word
    | some c =>
      let r ← get
      let rich : Bool := r.dialect = .rich
      let next := (r.rest.drop 1).head?
      match within.ending c next with
      | some included =>
        if c = '(' && rich && startsElements got then
          advance
          readParts g start steps within
            (got.push (.elements (← readElements g (← get).line (← stepsLeft) [])))
        else if rich && within = .word && (c = '<' || c = '>') && next = some '(' then
          advance
          advance
          readParts g start steps within (got.push (.channel (c = '<') (← readClosed g)))
        else
          if included then advance
          if c = ')' && included then advance
          return got.word
      | none =>
        if rich && within = .sum 0 && c = ')' then refuse .noSum
        advance
        let quoted := within.isQuoted
        if c = '\\' then
          match (← get).rest with
          | [] => readParts g start steps within (got.push (.literal ['\\']))
          | d :: _ =>
            if quoted && !within.unquotes d then readParts g start steps within (got.add '\\')
            else
              advance
              readParts g start steps within (got.push (.literal [d]))
        else if c = '\'' && !quoted then
          let bytes ← readSingle (← get).line (← stepsLeft) []
          readParts g start steps within (got.push (.literal bytes))
        else if c = '"' && within ≠ .document && !(within matches .sum _) then
          readParts g start steps within (got.push (.quotes (← g.parts .quotes)))
        else if c = '$' then
          match ← readDollar g within with
          | some part => readParts g start steps within (got.push part)
          | none => readParts g start steps within (got.add '$')
        else if c = '\x60' then
          let text ← readBackquoted (← get).line quoted (← stepsLeft) []
          let command ← readingInside text 1 (g.list .optional)
          readParts g start steps within (got.push (.output command))
        else if r.extended && within = .word && startsGroup c && next = some '(' then
          advance
          readParts g start steps (.group 1) ((got.add c).add '(')
        else readParts g start steps (within.after c) (got.add c)

/-! ## Texts in the script -/

/-- Whether a line goes on after its end. -/
def goesOn (line : Bytes) : Bool := (line.reverse.takeWhile (· = '\\')).length % 2 = 1

/-- The text up to the line that ends it, how many lines were read, and the rest. -/
def documentText (a : Awaited) : Nat → Bool → Bytes → Nat → Bytes → Bytes × Nat × Bytes
  | 0, _, done, lines, rest => (done, lines, rest)
  | _, _, done, lines, [] => (done, lines, [])
  | steps + 1, joined, done, lines, bytes =>
    let line := bytes.takeWhile (· ≠ '\n')
    let rest := bytes.drop line.length
    let ended := !rest.isEmpty
    let rest := rest.drop 1
    let line := if a.indented && !joined then line.dropWhile (· = '\t') else line
    if line = a.marker && !joined then (done, lines + (if ended then 1 else 0), rest)
    else
      documentText a steps (!a.quoted && goesOn line) (done ++ line ++ (if ended then ['\n'] else []))
        (lines + (if ended then 1 else 0)) rest

/-- Reads the texts in the script that commands before await. -/
def readDocuments (g : Grammar) : Reading Unit := do
  let awaited := (← get).awaited
  modify fun r => { r with awaited := [] }
  awaited.forM fun a => do
    let r ← get
    let (text, lines, rest) := documentText a (r.rest.length + 1) false [] 0 r.rest
    let word ← if a.quoted then pure [Part.literal text]
      else do
        let parts ← readingInside text r.line (g.parts .document)
        pure [Part.quotes parts]
    modify fun r => { r with
      rest, line := r.line + lines, documents := (a.number, word) :: r.documents }

end FormatChain.Shell
