import FormatChain.Shell.Reading.Tokens

/-!
# Reading commands

A script is a list of commands.  A command is simple, or is made of others between words with a
meaning.

* `Assignment`, `assignment?` : words that give names values.
* `readSimple` : simple commands.
* `readFor`, `readCases`, `readBranches`, `readFunction` : commands that are made of others.
* `readCommand`, `readPipeline`, `readList` : commands, pipelines and lists.
* `Reader.next` : the next complete command.
* `wordOfText` : a text as a word.
-/

namespace FormatChain.Shell

open FormatChain.Process

/-! ## Commands -/

/-- The kind of a redirection by its sign. -/
def kindOf (sign : String) : RedirectKind :=
  match sign with
  | ">" => .write
  | ">>" => .append
  | ">|" => .clobber
  | ">&" => .sameOutput
  | "<&" => .sameInput
  | "<>" => .both
  | "<<<" => .word
  | "&>" => .everything
  | "&>>" => .everythingAppended
  | _ => .read

/-- The bytes of a part with its quotes taken away. -/
def unquotedPart (part : Part) : Bytes :=
  match part with
  | .text bytes => bytes
  | .literal bytes => bytes
  | .quotes parts => parts.flatMap fun inner =>
    match inner with
    | .text bytes => bytes
    | .literal bytes => bytes
    | _ => []
  | .value _ name _ _ => '$' :: name
  | _ => []

/-- A redirection after its sign. -/
def readTarget (g : Grammar) (stream : Option Nat) (sign : String) : Reading Redirect := do
  match ← readToken g false false with
  | .word word quoted _ =>
    if sign = "<<" || sign = "<<-" then
      let r ← get
      let a : Awaited := ⟨r.count, word.flatMap unquotedPart, quoted, sign = "<<-"⟩
      set { r with awaited := r.awaited ++ [a], count := r.count + 1 }
      return .document stream a.number
    else return .named stream (kindOf sign) word
  | _ => unexpected none

/-- Redirections after a command, in at most so many steps. -/
def readRedirects (g : Grammar) : Nat → Bool → Reading (List Redirect)
  | 0, _ => return []
  | steps + 1, withKeywords => do
    match ← readToken g false withKeywords with
    | .redirect stream sign =>
      let first ← readTarget g stream sign
      return first :: (← readRedirects g steps false)
    | _ =>
      unread
      return []

/-- What gives a name a value. -/
structure Assignment where
  /-- The name. -/
  name : Bytes
  /-- Which element of an array gets the value. -/
  index : Option Word := none
  /-- Whether the value is added to the one before. -/
  added : Bool := false
  /-- The value. -/
  value : Word

/-- The parts up to a bracket that closes an index, and what follows it. -/
def splitIndex (done : Word) : Word → Option (Word × Word)
  | [] => none
  | .text bytes :: rest =>
    let before := bytes.takeWhile (· ≠ ']')
    if before.length < bytes.length then
      some (done ++ [.text before], .text (bytes.drop (before.length + 1)) :: rest)
    else splitIndex (done ++ [.text bytes]) rest
  | part :: rest => splitIndex (done ++ [part]) rest

/-- The value after an equals sign. -/
def valueAfter (bytes : Bytes) (rest : Word) : Option (Bool × Word) :=
  let parts (text : Bytes) : Word := if text.isEmpty then rest else .text text :: rest
  match bytes with
  | '=' :: text => some (false, parts text)
  | '+' :: '=' :: text => some (true, parts text)
  | _ => none

/-- What a word gives a value, if it does. -/
def assignment? (dialect : Dialect) (word : Word) : Option Assignment :=
  match word with
  | .text bytes :: rest =>
    let name := bytes.takeWhile isNameByte
    if !isName name then none
    else
      match bytes.drop name.length, dialect with
      | '[' :: more, .rich =>
        match splitIndex [] (.text more :: rest) with
        | some (index, .text after :: others) =>
          (valueAfter after others).map fun (added, value) => ⟨name, some index, added, value⟩
        | _ => none
      | after, _ =>
        match valueAfter after rest with
        | some (added, value) =>
          if added && dialect = .common then none else some ⟨name, none, added, value⟩
        | none => none
  | _ => none

/-- The commands whose words may give names values. -/
def declaringCommands : List String := ["declare", "typeset", "local", "export", "readonly"]

/-- The commands of the shell that cannot be functions. -/
def reservedFunctionNames : List String :=
  [".", ":", "break", "continue", "eval", "exec", "exit", "export", "readonly", "return", "set",
    "shift", "times", "trap", "unset", "local"]

/-- The command of a function. In the rich language it is not a simple one. -/
def readBody (g : Grammar) : Reading Command := do
  if (← get).dialect = .rich then
    match ← readToken g true true with
    | .word _ _ _ => unexpected none
    | .redirect _ _ => unexpected none
    | _ =>
      unread
      g.command true
  else g.command true

/-- What of a simple command was read, the latest first. -/
structure SimpleParts where
  /-- The words that give names values. -/
  assignments : List Word := []
  /-- The other words. -/
  words : List Word := []
  /-- The redirections. -/
  redirects : List Redirect := []
  /-- How the words are written. -/
  written : List Bytes := []

/-- The simple command. -/
def SimpleParts.command (p : SimpleParts) (line : Nat) : Command :=
  .simple line p.assignments.reverse p.words.reverse p.redirects.reverse (joinWith [' '] p.written.reverse)

/-- A simple command of which parts were read, in at most so many steps. -/
def readSimple (g : Grammar) (line : Nat) : Nat → SimpleParts → Reading Command
  | 0, p => return p.command line
  | steps + 1, p => do
    let dialect := (← get).dialect
    match ← if p.words.isEmpty then readFirst g else readToken g false false with
    | .word word _ written =>
      let p := { p with written := written :: p.written }
      if p.words.isEmpty && (assignment? dialect word).isSome then
        readSimple g line steps { p with assignments := word :: p.assignments }
      else readSimple g line steps { p with words := word :: p.words }
    | .redirect stream sign =>
      let redirect ← readTarget g stream sign
      readSimple g line steps { p with redirects := redirect :: p.redirects }
    | token =>
      match token.isSign "(", p.words, p.assignments, p.redirects with
      | true, [word], [], [] =>
        if !(← readToken g false false).isSign ")" then unexpected (some (.sign ")"))
        let name := (plainText? word).getD []
        let bad := match dialect with
          | .common => !isName name || reservedFunctionNames.contains (textOf name)
          | .rich => name.isEmpty
        if bad then refuse .badFunctionName
        let line := (← get).line
        return .define line name (← readBody g)
      | _, _, _, _ =>
        unread
        return p.command line

/-- The word that stands for all arguments. -/
def allArguments : Word := [.quotes [.value false ['@'] [] .plain]]

/-- The words of a loop, in at most so many steps. -/
def readLoopWords (g : Grammar) : Nat → Reading (List Word)
  | 0 => return []
  | steps + 1 => do
    match ← readToken g false false with
    | .word word _ _ => return word :: (← readLoopWords g steps)
    | .newline => return []
    | .sign ";" => return []
    | _ => unexpected none

/-- The parts before a semicolon that stands for itself, and those after it. -/
def splitAtSemicolon (done : Word) : Word → Word × Word
  | [] => (done, [])
  | .text bytes :: rest =>
    let before := bytes.takeWhile (· ≠ ';')
    if before.length < bytes.length then
      (done ++ [.text before], .text (bytes.drop (before.length + 1)) :: rest)
    else splitAtSemicolon (done ++ [.text bytes]) rest
  | part :: rest => splitAtSemicolon (done ++ [part]) rest

/-- The word that starts the commands of a loop. Gives the one that ends them. -/
def readLoopStart (g : Grammar) : Reading String := do
  let token ← readToken g true true
  if token.isKeyword "do" then return "done"
  else if token.isKeyword "\x7b" && (← get).dialect = .rich then return "\x7d"
  else unexpected (some (.keyword "do"))

/-- A loop over words, a menu of them, or a loop with sums, after its first word. -/
def readFor (g : Grammar) (line : Nat) (isMenu : Bool) : Reading Command := do
  let token ← readToken g false false
  if (← get).dialect = .rich && !isMenu && token.isSign "(" && (← peek) = some '(' then
    advance
    let sums ← g.parts (.sum 0)
    let (first, rest) := splitAtSemicolon [] sums
    let (test, next) := splitAtSemicolon [] rest
    let after ← readToken g true true
    if !after.isSign ";" then unread
    let ending ← readLoopStart g
    let body ← g.list .inside
    expectKeyword g false ending
    return .counted line first test next body
  let rich : Bool := (← get).dialect = .rich
  let name ← match token with
    | .word [.text name] false _ => if isName name || rich then pure name else refuse .badLoopName
    | .word _ _ _ => refuse .badLoopName
    | _ => if rich then unexpected none else refuse .badLoopName
  let words ← match ← readToken g true true with
    | .keyword "in" => readLoopWords g (← stepsLeft)
    | .sign ";" => pure [allArguments]
    | _ => do
      unread
      pure [allArguments]
  let ending ← readLoopStart g
  let body ← g.list .inside
  expectKeyword g false ending
  return if isMenu then .menu line name words body else .each line name words body

/-- What a token is as a pattern. -/
def Token.pattern : Token → Word
  | .word parts _ _ => parts
  | .keyword text => [.text (bytesOf text)]
  | _ => []

/-- The patterns of a case, the first of which is the last token, in at most so many steps. -/
def readPatterns (g : Grammar) : Nat → Token → Reading (List Word)
  | 0, _ => return []
  | steps + 1, token => do
    let next ← readToken g false false
    if next.isSign "|" then
      let other ← readToken g false false
      return token.pattern :: (← readPatterns g steps other)
    else if next.isSign ")" then return [token.pattern]
    else unexpected (some (.sign ")"))

/-- What follows a case, if a token ends it. -/
def Token.caseEnd? : Token → Option CaseEnd
  | .sign ";;" => some .stop
  | .sign ";&" => some .through
  | .sign ";;&" => some .onward
  | _ => none

/-- The cases of a choice by patterns, in at most so many steps. -/
def readCases (g : Grammar) : Nat → Reading (List (List Word × Command × CaseEnd))
  | 0 => return []
  | steps + 1 => do
    let token ← readToken g true true
    if token.isKeyword "esac" then return []
    let token ← if token.isSign "(" then readToken g false false else pure token
    let patterns ← readPatterns g (← stepsLeft) token
    let body ← g.list .optional
    let token ← readToken g true true
    if token.isKeyword "esac" then return [(patterns, body, .stop)]
    else
      match token.caseEnd? with
      | some ending => return (patterns, body, ending) :: (← readCases g steps)
      | none => unexpected (some (.sign ";;"))

/-- What follows the condition of a choice, in at most so many steps. -/
def readBranches (g : Grammar) : Nat → Reading Command
  | 0 => return .nothing
  | steps + 1 => do
    let condition ← g.list .inside
    expectKeyword g false "then"
    let yes ← g.list .inside
    let token ← readToken g false false
    if token.isKeyword "elif" then return .choice condition yes (← readBranches g steps)
    else if token.isKeyword "else" then return .choice condition yes (← g.list .inside)
    else
      unread
      return .choice condition yes .nothing

/-- What stands before the redirections of a command that is not simple. -/
inductive Opening where
  /-- A command that is complete. -/
  | complete (command : Command)
  /-- A command that may have redirections. -/
  | compound (command : Command)

/-- A function after the word that announces it. -/
def readFunction (g : Grammar) : Reading Command := do
  match ← readToken g false false with
  | .word word _ _ =>
    let line := (← get).line
    let token ← readToken g true true
    if token.isSign "(" then
      let _ ← readToken g false false
    else unread
    return .define line ((plainText? word).getD []) (← readBody g)
  | _ => unexpected none

/-- A command without its redirections, given its first token. -/
def readOpening (g : Grammar) (line : Nat) (token : Token) : Reading Opening := do
  match token with
  | .keyword "if" =>
    let command ← readBranches g (← stepsLeft)
    expectKeyword g false "fi"
    return .compound command
  | .keyword "while" =>
    let condition ← g.list .inside
    expectKeyword g false "do"
    let body ← g.list .inside
    expectKeyword g false "done"
    return .compound (.loop false condition body)
  | .keyword "until" =>
    let condition ← g.list .inside
    expectKeyword g false "do"
    let body ← g.list .inside
    expectKeyword g false "done"
    return .compound (.loop true condition body)
  | .keyword "for" => return .compound (← readFor g line false)
  | .keyword "select" => return .compound (← readFor g line true)
  | .keyword "case" =>
    match ← readToken g false false with
    | .word word _ _ =>
      expectKeyword g true "in"
      return .compound (.select line word (← readCases g (← stepsLeft)))
    | _ => unexpected (some (Token.word [] false []))
  | .keyword "[[" => return .compound (.condition line (← readClause g))
  | .keyword "function" => return .complete (← readFunction g)
  | .keyword "time" =>
    let token ← readToken g false true
    match token with
    | .word [.text ['-', 'p']] _ _ => pure ()
    | _ => unread
    let token ← readToken g false true
    unread
    if token.endsCommand then return .complete .nothing else return .complete (← g.command false)
  | .keyword text =>
    if text = "\x7b" then
      let command ← g.list .inside
      expectKeyword g false "\x7d"
      return .compound command
    else unexpected none
  | .sign "(" =>
    let subshell : Reading Opening := do
      let command ← g.list .inside
      if !(← readToken g false false).isSign ")" then unexpected (some (.sign ")"))
      return .compound (.subshell line command [])
    if (← get).dialect = .rich && (← peek) = some '(' then
      let computed : Reading Opening := do
        advance
        return .compound (.computed line (← g.parts (.sum 0)))
      readingOr computed (· matches .noSum) fun _ => subshell
    else subshell
  | .word _ _ _ =>
    unread
    return .complete (← readSimple g (← get).line (← stepsLeft) {})
  | .redirect _ _ =>
    unread
    return .complete (← readSimple g (← get).line (← stepsLeft) {})
  | _ => unexpected none

/-- A command; whether ends of lines may stand before it. -/
def readCommand (g : Grammar) (pastLines : Bool) : Reading Command := do
  let line := (← get).line
  let token ← readToken g pastLines pastLines
  match ← readOpening g line token with
  | .complete command => return command
  | .compound command =>
    let redirects ← readRedirects g (← stepsLeft) true
    match command, redirects with
    | _, [] => return command
    | .subshell line inner _, _ => return .subshell line inner redirects
    | _, _ => return .redirected line command redirects

/-- A command whose complaints go where its output goes. -/
def withComplaints (line : Nat) : Command → Command
  | .simple line assignments words redirects written =>
    .simple line assignments words (redirects ++ [.named (some 2) .sameOutput [.text ['1']]]) written
  | command => .redirected line command [.named (some 2) .sameOutput [.text ['1']]]

/-- The stages of a pipeline from one on that was read, in at most so many steps. -/
def readStages (g : Grammar) : Nat → Command → Reading (List Command)
  | 0, first => return [first]
  | steps + 1, first => do
    let line := (← get).line
    let token ← readToken g false false
    if token.isSign "|" || token.isSign "|&" then
      let first := if token.isSign "|&" then withComplaints line first else first
      return first :: (← readStages g steps (← g.command true))
    else
      unread
      return [first]

/-- Leaves out the signs that turn the result of a pipeline round, in at most so many steps. Tells
whether it is turned round. -/
def readTurns (g : Grammar) : Nat → Bool → Reading Bool
  | 0, turned => return turned
  | steps + 1, turned => do
    if (← readToken g false true).isKeyword "!" then
      if (← get).dialect = .rich then readTurns g steps (!turned)
      else
        let _ ← readToken g false true
        return true
    else return turned

/-- A pipeline. -/
def readPipeline (g : Grammar) : Reading Command := do
  let turned ← readTurns g (← stepsLeft) false
  let token := (← get).last
  unread
  if turned && (← get).dialect = .rich && token.endsCommand then return .not .nothing
  let first ← readCommand g false
  let command ← match ← readStages g (← stepsLeft) first with
    | [only] => pure only
    | stages => pure (.piped stages)
  return if turned then .not command else command

/-- Pipelines that depend on each other, the first of which was read, in at most so many steps. -/
def readAndOr (g : Grammar) : Nat → Command → Reading Command
  | 0, first => return first
  | steps + 1, first => do
    let token ← readToken g false false
    if token.isSign "&&" || token.isSign "||" then
      let _ ← readToken g true true
      unread
      let second ← readPipeline g
      readAndOr g steps (if token.isSign "&&" then .and first second else .or first second)
    else
      unread
      return first

/-- One command after another. -/
def following (first second : Command) : Command :=
  match first with
  | .nothing => second
  | _ => .sequence first second

/-- A list of commands, some of which were read, in at most so many steps. -/
def readListFrom (g : Grammar) (kind : ListKind) : Nat → Bool → Command → Reading Command
  | 0, _, done => return done
  | steps + 1, started, done => do
    let token ← readToken g (kind ≠ .line) true
    match token, kind with
    | .newline, .line =>
      readDocuments g
      return done
    | .ending, _ =>
      readDocuments g
      unread
      return done
    | _, _ =>
      unread
      if kind ≠ .line && (started || kind = .optional) && token.endsList then return done
      let line := (← get).line
      let first ← readPipeline g
      let command ← readAndOr g (← stepsLeft) first
      let token ← readToken g false false
      let command := if token.isSign "&" then .background line command else command
      let done := following done command
      match token with
      | .ending =>
        readDocuments g
        unread
        return done
      | .newline =>
        unread
        readListFrom g kind steps true done
      | _ =>
        if token.isSign "&" || token.isSign ";" then readListFrom g kind steps true done
        else if kind = .line then unexpected none
        else
          unread
          return done

/-- A list of commands. -/
def readList (g : Grammar) (kind : ListKind) : Reading Command := do
  readListFrom g kind (← stepsLeft) false .nothing

/-- A list of commands up to the parenthesis that closes it. -/
def readClosedList (g : Grammar) : Reading Command := do
  let command ← readList g .optional
  if !(← readToken g false false).isSign ")" then unexpected (some (.sign ")"))
  return command

/-- The parts of scripts that are nested up to so deep. -/
def Grammar.upTo : Nat → Grammar
  | 0 => ⟨fun _ => refuse .tooDeep, fun _ => refuse .tooDeep, fun _ => refuse .tooDeep,
      fun _ => refuse .tooDeep⟩
  | depth + 1 =>
    { list := fun kind => readList (upTo depth) kind
      closed := fun _ => readClosedList (upTo depth)
      command := fun pastLines => readCommand (upTo depth) pastLines
      parts := fun within => do readParts (upTo depth) (← get).line (← stepsLeft) within {} }

/-- The next complete command, if there is one, and what is left. -/
def Reader.next (r : Reader) : Except (Nat × Fault) (Option Command × Reader) := do
  let g := Grammar.upTo (r.bound + 3)
  let (token, r) ← (readToken g false true).run { r with again := false }
  match token with
  | .ending => return (none, r)
  | _ =>
    let (command, r) ← (readList g .line).run { r with again := true }
    return (some command, r)

/-- The word that a text is whose values are to be looked up as in double quotes. -/
def wordOfText (dialect : Dialect) (text : Bytes) : Except (Nat × Fault) Word := do
  let r : Reader := { dialect, rest := text }
  let (word, _) ← ((Grammar.upTo (r.bound + 3)).parts .document).run r
  return word

end FormatChain.Shell
