import FormatChain.Calendar
import FormatChain.Shell.Builtin.Naming
import FormatChain.Tools.Conditions
import FormatChain.Tools.Writing

/-!
# Commands for texts

The commands of a shell that write texts and look at conditions.

* `echoArgs`, `printfArgs` : writing texts.
* `Scene.claims` : the conditions that only a shell knows of.
* `testArgs` : conditions.
-/

namespace FormatChain.Shell

open FormatChain.Process FormatChain.Tools

/-! ## Writing -/

/-- Writes bytes, or complains that nobody takes them. -/
def writeOut (bytes : Bytes) : Acting Nat := do
  if ← put 1 bytes then return 0
  else
    let command := (← shell).command.getD []
    match (← shell).dialect with
    | .common => complain (command ++ bytesOf ": I/O error")
    | .rich => complain (bytesOf "write error: Bad file descriptor")
    return 1

/-- The escapes of texts in the common language. -/
def commonEscapes : EscapeRules := { zeroDigits := 3 }

/-- The escapes of texts in the rich language. -/
def richEscapes : EscapeRules :=
  { zeroDigits := 3, bareOctal := false, hexadecimal := true, characters := true,
    escapeLetters := ['e', 'E'] }

/-- Texts with their escapes read, up to one that ends all, and whether none did. -/
def unescapeAll : List Bytes → List Bytes × Bool
  | [] => ([], true)
  | arg :: rest =>
    match unescape commonEscapes arg with
    | (bytes, true) =>
      let (others, whole) := unescapeAll rest
      (bytes :: others, whole)
    | (bytes, false) => ([bytes], false)

/-- Writes its arguments. -/
def echoArgs (args : List Bytes) : Acting Nat := do
  match (← shell).dialect with
  | .rich => writeOut (echoed richEscapes args)
  | .common =>
    let (silent, args) := match args with
      | ['-', 'n'] :: rest => (true, rest)
      | _ => (false, args)
    let (texts, whole) := unescapeAll args
    writeOut (joinWith [' '] texts ++ (if silent || !whole then [] else ['\n']))

/-- The formats of the common language. -/
def commonFormats : FormatStyle :=
  { escapes := { zeroDigits := 2, stops := false }
    argumentEscapes := commonEscapes
    noNumber := fun arg => s!"{textOf arg}: expected numeric value"
    partNumber := fun arg => s!"{textOf arg}: not completely converted"
    tooLarge := fun arg => s!"{textOf arg}: Numerical result out of range"
    unknown := fun c =>
      if c.letter.isSome then s!"{textOf c.written}: invalid directive" else "missing format character"
    unknownStatus := 2 }

/-- The escapes in arguments of formats in the rich language. -/
def richArgumentEscapes : EscapeRules :=
  { richEscapes with bareOctal := true, plain := ['\\', '"', '\'', '?'] }

/-- The formats of the rich language. -/
def richFormats : FormatStyle :=
  { escapes := { richArgumentEscapes with zeroDigits := 2, stops := false }
    argumentEscapes := richArgumentEscapes
    noNumber := fun arg => s!"{textOf arg}: invalid number"
    partNumber := fun arg => s!"{textOf arg}: invalid number"
    tooLarge := fun arg => s!"warning: {textOf arg}: Numerical result out of range"
    unknown := fun c =>
      match c.letter with
      | some letter => s!"\x60{textOf [letter]}': invalid format character"
      | none => s!"\x60{textOf c.written}': missing format character"
    bits := 64
    sizes := true
    quoting := some wordQuoted
    moments := some fun format seconds => ({ seconds } : Instant).shown format }

/-- Writes its arguments in a format. -/
def printfArgs (args : List Bytes) : Acting Nat := do
  let dialect := (← shell).dialect
  let hasEnd := args.head? = some ['-', '-']
  let (flags, args) ← match dialect with
    | .rich => flagsOf "v:" args
    | .common => pure ([], if args.head? = some ['-', '-'] then args.drop 1 else args)
  let target := flagValue? flags 'v'
  match target with
  | some written =>
    let n := NameText.read dialect written
    if !(← checkName n.name written) then return 2
  | none => pure ()
  match args with
  | [] =>
    match dialect with
    | .common => fail "usage: printf format [arg ...]"
    | .rich => tellUsage
  | format :: args =>
    let hasOption := dialect = .common && !hasEnd && 1 < format.length && format.head? = some '-'
    if hasOption then failWith 2 (bytesOf "Illegal option -" ++ (format.drop 1).take 1)
    else
      let style := match dialect with
        | .common => commonFormats
        | .rich => richFormats
      let f := formatted style format args
      f.complaints.forM fun words => complainText words
      match target with
      | some written =>
        let n := NameText.read dialect written
        giveValue n.name n.index false f.output
        return f.status
      | none =>
        let written ← writeOut f.output
        return if f.status = 0 then written else f.status

/-! ## Conditions -/

/-- The wording of what is wrong with a condition. -/
def conditionMessage (dialect : Dialect) (count : Nat) : Condition.Fault → String
  | .unexpectedOperator op =>
    match dialect with
    | .common => s!"{textOf op}: unexpected operator"
    | .rich =>
      if count > 3 then "too many arguments"
      else if count = 3 then s!"{textOf op}: binary operator expected"
      else s!"{textOf op}: unary operator expected"
  | .argumentExpected op =>
    match dialect with
    | .common => s!"{textOf op}: argument expected"
    | .rich => s!"{textOf op}: unary operator expected"
  | .closingExpected =>
    match dialect with
    | .common => "closing paren expected"
    | .rich => "\x60)' expected"
  | .illegalNumber text =>
    match dialect with
    | .common => s!"Illegal number: {textOf text}"
    | .rich => s!"{textOf text}: integer expression expected"

/-- Whether a variable, or an element of one, has a value. -/
def State.hasValue (s : State) (world : World) (text : Bytes) : Bool :=
  let n := NameText.read .rich text
  let known := (s.computed? world n.name).orElse fun _ => entryOf? n.name s.vars
  let known := match known with
    | some v => if v.reference then v.value.bind fun other => entryOf? other s.vars else some v
    | none => none
  match known, n.index with
  | none, _ =>
    match natOf? text with
    | some k => k ≤ s.args.length
    | none => false
  | some v, none => v.text?.isSome
  | some v, some ['@'] => !v.listed.isEmpty
  | some v, some index => (entryOf? index v.listed).isSome

/-- The conditions on one text that only a shell of the rich language knows of. -/
def Scene.claims (scene : Scene) : List (String × (Bytes → Bool)) :=
  let s := scene.shell
  [("-v", s.hasValue scene.world),
    ("-o", fun name => ((settingNames .rich).find? fun entry => entry.1.toList = name).any fun entry =>
      s.settings.contains entry.2),
    ("-R", fun name => ((entryOf? name s.vars).any (·.reference)) && s.hasValue scene.world name),
    ("-a", fun name => ({ disk := scene.world.disk, cwd := s.cwd } : Condition.Site).unary "-e".toList name
      matches .ok true)]

/-- Whether a condition holds, as a number. -/
def testArgs (bracket : Bool) (args : List Bytes) : Acting Nat := do
  let dialect := (← shell).dialect
  if bracket && args.getLast? ≠ some [']'] then
    failWith 2 (bytesOf (← worded "missing ]" "missing \x60]'"))
  let args := if bracket then args.dropLast else args
  let scene ← get
  let site : Condition.Site := {
    disk := scene.world.disk, cwd := scene.shell.cwd, doubleEquals := dialect = .rich
    bothThere := dialect = .common
    others := if dialect = .rich then scene.claims else [] }
  match if dialect = .rich then site.strictHolds args else site.holds args with
  | .ok true => return 0
  | .ok false => return 1
  | .error fault => failWith 2 (bytesOf (conditionMessage dialect args.length fault))

end FormatChain.Shell
