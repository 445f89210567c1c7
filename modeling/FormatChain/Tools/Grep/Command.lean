import FormatChain.Process.Options
import FormatChain.Shell.Wildcard
import FormatChain.Tools.Files
import FormatChain.Tools.Grep.Finder

/-!
# Finding lines

Lines that a pattern fits are written, or counted, or told by the names of their files.

* `SearchRequest`, `SearchRequest.adding` : what the options ask for.
* `SearchRequest.finder` : what is looked for.
* `grep`, `grepAs` : the command, and the command with patterns written in a way.
-/

namespace FormatChain.Tools

open FormatChain.Process FormatChain.Shell

/-! ## Requests -/

/-- What is done with directories. -/
inductive DirectoryRule where
  /-- They are read like files, which is refused. -/
  | asFiles
  /-- The files in them are searched. -/
  | inside
  /-- They are passed over. -/
  | passed
  deriving Repr, DecidableEq

/-- What is done with files that hold bytes of zeros. -/
inductive ZeroRule where
  /-- It is only told that lines were found. -/
  | told
  /-- They are taken for texts. -/
  | asTexts
  /-- They are passed over. -/
  | passed
  deriving Repr, DecidableEq

/-- A pattern as it was given. -/
structure WantedText where
  /-- The pattern. -/
  text : Bytes
  /-- The file that holds it with the number of its line, if it comes from a file. -/
  source : Option (Bytes × Nat) := none

/-- What the options ask for. -/
structure SearchRequest where
  /-- The letter of the way in which patterns are written. -/
  kind : Option Char := none
  /-- The patterns, if options give them. -/
  wanted : Option (List WantedText) := none
  /-- Whether capital and small letters are the same. -/
  fold : Bool := false
  /-- Whether whole words have to fit. -/
  words : Bool := false
  /-- Whether whole lines have to fit. -/
  lines : Bool := false
  /-- Whether the other lines are looked for. -/
  inverted : Bool := false
  /-- The number of lines shown before a found one. -/
  before : Option Nat := none
  /-- The number of lines shown after a found one. -/
  after : Option Nat := none
  /-- The number of lines shown on both sides. -/
  around : Option Nat := none
  /-- How many lines of a file are looked for. -/
  most : Option Nat := none
  /-- Whether lines are only counted. -/
  counted : Bool := false
  /-- Whether files are listed, those with found lines or those without. -/
  listed : Option Bool := none
  /-- Whether nothing is written. -/
  quiet : Bool := false
  /-- Whether names of files are shown. -/
  named : Option Bool := none
  /-- How lines are shown. -/
  view : FinderView := { gap := some "--".toList }
  /-- The name of what comes in. -/
  label : Bytes := "(standard input)".toList
  /-- Whether files that cannot be read are not told. -/
  silent : Bool := false
  /-- What is done with directories. -/
  directories : DirectoryRule := .asFiles
  /-- What is done with files that hold bytes of zeros. -/
  zeros : ZeroRule := .told
  /-- Patterns of names: whether files with such a name are searched. -/
  filters : List (Bool × Bytes) := []
  /-- Patterns of names of directories that are passed over. -/
  passedDirectories : List Bytes := []

/-- Why a request is refused. -/
inductive SearchFault where
  /-- The use of the command is shown, after a complaint if there is one. -/
  | usage (complaint : Option String) (status : Nat)
  /-- A complaint. -/
  | refused (complaint : String)

/-- Going on with a request. -/
abbrev Requesting := ExceptT SearchFault Running

/-- The options of the command. -/
def searchRules : OptionRules :=
  { letters := "A:B:C:D:EFGHILPTUVX:abcd:e:f:hiLlm:noqRrsuvwxyZz\x01::\x02:\x03:\x04:\x05:\x06:\x07\x08\x0b:\x0e:\x10"
    digits := true
    words := [("basic-regexp", 'G'), ("extended-regexp", 'E'), ("fixed-regexp", 'F'), ("fixed-strings", 'F'),
      ("perl-regexp", 'P'), ("after-context", 'A'), ("before-context", 'B'), ("binary-files", '\x02'),
      ("binary", 'U'), ("byte-offset", 'b'), ("context", 'C'), ("color", '\x01'), ("colour", '\x01'),
      ("count", 'c'), ("devices", 'D'), ("directories", 'd'), ("exclude", '\x03'), ("exclude-from", '\x04'),
      ("exclude-dir", '\x05'), ("file", 'f'), ("files-with-matches", 'l'), ("files-without-match", 'L'),
      ("group-separator", '\x06'), ("ignore-case", 'i'), ("no-ignore-case", '\x07'), ("initial-tab", 'T'),
      ("label", '\x0b'), ("include", '\x0e'), ("line-buffered", '\x10'), ("line-number", 'n'),
      ("line-regexp", 'x'), ("max-count", 'm'), ("no-filename", 'h'), ("no-group-separator", '\x08'),
      ("no-messages", 's'), ("null", 'Z'), ("null-data", 'z'), ("only-matching", 'o'), ("quiet", 'q'),
      ("recursive", 'r'), ("dereference-recursive", 'R'), ("regexp", 'e'), ("invert-match", 'v'),
      ("silent", 'q'), ("text", 'a'), ("unix-byte-offsets", 'u'), ("with-filename", 'H'),
      ("word-regexp", 'w')] }

/-- A number in an option; the longest one stands for all that are greater. -/
def readAmount? (text : Bytes) : Option Int :=
  let trimmed := text.dropWhile isSpaceByte
  let (negative, digits) := match trimmed with
    | '-' :: rest => (true, rest)
    | '+' :: rest => (false, rest)
    | rest => (false, rest)
  if digits.isEmpty || !digits.all Char.isDigit then none
  else (natOf? digits).map fun n => if negative then -(n : Int) else n

/-- The number of lines around found ones. -/
def readAround (text : Bytes) : Requesting Nat := do
  match readAmount? text with
  | some (.ofNat n) => return n
  | _ => throw (.refused s!"{textOf text}: invalid context length argument")

/-- Digits as they are told, if there are too many of them. -/
def shownDigits (digits : Bytes) : Bytes :=
  let digits := (digits.dropWhile (· = '0'))
  if digits.isEmpty then ['0'] else if digits.length ≤ 21 then digits else digits.take 21 ++ "...".toList

/-- The words for what is done with directories. -/
def directoryRules : Choices DirectoryRule :=
  [(["read"], .asFiles), (["recurse"], .inside), (["skip"], .passed)]

namespace SearchRequest

/-- The request with patterns written in a way. -/
def ofKind (r : SearchRequest) (kind : Char) : Requesting SearchRequest := do
  match r.kind with
  | some other => if other != kind then throw (.refused "conflicting matchers specified")
  | none => pure ()
  return { r with kind := some kind }

/-- The request with more patterns. A pattern that is known already is not taken again. -/
def withPatterns (r : SearchRequest) (more : List WantedText) : SearchRequest :=
  let known := r.wanted.getD []
  let all := more.foldl (fun known p => if known.any (·.text = p.text) then known else known ++ [p]) known
  { r with wanted := some all }

/-- The request with another view. -/
def viewing (r : SearchRequest) (change : FinderView → FinderView) : SearchRequest :=
  { r with view := change r.view }

/-- The request with an option. -/
def adding (j : Job) (r : SearchRequest) (g : Given) : Requesting SearchRequest := do
  match g.letter with
  | 'A' => return { r with after := some (← readAround g.value) }
  | 'B' => return { r with before := some (← readAround g.value) }
  | 'C' => return { r with around := some (← readAround g.value) }
  | '#' => return { r with around := some (← readAround (shownDigits g.value)) }
  | 'D' =>
    if g.value = "read".toList || g.value = "skip".toList then return r
    else throw (.refused "unknown devices method")
  | 'E' => r.ofKind 'E'
  | 'F' => r.ofKind 'F'
  | 'G' => r.ofKind 'G'
  | 'P' => r.ofKind 'P'
  | 'X' =>
    match textOf g.value with
    | "grep" => r.ofKind 'G'
    | "egrep" | "awk" | "gawk" | "posixawk" => r.ofKind 'E'
    | "fgrep" => r.ofKind 'F'
    | "perl" => r.ofKind 'P'
    | other => throw (.refused s!"invalid matcher {other}")
  | 'H' => return { r with named := some true }
  | 'h' => return { r with named := some false }
  | 'I' => return { r with zeros := .passed }
  | 'a' => return { r with zeros := .asTexts }
  | 'T' => return r.viewing fun v => { v with tabs := true }
  | 'b' => return r.viewing fun v => { v with places := true }
  | 'n' => return r.viewing fun v => { v with numbers := true }
  | 'o' => return r.viewing fun v => { v with onlyParts := true }
  | 'Z' => return r.viewing fun v => { v with zeroAfterNames := true }
  | 'z' => return r.viewing fun v => { v with mark := '\x00' }
  | '\x06' => return r.viewing fun v => { v with gap := some g.value }
  | '\x08' => return r.viewing fun v => { v with gap := none }
  | 'c' => return { r with counted := true }
  | 'd' =>
    match choose directoryRules "--directories" g.value with
    | .ok rule => return { r with directories := rule }
    | .error fault => throw (.usage (some fault) 1)
  | 'r' => return { r with directories := .inside }
  | 'R' => return { r with directories := .inside }
  | 'e' => return r.withPatterns ((splitAtByte '\n' g.value).map fun text => ⟨text, none⟩)
  | 'f' =>
    let contents ← if g.value = ['-'] then do pure (.ok (← Running.takeInput))
      else Running.readFile j.cwd g.value
    match contents with
    | .ok bytes =>
      return r.withPatterns ((linesOf bytes).zipIdx.map fun (line, i) => ⟨line.body, some (g.value, i + 1)⟩)
    | .error e => throw (.refused s!"{textOf g.value}: {e.words}")
  | 'i' => return { r with fold := true }
  | 'y' => return { r with fold := true }
  | '\x07' => return { r with fold := false }
  | 'L' => return { r with listed := some false }
  | 'l' => return { r with listed := some true }
  | 'm' =>
    match readAmount? g.value with
    | some (.ofNat n) => return { r with most := some n }
    | some _ => return { r with most := none }
    | none => throw (.refused "invalid max count")
  | 'q' => return { r with quiet := true }
  | 's' => return { r with silent := true }
  | 'u' =>
    j.complain "warning: --unix-byte-offsets (-u) is obsolete"
    return r
  | 'v' => return { r with inverted := true }
  | 'w' => return { r with words := true }
  | 'x' => return { r with lines := true }
  | '\x01' =>
    match textOf g.value with
    | "always" | "yes" | "force" => return r.viewing fun v => { v with colors := true }
    | "never" | "no" | "none" | "auto" | "tty" | "if-tty" | "" =>
      return r.viewing fun v => { v with colors := false }
    | _ => throw (.usage none 2)
  | '\x02' =>
    match textOf g.value with
    | "binary" => return { r with zeros := .told }
    | "text" => return { r with zeros := .asTexts }
    | "without-match" => return { r with zeros := .passed }
    | _ => throw (.refused "unknown binary-files type")
  | '\x03' => return { r with filters := r.filters ++ [(false, g.value)] }
  | '\x0e' => return { r with filters := r.filters ++ [(true, g.value)] }
  | '\x04' =>
    match ← Running.readFile j.cwd g.value with
    | .ok bytes => return { r with filters := r.filters ++ (linesOf bytes).map fun line => (false, line.body) }
    | .error e => throw (.refused s!"{textOf g.value}: {e.words}")
  | '\x05' => return { r with passedDirectories := g.value :: r.passedDirectories }
  | '\x0b' => return { r with label := g.value }
  | _ => return r

/-! ## Patterns -/

/-- What is looked for, or the request is refused. -/
def finder (j : Job) (r : SearchRequest) (wanted : List WantedText) : Requesting Finder := do
  let kind := r.kind.getD 'G'
  let f : Finder := { words := r.words, lines := r.lines, inverted := r.inverted }
  if kind = 'P' then
    match wanted with
    | [p] =>
      match OrderedPattern.read { fold := r.fold, lines := r.view.mark != '\n' } p.text with
      | .ok pattern => return { f with ordered := some (boundedPattern r.words r.lines pattern) }
      | .error fault => throw (.refused fault.message)
    | [] => return f
    | _ => throw (.refused "the -P option only supports a single pattern")
  else if kind = 'F' then
    return { f with patterns := wanted.map fun p => literalPattern r.fold p.text }
  else
    let rules : RegexRules := {
      extended := kind = 'E', fold := r.fold, looseBraces := true, looseClosing := true }
    let read := wanted.map fun p => (p, Pattern.read rules p.text)
    let complaints := read.filterMap fun (p, result) =>
      match result, p.source with
      | .ok _, _ => none
      | .error fault, none => some fault.message
      | .error fault, some (file, n) => some s!"{textOf file}:{n}: {fault.message}"
    if !complaints.isEmpty then
      (complaints.dropLast).forM fun complaint => liftM (j.complain complaint)
      throw (.refused (complaints.getLast?.getD ""))
    if kind = 'E' then
      for p in wanted do
        for what in idleRepeats true (p.text.length + 1) p.text do
          j.complain s!"warning: {what} at start of expression"
    if wanted.any fun p => namedSetAlone (p.text.length + 1) p.text then
      throw (.refused "character class syntax is [[:space:]], not [:space:]")
    return { f with patterns := read.filterMap fun (_, result) => result.toOption }

/-! ## Files -/

/-- Whether a name fits a pattern of names. -/
def nameFits (pattern name : Bytes) : Bool :=
  let last := ((splitAtByte '/' name).getLast?).getD name
  let wild := Wildcard.read { caret := true } (openMarks pattern)
  Wildcard.fits wild name || Wildcard.fits wild last

/-- Whether a file with a name is searched. The last pattern that fits decides; if none does, it is if the
first pattern is one of files that are not. -/
def searches (r : SearchRequest) (name : Bytes) : Bool :=
  match r.filters.reverse.find? fun (_, pattern) => nameFits pattern name with
  | some (included, _) => included
  | none => !(r.filters.head?.any (·.1))

/-- The files that an operand stands for, and whether it is a directory whose files are searched. -/
def filesOf (j : Job) (r : SearchRequest) (name : Bytes) : Running (List Bytes × Bool) := do
  if name = ['-'] then return ([name], false)
  else
    match ← placeOf j name with
    | .ok (.directory place) =>
      match r.directories with
      | .asFiles => return ([name], false)
      | .passed => return ([], false)
      | .inside =>
        let files := (filesBelow (← theDisk) place).filter fun (_, rest) =>
          !rest.dropLast.any fun component =>
            match component with
            | .name chars => r.passedDirectories.any fun p => nameFits p (bytesOf (String.ofList chars))
            | _ => false
        let paths := files.map fun (_, rest) =>
          rest.foldl (fun path component =>
            match component with
            | .name chars => nameInside path (bytesOf (String.ofList chars))
            | _ => path) name
        return ((paths.filter r.searches).mergeSort bytesBefore, true)
    | _ => return (if r.searches name then [name] else [], false)

/-- What searching some files came to. -/
structure Outcome where
  /-- Whether all files could be read. -/
  well : Bool := true
  /-- Whether a line was found. -/
  any : Bool := false
  /-- Whether a found line was shown. -/
  used : Bool := false
  /-- Whether the search is over. -/
  ended : Bool := false

/-- Searches the bytes of a file for what is looked for. -/
def searchBytes (j : Job) (r : SearchRequest) (f : Finder) (view : FinderView) (shown : Bytes)
    (o : Outcome) (bytes : Bytes) : Running Outcome := do
  let binary := view.mark = '\n' && r.zeros != .asTexts && bytes.contains '\x00'
  if binary && r.zeros = .passed then return o
  let bytes := if binary then bytes.map fun c => if c = '\x00' then '\n' else c else bytes
  let bodies := (linesEndedBy view.mark bytes).map (·.body)
  let listed := if r.quiet then none else r.listed
  let counted := r.counted && listed.isNone && !r.quiet
  let most := r.most.getD (bodies.length + 1)
  if r.quiet || listed.isSome || counted || binary then
    let found := (bodies.filter f.selects).length
    let count := min found most
    let ending := if view.zeroAfterNames then ['\x00'] else ['\n']
    if listed = some (decide (0 < count)) then
      Running.write (view.colored "35" shown ++ ending)
    if counted then
      let head := if view.name.isSome then view.nameAnd shown (view.between ':') else []
      Running.write (head ++ digitsOf count ++ ['\n'])
    if binary && !counted && listed.isNone && !r.quiet && 0 < count then
      j.complain s!"{textOf shown}: binary file matches"
    return { o with any := o.any || decide (0 < count), ended := r.quiet && decide (0 < count) }
  else
    let s := view.showLines f o.used most bodies
    Running.write s.written.reverse.flatten
    return { o with any := o.any || decide (0 < s.count), used := s.used }

/-- Searches a file for what is looked for; whether it is one of several is given. -/
def searchFile (j : Job) (r : SearchRequest) (f : Finder) (o : Outcome) (name : Bytes) (several : Bool) :
    Running Outcome := do
  let shown := if name = ['-'] then r.label else name
  let contents ← if name = ['-'] then do
      match (← get).inputFault with
      | some e => pure (.error e)
      | none => pure (.ok (← Running.takeInput))
    else Running.readFile j.cwd name
  match contents with
  | .error e =>
    if !r.silent then j.complain s!"{textOf shown}: {e.words}"
    return { o with well := false }
  | .ok bytes =>
    let size := bytes.length + (if r.view.numbers then 1 else 0)
    let context := if r.before.isSome || r.after.isSome || r.around.isSome then r.view.gap else none
    let view := { r.view with
      before := (r.before.orElse fun _ => r.around).getD 0
      after := (r.after.orElse fun _ => r.around).getD 0
      gap := context
      name := if r.named.getD several then some shown else none
      width := if !r.view.tabs then 0 else if name = ['-'] then 19 else (digitsOf size).length }
    searchBytes j r f view shown o bytes

/-- Searches files for what is looked for. -/
def search (j : Job) (r : SearchRequest) (f : Finder) (operands : List Bytes) : Running ExitStatus := do
  let inside := r.directories = .inside
  let names := if operands.isEmpty then [if inside then ['.'] else ['-']] else operands
  let mut o : Outcome := {}
  for name in names do
    let (files, deep) ← r.filesOf j name
    let files := if operands.isEmpty && inside then files.map (·.drop 2) else files
    for file in files do
      if !o.ended then o ← r.searchFile j f o file (deep || operands.length > 1)
  return .code (if o.ended then 0 else if !o.well then 2 else if o.any then 0 else 1)

end SearchRequest

/-! ## The command -/

/-- Goes on from the options and the other arguments to the search. -/
def grepRequested (j : Job) (kind : Option Char) : Requesting ExitStatus := do
  let (given, operands) := searchRules.readSoFar j.args
  let r ← given.foldlM (SearchRequest.adding j) { kind }
  match operands with
  | .error fault => throw (.usage (some fault) 2)
  | .ok operands =>
    let (wanted, files) ← match r.wanted, operands with
      | some wanted, files => pure (wanted, files)
      | none, pattern :: files =>
        pure (((({} : SearchRequest).withPatterns
          ((splitAtByte '\n' pattern).map fun text => ⟨text, none⟩)).wanted).getD [], files)
      | none, [] => throw (.usage none 2)
    if r.most = some 0 then return .code 1
    let f ← r.finder j wanted
    r.search j f files

/-- Finds lines, the patterns written in a way if it is given. -/
def grepAs (kind : Option Char) : Program := fun j => do
  match ← (grepRequested j kind).run with
  | .ok status => return status
  | .error (.refused complaint) => j.fail 2 complaint
  | .error (.usage complaint status) =>
    if let some text := complaint then j.complain text
    Running.complain s!"Usage: {j.shownName} [OPTION]... PATTERNS [FILE]..."
    Running.complain j.hint
    return .code status

/-- Finds lines. -/
def grep : Program := grepAs none

/-- Finds lines under a name that stands for a way in which patterns are written. -/
def oldGrep (kind : Char) : Program := fun j => grepAs (some kind) { j with name := "grep".toList }

end FormatChain.Tools
