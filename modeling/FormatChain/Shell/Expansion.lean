import FormatChain.Shell.Arithmetic
import FormatChain.Shell.Braces
import FormatChain.Shell.Declared

/-!
# What words stand for

The parts of a word are replaced by what they stand for.  What does not stand in quotes is parted
into fields, and a field with wildcards gives way to the paths that fit.

* `Chunk`, `chunksOf` : what the parts of a word stand for.
* `Fields` : chunks as fields.
* `fieldsOf`, `textOfWord`, `marksOfWord` : words as arguments, as a text, and as a pattern.
-/

namespace FormatChain.Shell

open FormatChain.Process

/-- What a part of a word stands for. -/
inductive Chunk where
  /-- Bytes, whether they are quoted, and whether separators in them part fields. -/
  | bytes (bytes : Bytes) (quoted split : Bool)
  /-- The end of a field. -/
  | boundary
  deriving Repr, Inhabited

/-- How text in a word is taken. -/
inductive Mode where
  /-- It stands in the word itself. -/
  | plain
  /-- It stands for a value in the word. -/
  | inner
  /-- It stands in double quotes. -/
  | quoted
  deriving DecidableEq

/-- What commands in words do. -/
structure Writer where
  /-- What a command writes. -/
  output : Command → Acting Bytes
  /-- The path of a file that a command writes, or that it reads. -/
  channel : Bool → Command → Acting Bytes

/-- The bytes of chunks, fields being parted by a space. -/
def bytesOfChunks (chunks : List Chunk) : Bytes :=
  chunks.flatMap fun chunk =>
    match chunk with
    | .bytes bytes _ _ => bytes
    | .boundary => [' ']

/-- The bytes of chunks, with their quotes. -/
def marksOfChunks (chunks : List Chunk) : List Mark :=
  chunks.flatMap fun chunk =>
    match chunk with
    | .bytes bytes quoted _ => bytes.map fun c => ⟨c, quoted⟩
    | .boundary => openMarks [' ']

/-- The bytes of a value. -/
def valueChunk (mode : Mode) (bytes : Bytes) : Chunk :=
  .bytes bytes (mode = .quoted) (mode ≠ .quoted)

/-! ## Sums -/

/-- The number that a text in a sum is. -/
def numberIn (text : Bytes) : Acting Int := do
  let trimmed := text.dropWhile isSpaceByte
  let (negative, digits) := match trimmed with
    | '-' :: rest => (true, rest)
    | '+' :: rest => (false, rest)
    | rest => (false, rest)
  let (n, count, rest) := readLiteral digits
  if (count = 0 && !trimmed.isEmpty) || !(rest.all isSpaceByte) || largest < n then
    failWith 2 (bytesOf "Illegal number: " ++ text)
  else return if negative then -(n : Int) else n

/-- The value of a text as a sum, names in values being sums themselves up to so deep. -/
def sumValue : Nat → Bytes → Acting Int
  | 0, text => failWith 1 (text ++ bytesOf ": expression recursion level exceeded (error token is \""
      ++ text ++ ['"', ')'])
  | depth + 1, text => do
    let dialect := (← shell).dialect
    let refuse (fault : SumFault) : Acting Int :=
      match dialect with
      | .common => fail (fault.message text)
      | .rich => failWith 1 (fault.richMessage text)
    let keyOf (name index : Bytes) : Acting Bytes := do
      if (← variableOf name).keyed then return index
      else return integerText (← sumValue depth index)
    let names : Names Acting := {
      get := fun name index => do
        match dialect with
        | .common => numberIn ((← valueOf? name).getD [])
        | .rich =>
          let found ← if index.isEmpty then valueOf? name
            else do pure (entryOf? (← keyOf name index) (← variableOf name).listed)
          match found with
          | none => return 0
          | some bytes => sumValue depth bytes
      set := fun name index n => do
        if index.isEmpty then setValue name (integerText n)
        else setElement name (← keyOf name index) (integerText n)
      refuse }
    match Sum.read dialect text with
    | .error fault => refuse fault
    | .ok sum => sum.value names

/-- How deep sums may refer to others. -/
def sumDepth : Nat := 1023

/-- Does something in the name of a command, of which complaints tell. -/
def inNameOf {α : Type} (name : Bytes) (act : Acting α) : Acting α := do
  let before := (← shell).command
  changeShell fun s => { s with command := some name }
  let result ← attempt act
  changeShell fun s => { s with command := before }
  match result with
  | .ok found => return found
  | .error flow => throw flow

/-! ## Values -/

/-- What a value in a word is. -/
inductive Found where
  /-- A text, if there is one. -/
  | one (bytes : Option Bytes)
  /-- Texts, which are parted from each other. -/
  | many (texts : List Bytes)

/-- Texts as one, parted by the first separator. -/
def joined (texts : List Bytes) : Acting Bytes := do
  return joinWith ((← separators).take 1) texts

/-- The key of an element. -/
def keyOfIndex (name text : Bytes) : Acting Bytes := do
  let v ← variableOf name
  if v.keyed then return text
  let n ← match ← attempt (sumValue sumDepth text) with
    | .ok n => pure n
    | .error .fault => throw (if (← shell).origin.isEmpty then .fault else .leave)
    | .error flow => throw flow
  let n := if n < 0 then
      match v.listed.getLast? with
      | some (last, _) => n + 1 + ((natOf? last).getD 0 : Int)
      | none => n
    else n
  return integerText n

/-- What a name, or an element of an array, is. -/
def find (name index : Bytes) : Acting Found := do
  if name = ['@'] || name = ['*'] then return .many (← shell).args
  if index = ['@'] || index = ['*'] then
    return .many ((← variableOf name).listed.map (·.2))
  if index.isEmpty then return .one (← valueOf? name)
  let key ← keyOfIndex name index
  if key.head? = some '-' && !(← variableOf name).keyed then
    complain (name ++ bytesOf ": bad array subscript")
  return .one (entryOf? key (← variableOf name).listed)

/-- Texts that are parted from each other. -/
def manyChunks (mode : Mode) (starred : Bool) (texts : List Bytes) : Acting (List Chunk) := do
  if mode = .quoted && starred then return [.bytes (← joined texts) true false]
  else return (texts.map (valueChunk mode)).intersperse .boundary

/-- What is said of a name that is not set. -/
def unsetMessage (orNull : Bool) : Acting String := do
  if orNull then worded "parameter not set or null" "parameter null or not set"
  else return "parameter not set"

/-- A text with its letters changed that fit a pattern: all of them, or the first byte. -/
def cased (casing : Casing) (every : Bool) (pattern : List Wildcard) (bytes : Bytes) : Bytes :=
  let change (c : Char) : Char :=
    if pattern.isEmpty || Wildcard.fits pattern [c] then casing.change c else c
  if every then bytes.map change
  else match bytes with
    | c :: rest => change c :: rest
    | [] => []

/-- The part of a row from a place on, counted from its end if it is below zero, up to so many, or to
so many before its end; none if it ends before it starts. -/
def partFrom {α : Type} (items : List α) (start : Int) (count : Option Int) : Option (List α) :=
  let size : Int := items.length
  let first := if start < 0 then size + start else start
  if first < 0 || size < first then some []
  else
    let rest := items.drop first.toNat
    match count with
    | none => some rest
    | some n =>
      if 0 ≤ n then some (rest.take n.toNat)
      else if (rest.length : Int) + n < 0 then none
      else some (rest.take ((rest.length : Int) + n).toNat)

/-- The parts of a word nested in another one. -/
structure Inner where
  /-- What they stand for. -/
  chunks : Mode → Word → Acting (List Chunk)

/-- The bytes of a word in another one. -/
def Inner.text (inner : Inner) (word : Word) : Acting Bytes := do
  return bytesOfChunks (← inner.chunks .inner word)

/-- The bytes of a word in another one as if it were quoted. -/
def Inner.quotedText (inner : Inner) (word : Word) : Acting Bytes := do
  return bytesOfChunks (← inner.chunks .quoted word)

/-- How patterns are read. -/
def wildcardRules : Acting WildcardRules := do
  let s ← shell
  return { caret := s.dialect = .rich, groups := s.options.contains "extglob" }

/-- The pattern that a word in another one is. -/
def Inner.pattern (inner : Inner) (word : Word) : Acting (List Wildcard) := do
  return Wildcard.read (← wildcardRules) (marksOfChunks (← inner.chunks .plain word))

/-- What takes the place of a text: bytes, and the text itself. -/
def replacementOf : List Mark → List (Option Char)
  | ⟨'\\', false⟩ :: ⟨'&', false⟩ :: rest => some '&' :: replacementOf rest
  | ⟨'&', false⟩ :: rest => none :: replacementOf rest
  | mark :: rest => some mark.byte :: replacementOf rest
  | [] => []

/-- Changes a text, or each of the texts, of what was found. -/
def Found.map (f : Bytes → Bytes) : Found → Found
  | .one bytes => .one (bytes.map f)
  | .many texts => .many (texts.map f)

/-- What a value in a word stands for. -/
def foundChunks (mode : Mode) (starred : Bool) (found : Found) : Acting (List Chunk) := do
  match found with
  | .one bytes => return [valueChunk mode (bytes.getD [])]
  | .many texts => manyChunks mode starred texts

/-- A text in which no tilde at the start of a word is left that stands for a home. -/
def homeOf (bytes : Bytes) : Acting (Option (Bytes × Bytes)) := do
  match bytes with
  | '~' :: rest =>
    let user := rest.takeWhile (· ≠ '/')
    let home ← if user.isEmpty then valueOf? "HOME".toList
      else
        let people := splitAtByte '\n' (fileBytes (← get).world.disk ⟨"/etc/passwd"⟩)
        let entries := people.map (splitAtByte ':')
        pure ((entries.find? fun entry => entry.head? = some user).bind (·[5]?))
    return home.map fun home => (home, rest.drop user.length)
  | _ => return none

/-- A word with the home for the tilde at its start. -/
def withHome (word : Word) : Acting Word := do
  match word with
  | .text bytes :: rest =>
    let user := bytes.drop 1 |>.takeWhile (· ≠ '/')
    if !rest.isEmpty && user.length + 1 = bytes.length then return word
    match ← homeOf bytes with
    | some (home, after) => return .literal home :: .text after :: rest
    | none => return word
  | _ => return word

/-- Pieces of a text that gives a value, with homes for tildes after colons too. -/
def withHomes (bytes : Bytes) : Acting Word := do
  let pieces ← (splitAtByte ':' bytes).mapM fun piece => do
    match ← homeOf piece with
    | some (home, after) => return ([.literal home, .text after] : Word)
    | none => return [.text piece]
  return (pieces.intersperse [.text [':']]).flatten

/-- The value of an assignment with homes for tildes. -/
def valueWithHomes (word : Word) : Acting Word := do
  match word with
  | .text bytes :: rest => return (← withHomes bytes) ++ rest
  | _ => return word

/-- Refuses a value that is not set, if that is wanted. -/
def checkSet (name index : Bytes) (found : Found) : Acting Unit := do
  let isSet := match found with
    | .one bytes => bytes.isSome
    | .many _ => true
  if !isSet && (← isOn 'u') then
    match (← shell).dialect with
    | .common => failWith 2 (name ++ bytesOf ": parameter not set")
    | .rich =>
      let shown := if (natOf? name).isSome then '$' :: name
        else if index.isEmpty then name
        else name ++ '[' :: index ++ [']']
      failWith 127 (shown ++ bytesOf ": unbound variable")

/-- The name, with the text in brackets after it, that a name stands for. -/
def indirectName (name index : Bytes) (mayMiss : Bool) : Acting (Bytes × Bytes) := do
  let v ← storedVariable name
  if v.reference && index.isEmpty then return (v.value.getD [], [])
  match ← find name index with
  | .one (some text) =>
    let other := text.takeWhile (· ≠ '[')
    let special := match other with
      | [c] => isSpecialName c
      | _ => (natOf? other).isSome
    if other.length < text.length && isName other && text.getLast? = some ']' then
      return (other, (text.drop (other.length + 1)).dropLast)
    else if isName text || (special && other.length = text.length) then return (text, [])
    else failWith 1 (text ++ bytesOf ": invalid variable name")
  | _ =>
    if mayMiss then return ([], [])
    else failWith 1 (name ++ bytesOf ": invalid indirect expansion")

/-- The names with values that start with a name. -/
def namesLike (start : Bytes) : Acting (List Bytes) := do
  let s ← shell
  let computed := ["PIPESTATUS", "BASH_SUBSHELL", "BASHPID", "SECONDS", "LINENO", "DIRSTACK", "_", "BASHOPTS",
    "SHELLOPTS", "RANDOM", "BASH_LINENO", "FUNCNAME"].map bytesOf
  let stored := (s.vars.filter fun entry => entry.2.value.isSome || entry.2.given).map (·.1)
  let all := (stored ++ computed).filter start.isPrefixOf
  return (all.mergeSort bytesBefore).eraseDups

/-- A value in another way, which a letter tells; none if no way has it. -/
def shownAs? (letter : Char) (v : Variable) (name bytes : Bytes) : Option Bytes :=
  let quoted := if needsDollar bytes then dollarQuoted bytes else singleQuoted bytes
  match letter with
  | 'U' => some (bytes.map Casing.capital.change)
  | 'u' => some (cased .capital false [] bytes)
  | 'L' => some (bytes.map Casing.small.change)
  | 'Q' => some quoted
  | 'K' => some quoted
  | 'k' => some quoted
  | 'E' => some (unescape quoteEscapes bytes).1
  | 'P' => some bytes
  | 'A' => some (v.assigned name)
  | 'a' => some v.letters
  | _ => none

/-- What a value stands for that is shown in another way. -/
def shownChunks (mode : Mode) (starred : Bool) (name : Bytes) (letter : Char) (found : Found) :
    Acting (List Chunk) := do
  let v ← variableOf name
  let refuse : Acting (List Chunk) :=
    failWith 1 (bytesOf "$\x7b" ++ name ++ '@' :: letter :: bytesOf "\x7d: bad substitution")
  match found with
  | .one none => return [valueChunk mode (if letter = 'A' || letter = 'a' then
      ((shownAs? letter v name []).getD []) else [])]
  | .one (some bytes) =>
    match shownAs? letter v name bytes with
    | some shown => return [valueChunk mode shown]
    | none => refuse
  | .many texts =>
    let pairs := v.listed.map fun (key, bytes) => (Variable.keyShown key, elementShown bytes)
    match letter with
    | 'A' =>
      if isName name then return [valueChunk mode (v.assigned name)]
      else
        let all := bytesOf "set -- " ++ joinWith [' '] (texts.map singleQuoted)
        return [valueChunk mode all]
    | 'K' =>
      let text := joinWith [' '] (pairs.flatMap fun (key, bytes) => [key, bytes])
      return [valueChunk mode (if v.keyed then text ++ [' '] else text)]
    | 'k' => manyChunks mode starred (v.listed.flatMap fun (key, bytes) => [key, bytes])
    | _ =>
      match texts.mapM (shownAs? letter v name) with
      | some shown => manyChunks mode starred shown
      | none => refuse

/-- The part of what was found from a place on. -/
def sliceOf (name : Bytes) (first : Int) (size : Option Int) (found : Found) : Acting Found := do
  let refuse {α : Type} : Acting α :=
    failWith 1 (integerText (size.getD 0) ++ bytesOf ": substring expression < 0")
  let listed ← match found with
    | .many _ => do pure (← variableOf name).listed
    | .one _ => pure []
  match found with
  | .one bytes =>
    match partFrom (bytes.getD []) first size with
    | some part => return .one (some part)
    | none => refuse
  | .many texts =>
    if size.any (· < 0) then refuse
    if name = ['@'] || name = ['*'] then
      let texts := (← shell).name :: texts
      return .many ((partFrom texts first size).getD [])
    else
      let last : Int := match listed.getLast? with
        | some (key, _) => ((natOf? key).getD 0 : Nat)
        | none => 0
      let v ← variableOf name
      if v.keyed then return .many ((partFrom texts (if first < 0 then first else first - 1) size).getD [])
      let start := if first < 0 then last + 1 + first else first
      if start < 0 then return .many []
      let rest := listed.filter fun entry => start ≤ (((natOf? entry.1).getD 0 : Nat) : Int)
      return .many ((partFrom (rest.map (·.2)) 0 size).getD [])

/-- What a value in a word stands for. -/
def valueChunks (inner : Inner) (mode : Mode) (indirect : Bool) (name : Bytes) (index : Word)
    (action : Action) : Acting (List Chunk) := do
  let indexText ← inner.quotedText index
  let keys := indirect && (indexText = ['@'] || indexText = ['*'])
  let starred := name = ['*'] || indexText = ['*']
  let mayMiss := match action with
    | .otherwise _ _ => true
    | .instead _ _ => true
    | .names _ => true
    | _ => false
  let (name, indexText) ← match action with
    | .names _ => pure (name, indexText)
    | _ => if indirect && !keys then indirectName name indexText mayMiss else pure (name, indexText)
  let starred := starred || name = ['*'] || indexText = ['*']
  let found ← if keys then do pure (Found.many ((← variableOf name).listed.map (·.1)))
    else find name indexText
  let isSet := match found with
    | .one none => false
    | .one _ => true
    | .many texts => !texts.isEmpty
  let isEmpty := match found with
    | .one bytes => (bytes.getD []).isEmpty
    | .many texts => match texts with
      | [] => true
      | [only] => only.isEmpty
      | _ => false
  let missing (orEmpty : Bool) : Bool := !isSet || (orEmpty && isEmpty)
  let innerMode := if mode = .quoted then Mode.quoted else .inner
  match action with
  | .plain =>
    checkSet name indexText found
    foundChunks mode starred found
  | .length =>
    checkSet name indexText found
    match found with
    | .one bytes => return [valueChunk mode (digitsOf (bytes.getD []).length)]
    | .many texts =>
      let count ← match (← shell).dialect with
        | .common => do pure (← joined texts).length
        | .rich => pure texts.length
      return [valueChunk mode (digitsOf count)]
  | .unknown written =>
    match (← shell).dialect with
    | .common => fail "Bad substitution"
    | .rich => failWith 1 (written ++ bytesOf ": bad substitution")
  | .names _ => manyChunks mode starred (← namesLike name)
  | .shown letter =>
    checkSet name indexText found
    shownChunks mode starred name letter found
  | .otherwise orEmpty word =>
    if missing orEmpty then inner.chunks innerMode (← withHome word)
    else foundChunks mode starred found
  | .instead orEmpty word =>
    if missing orEmpty then return [valueChunk mode []]
    else inner.chunks innerMode (← withHome word)
  | .assign orEmpty word =>
    if missing orEmpty then
      if !isName name then
        match (← shell).dialect with
        | .common => failWith 2 (name ++ bytesOf ": bad variable name")
        | .rich => failWith 1 ('$' :: name ++ bytesOf ": cannot assign in this way")
      let bytes ← inner.text (← withHome word)
      if indexText.isEmpty then setValue name bytes
      else setElement name (← keyOfIndex name indexText) bytes
      return [valueChunk mode bytes]
    else foundChunks mode starred found
  | .demand orEmpty word =>
    if missing orEmpty then
      let text ← if word.isEmpty then do pure (bytesOf (← unsetMessage orEmpty))
        else inner.text word
      failWith (if (← shell).dialect = .rich then 127 else 2) (name ++ [':', ' '] ++ text)
    else foundChunks mode starred found
  | .trim atEnd longest pattern =>
    checkSet name indexText found
    let pattern ← inner.pattern pattern
    foundChunks mode starred (found.map (Wildcard.trimmed pattern atEnd longest))
  | .slice start count counted =>
    checkSet name indexText found
    let first ← inNameOf name do sumValue sumDepth (← inner.quotedText start)
    let size ← if counted then do
        pure (some (← inNameOf name do sumValue sumDepth (← inner.quotedText count)))
      else pure none
    foundChunks mode starred (← sliceOf name first size found)
  | .replace every place pattern word =>
    checkSet name indexText found
    let pattern ← inner.pattern pattern
    let marks := marksOfChunks (← inner.chunks .inner word)
    let pieces := if (← shell).options.contains "patsub_replacement" then replacementOf marks
      else marks.map fun mark => some mark.byte
    let other (fitting : Bytes) : Bytes := pieces.flatMap fun piece =>
      match piece with
      | some c => [c]
      | none => fitting
    let change (bytes : Bytes) : Bytes :=
      match place with
      | none => Wildcard.replaced pattern every other (bytes.length + 1) [] bytes
      | some atStart =>
        let kept := Wildcard.trimmed pattern (!atStart) true bytes
        let size := bytes.length - kept.length
        if size = 0 && !Wildcard.fits pattern [] then bytes
        else if atStart then other (bytes.take size) ++ kept
        else kept ++ other (bytes.drop kept.length)
    foundChunks mode starred (found.map change)
  | .casing casing every pattern =>
    checkSet name indexText found
    let pattern ← inner.pattern pattern
    foundChunks mode starred (found.map (cased casing every pattern))

/-- Whether a word is nothing but all arguments, or all elements. -/
def isAll : Part → Bool
  | .value _ ['@'] _ _ => true
  | .value _ _ [.text ['@']] _ => true
  | .value _ _ _ (.names starred) => !starred
  | _ => false

/-- What the parts of a word stand for, nested up to so deep. -/
def chunksOf (writer : Writer) : Nat → Mode → Word → Acting (List Chunk)
  | 0, _, _ => fail "nested too deep"
  | depth + 1, mode, word => do
    let inner : Inner := ⟨chunksOf writer depth⟩
    let found ← word.mapM fun part => do
      match part with
      | .text bytes => return [Chunk.bytes bytes (mode = .quoted) (mode = .inner)]
      | .literal bytes => return [.bytes bytes true false]
      | .quotes parts =>
        let chunks ← inner.chunks .quoted parts
        if chunks.isEmpty && !parts.isEmpty && parts.all isAll then return []
        else return .bytes [] true false :: chunks
      | .value indirect name index action =>
        valueChunks inner mode indirect name index action
      | .output command => return [valueChunk mode (← writer.output command)]
      | .channel written command => return [.bytes (← writer.channel written command) true false]
      | .sum parts =>
        let text ← inner.quotedText parts
        return [valueChunk mode (integerText (← sumValue sumDepth text))]
      | .elements _ => return []
    return found.flatten

/-- How deep words may be nested. -/
def wordDepth : Nat := 500

/-! ## Fields -/

/-- The fields so far. -/
structure Fields where
  /-- The fields that are done, the latest first. -/
  done : List (List Mark) := []
  /-- The field that was begun, the latest byte first. -/
  current : Option (List Mark) := none
  /-- Whether white space ended the last field. -/
  blankEnded : Bool := false

namespace Fields

/-- Ends the field that was begun. -/
def finish (f : Fields) : Fields :=
  match f.current with
  | some marks => { done := marks.reverse :: f.done }
  | none => { f with blankEnded := false }

/-- Adds a byte that may part fields. -/
def addByte (blanks others : Bytes) (f : Fields) (c : Char) : Fields :=
  if blanks.contains c then
    match f.current with
    | some marks => { done := marks.reverse :: f.done, blankEnded := true }
    | none => f
  else if others.contains c then
    match f.current with
    | some marks => { done := marks.reverse :: f.done }
    | none => if f.blankEnded then { f with blankEnded := false } else { done := [] :: f.done }
  else { f with current := some (⟨c, false⟩ :: f.current.getD []), blankEnded := false }

/-- Adds what a part of a word stands for. -/
def addChunk (blanks others : Bytes) (f : Fields) : Chunk → Fields
  | .boundary => f.finish
  | .bytes bytes quoted split =>
    if split then bytes.foldl (addByte blanks others) f
    else if bytes.isEmpty && !quoted then f
    else { f with
      current := some (bytes.foldl (fun marks c => ⟨c, quoted⟩ :: marks) (f.current.getD []))
      blankEnded := false }

/-- The fields. -/
def all (f : Fields) : List (List Mark) := f.finish.done.reverse

end Fields

/-- The fields of a word with their quotes. -/
def markedFields (writer : Writer) (word : Word) : Acting (List (List Mark)) := do
  let chunks ← chunksOf writer wordDepth .plain (← withHome word)
  let separators ← separators
  let blanks := separators.filter fun c => c = ' ' || c = '\t' || c = '\n'
  let others := separators.filter fun c => !blanks.contains c
  return (chunks.foldl (Fields.addChunk blanks others) {}).all

/-- A field with wildcards as the paths that fit, if there are some. -/
def pathsOrField (marks : List Mark) : Acting (List Bytes) := do
  if (← isOn 'f') then return [bytesOfMarks marks]
  let scene ← get
  let options := scene.shell.options
  let rules := { (← wildcardRules) with fold := options.contains "nocaseglob" }
  let pathRules : Wildcard.PathRules := {
    names := rules, dots := scene.shell.dialect = .common, hidden := options.contains "dotglob" }
  match Wildcard.paths pathRules scene.world.disk scene.shell.cwd marks with
  | [] =>
    if Wildcard.isActive rules.groups marks then
      if options.contains "failglob" then
        failWith 1 (bytesOf "no match: " ++ bytesOfMarks marks)
      if options.contains "nullglob" then return []
    return [bytesOfMarks marks]
  | paths => return paths

/-- The arguments that words stand for. -/
def fieldsOf (writer : Writer) (words : List Word) : Acting (List Bytes) := do
  let rich : Bool := (← shell).dialect = .rich
  let words := if rich then words.flatMap braced else words
  let found ← words.mapM fun word => do
    let fields ← markedFields writer word
    return (← fields.mapM pathsOrField).flatten
  return found.flatten

/-- The text that a word stands for. -/
def textOfWord (writer : Writer) (word : Word) : Acting Bytes := do
  return bytesOfChunks (← chunksOf writer wordDepth .plain (← withHome word))

/-- The pattern that a word is, with its quotes. -/
def marksOfWord (writer : Writer) (word : Word) : Acting (List Mark) := do
  return marksOfChunks (← chunksOf writer wordDepth .plain (← withHome word))

end FormatChain.Shell
