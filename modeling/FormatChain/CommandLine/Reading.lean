import FormatChain.CommandLine.Spec

/-!
# Reading arguments

Arguments are read against what the command line may say. A name that is not known is answered
with a similar one that is.

* `similarity` : a number from zero to one.
* `similarNames` : the names that are similar to a word, the most similar one last.
* `Complaint`, `Complaint.message` : what is wrong with a command line, or what it asks to be shown
  instead of being done.
* `Reading` : the arguments found so far.
* `Reading.read` : reading the words of a subcommand.
-/

/-!
## Similar names

How similar two names are is measured by the characters that they share at about the same place, and
by how many of those stand in another order.
-/

namespace FormatChain.CommandLine

/-- Takes the first place, from an index on, of a character that is not taken yet; the flags tell
which places are taken. -/
def takePlace (c : Char) (low high : Nat) : Nat → List Char → List Bool → Option (List Bool)
  | index, d :: rest, taken :: flags =>
    if high ≤ index then none
    else if low ≤ index && c = d && !taken then some (true :: flags)
    else (takePlace c low high (index + 1) rest flags).map (taken :: ·)
  | _, _, _ => none

/-- The characters that have a place in the other name, in order, and the places taken there. -/
def sharedWith (range : Nat) (other : List Char) :
    Nat → List Char → List Bool → List Char × List Bool
  | _, [], flags => ([], flags)
  | index, c :: rest, flags =>
    match takePlace c (index - range) (index + range + 1) 0 other flags with
    | some flags =>
      let (shared, flags) := sharedWith range other (index + 1) rest flags
      (c :: shared, flags)
    | none => sharedWith range other (index + 1) rest flags

/-- The characters whose places are taken. -/
def takenChars (other : List Char) (flags : List Bool) : List Char :=
  ((other.zip flags).filter (·.2)).map (·.1)

/-- How similar two names are. -/
def similarity (a b : String) : Float :=
  let as := a.toList
  let bs := b.toList
  if as.isEmpty && bs.isEmpty then 1
  else
    let range := max as.length bs.length / 2 - 1
    let (shared, flags) := sharedWith range bs 0 as (bs.map fun _ => false)
    let matching := shared.length
    let moved := ((shared.zip (takenChars bs flags)).filter fun (c, d) => c != d).length / 2
    if matching = 0 then 0
    else
      (Float.ofNat matching / Float.ofNat as.length + Float.ofNat matching / Float.ofNat bs.length
        + Float.ofNat (matching - moved) / Float.ofNat matching) / 3

/-- Puts a name after those that are not more similar. -/
def insertSimilar (score : Float) (name : String) :
    List (Float × String) → List (Float × String)
  | [] => [(score, name)]
  | first :: rest =>
    if first.1 > score then (score, name) :: first :: rest
    else first :: insertSimilar score name rest

/-- The names that are similar to a word, the most similar one last. -/
def similarNames (word : String) (names : List String) : List String :=
  (names.foldl
    (fun found name =>
      let score := similarity word name
      if score > 0.7 then insertSimilar score name found else found) []).map (·.2)

end FormatChain.CommandLine

/-!
## Reading arguments

The words of a command line are read one after the other.  A word that starts with dashes is an
option, unless two dashes alone stood before it; the value of an option is attached to it or is the
next word; any other word is a subcommand or an argument by its place.
-/

namespace FormatChain.CommandLine

open FormatChain.Text

/-! ### Complaints -/

/-- An option that a word may have meant. -/
structure Alternative where
  /-- The option, with its dashes. -/
  option : String
  /-- The subcommand that has it, if it is not the one at hand. -/
  subcommand : Option String
  deriving Repr, DecidableEq

/-- What is wrong with a command line, or what it asks to be shown. -/
inductive Complaint where
  /-- An option has no value. -/
  | valueMissing (option : Argument)
  /-- An option stands twice. -/
  | repeated (option : Argument)
  /-- An option that has no value is given one; other options were found. -/
  | valueNotTaken (value : String) (option : Argument) (used : List String)
  /-- A word is no argument; it may have meant an option, or may be meant as a value. -/
  | unexpected (word : String) (alternative : Option Alternative) (asValue : Bool)
    (used : List String)
  /-- A word is no subcommand, but similar to some. -/
  | noSubcommand (word : String) (similar : List String)
  /-- A subcommand stands after two dashes. -/
  | afterDashes (word : String)
  /-- Arguments are missing; others were found. -/
  | argumentsMissing (missing : List Argument) (used : List String)
  /-- There is no subcommand. -/
  | subcommandMissing
  /-- Help is asked for, at length or in short. -/
  | helpAsked (long : Bool)
  /-- The version is asked for. -/
  | versionAsked
  deriving Repr, DecidableEq

namespace Complaint

/-- Words on what could be done, each on a line. -/
def tips (lines : List String) : String :=
  if lines.isEmpty then "" else "\n\n" ++ joined "\n" (lines.map ("  tip: " ++ ·))

/-- Words on similar subcommands. -/
def similarTip : List String → List String
  | [] => []
  | [name] => [s!"a similar subcommand exists: '{name}'"]
  | names => ["some similar subcommands exist: " ++ joined ", " (names.map fun n => s!"'{n}'")]

/-- Words on an option that may have been meant. -/
def alternativeTip : Option Alternative → List String
  | none => []
  | some ⟨option, none⟩ => [s!"a similar argument exists: '{option}'"]
  | some ⟨option, some name⟩ => [s!"'{name} {option}' exists"]

/-- What follows every complaint of a subcommand that help can be asked of. -/
def closing (c : Subcommand) : String :=
  if c.options.isEmpty then "\n" else "\n\nFor more information, try '--help'.\n"

/-- A complaint with the way in which a subcommand is used. -/
def withUsage (c : Subcommand) (words : String) (used : List String) : String :=
  "error: " ++ words ++ "\n\nUsage: " ++ c.usage used ++ closing c

/-- The wording of a complaint about the words for a subcommand. -/
def message (c : Subcommand) : Complaint → String
  | .valueMissing option =>
    s!"error: a value is required for '{option.shown}' but none was supplied" ++ closing c
  | .repeated option =>
    withUsage c s!"the argument '{option.shown}' cannot be used multiple times" []
  | .valueNotTaken value option used =>
    withUsage c
      s!"unexpected value '{value}' for '{option.shown}' found; no more were expected"
      (used ++ [option.id])
  | .unexpected word alternative asValue used =>
    let asValueTip := if asValue then [s!"to pass '{word}' as a value, use '-- {word}'"] else []
    let lines :=
      match alternative with
      | some ⟨_, none⟩ => alternativeTip alternative ++ asValueTip
      | _ => asValueTip ++ alternativeTip alternative
    withUsage c (s!"unexpected argument '{word}' found" ++ tips lines) used
  | .noSubcommand word similar =>
    withUsage c (s!"unrecognized subcommand '{word}'" ++ tips (similarTip similar)) []
  | .afterDashes word =>
    withUsage c (s!"unexpected argument '{word}' found"
      ++ tips [s!"subcommand '{word}' exists; to use it, remove the '--' before it"]) []
  | .argumentsMissing missing used =>
    withUsage c ("the following required arguments were not provided:"
      ++ String.join (missing.map fun a => "\n  " ++ a.shown)) used
  | .subcommandMissing =>
    withUsage c (s!"'{c.name}' requires a subcommand but one was not provided\n"
      ++ "  [subcommands: " ++ joined ", " c.inner ++ "]") []
  | .helpAsked long => if c.inner.isEmpty then c.helpText long else fullHelp
  | .versionAsked => s!"{Settings.programName} {Settings.programVersion}\n"

end Complaint

/-! ### Arguments found -/

/-- The arguments found so far. -/
structure Reading where
  /-- The ids of the arguments with their values, in the order in which they were found. -/
  found : List (String × String) := []
  /-- The argument that was met last, with its value if there was one; it counts as found only when
  the next one is met. -/
  pending : Option (Argument × Option String) := none
  /-- Whether the next word is the value of the pending option. -/
  awaiting : Bool := false
  /-- The number of arguments by place. -/
  placed : Nat := 0
  /-- Whether two dashes alone were met. -/
  afterDashes : Bool := false

/-- How the words of a subcommand end. -/
inductive Ending where
  /-- All were read. -/
  | done (reading : Reading)
  /-- A subcommand has these words. -/
  | subcommand (name : String) (rest : List String) (reading : Reading)

/-- What a word is, by its dashes. -/
inductive WordKind where
  /-- Two dashes alone. -/
  | dashes
  /-- A long option, and what is attached to it. -/
  | long (name : String) (value : Option String)
  /-- Letters of options. -/
  | short (letters : List Char)
  /-- Anything else. -/
  | plain
  deriving Repr, DecidableEq

/-- What a word is. -/
def wordKind (word : String) : WordKind :=
  match word.toList with
  | '-' :: '-' :: [] => .dashes
  | '-' :: '-' :: rest =>
    match cutAtFirst '=' rest with
    | some (name, value) => .long (String.ofList name) (some (String.ofList value))
    | none => .long (String.ofList rest) none
  | '-' :: c :: rest => .short (c :: rest)
  | _ => .plain

namespace Reading

/-- The value of an argument. -/
def value? (r : Reading) (id : String) : Option String :=
  (r.found.find? fun entry => entry.1 == id).map (·.2)

/-- Whether an argument was found. -/
def has (r : Reading) (id : String) : Bool := (r.value? id).isSome

/-- Adds an argument with its value. -/
def add (r : Reading) (a : Argument) (value : String) : Except Complaint Reading :=
  if r.has a.id then .error (.repeated a)
  else .ok { r with found := r.found ++ [(a.id, value)] }

/-- Lets the pending argument count as found. -/
def settle (r : Reading) : Except Complaint Reading :=
  match r.pending with
  | none => .ok r
  | some (a, none) => .error (.valueMissing a)
  | some (a, some value) => { r with pending := none }.add a value

/-- Lets the pending argument count as found where nothing is made of a complaint about it. An option
that stands twice does not count as found then. -/
def settled (r : Reading) : Reading :=
  match r.settle with
  | .ok r => r
  | .error (.repeated a) => { r with found := r.found.filter fun entry => entry.1 != a.id }
  | .error _ => r

/-- The arguments found. -/
def used (r : Reading) : List String := r.found.map (·.1)

/-- The arguments found that need not be there. -/
def usedOptional (r : Reading) (c : Subcommand) : List String :=
  r.used.filter fun id => !(c.argument? id).any (·.required)

/-- The complaint about a long option that is not known. -/
def unknownLong (r : Reading) (c : Subcommand) (name : String) (rest : List String) :
    Complaint :=
  let r := r.settled
  let longs (c : Subcommand) := c.options.filterMap (·.long)
  let asValue := !c.positionals.isEmpty
  match (similarNames name (longs c)).getLast? with
  | some similar =>
    let added := match (c.longOption? similar).map (·.id) with
      | some id => if r.has id then [] else [(id, "")]
      | none => []
    let used := { r with found := r.found ++ added }.used
    .unexpected ("--" ++ name) (some ⟨"--" ++ similar, none⟩) false used
  | none =>
    let known := c.inner.filterMap subcommand?
    let elsewhere := known.filterMap fun other => do
      let similar ← (similarNames name (longs other)).getLast?
      let place ← rest.findIdx? (· == other.name)
      return (place, other.name, similar)
    let first := elsewhere.foldl
      (fun best entry =>
        match best with
        | none => some entry
        | some chosen => if entry.1 < chosen.1 then some entry else best) none
    match first with
    | some (_, other, similar) =>
      .unexpected ("--" ++ name) (some ⟨"--" ++ similar, some other⟩) false r.used
    | none => .unexpected ("--" ++ name) none asValue r.used

/-- Meets an option without a value. -/
def meet (r : Reading) (a : Argument) (long : Bool) : Except Complaint Reading := do
  let r ← r.settle
  match a.purpose with
  | .help => throw (.helpAsked long)
  | .version => throw .versionAsked
  | _ => add { r with awaiting := false } a "true"

/-- Reads a long option. -/
def readLong (r : Reading) (c : Subcommand) (name : String) (value : Option String)
    (rest : List String) : Except Complaint Reading :=
  match c.longOption? name with
  | none => .error (r.unknownLong c name rest)
  | some a =>
    match a.purpose, value with
    | .value, some value => do
      let r ← r.settle
      add { r with awaiting := false } a value
    | .value, none => do
      let r ← r.settle
      return { r with pending := some (a, none), awaiting := true }
    | _, some value => .error (.valueNotTaken value a (r.usedOptional c))
    | _, none => r.meet a true

/-- Reads the letters of options. None of them has a value. -/
def readLetters (r : Reading) (c : Subcommand) : List Char → Except Complaint Reading
  | [] => .ok r
  | letter :: rest =>
    match c.shortOption? letter with
    | some a => do (← r.meet a false).readLetters c rest
    | none =>
      .error (.unexpected s!"-{letter}" none (!c.positionals.isEmpty) [])

/-- The complaint about a word that has no place. -/
def noPlace (r : Reading) (c : Subcommand) (word : String) : Complaint :=
  let looksLikeOption := match wordKind word with
    | .long _ _ => true
    | .short _ => true
    | _ => false
  let asValue := !r.afterDashes && !c.positionals.isEmpty && looksLikeOption
  if c.inner.isEmpty then .unexpected word none asValue []
  else if r.afterDashes && c.inner.contains word then .afterDashes word
  else .noSubcommand word (similarNames word c.inner)

/-- Reads an argument by its place. -/
def readPlaced (r : Reading) (c : Subcommand) (word : String) : Except Complaint Reading :=
  match c.positionals[r.placed]? with
  | none => .error (r.noPlace c word)
  | some a => do
    let r ← r.settle
    return { r with pending := some (a, some word), placed := r.placed + 1, awaiting := false }

/-- Reads the words of a subcommand, or of the program. -/
def read (c : Subcommand) (r : Reading) : List String → Except Complaint Ending
  | [] => .ok (.done r)
  | word :: rest =>
    if r.afterDashes then do read c (← r.readPlaced c word) rest
    else if !r.awaiting && c.inner.contains word then .ok (.subcommand word rest r)
    else
      match wordKind word with
      | .dashes => read c { r with afterDashes := true } rest
      | .long name value => do read c (← r.readLong c name value rest) rest
      | .short letters => do read c (← r.readLetters c letters) rest
      | .plain =>
        match r.awaiting, r.pending with
        | true, some (a, _) =>
          read c { r with pending := some (a, some word), awaiting := false } rest
        | _, _ => do read c (← r.readPlaced c word) rest

/-- Finds out whether all arguments that must be there were found, after the words ended. -/
def finish (r : Reading) (c : Subcommand) : Except Complaint Reading := do
  let r ← r.settle
  let missing := c.arguments.filter fun a => a.required && !r.has a.id
  if missing.isEmpty then return r
  else throw (.argumentsMissing missing (r.used ++ missing.map (·.id)))

end Reading

end FormatChain.CommandLine
