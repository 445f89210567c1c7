import FormatChain.Process.World

/-!
# Options of commands

Options stand among the other arguments; two dashes end them.  A short option is a letter after a
dash, several of which may share one dash.  A long option is a word after two dashes, of which as
much has to be given as tells it from the others.

* `OptionRules` : the options that a command knows.
* `OptionRules.readSoFar`, `OptionRules.read` : the options and the other arguments, or what is wrong with
  them.
-/

namespace FormatChain.Process

/-- Whether an option has a value. -/
inductive ValueRule where
  /-- It has none. -/
  | none
  /-- It has one, in the same argument or in the next one. -/
  | required
  /-- It may have one, in the same argument. -/
  | optional
  deriving Repr, DecidableEq

/-- An option that was given. -/
structure Given where
  /-- The letter that it is known by. -/
  letter : Char
  /-- Its value. -/
  value : Bytes := []
  deriving Repr, DecidableEq, Inhabited

/-- The options that a command knows. -/
structure OptionRules where
  /-- The letters, each with a colon after it if a value is required, with two if one is optional. -/
  letters : String
  /-- The words, each with the letter that it stands for. -/
  words : List (String × Char) := []
  /-- Whether the first other argument ends the options. -/
  first : Bool := false
  /-- Whether digits among the letters are an option, known by a number sign. -/
  digits : Bool := false

namespace OptionRules

/-- What is said of a letter. -/
def ruleIn (letter : Char) : Bytes → Option ValueRule
  | c :: ':' :: ':' :: rest => if c = letter then some .optional else ruleIn letter rest
  | c :: ':' :: rest => if c = letter then some .required else ruleIn letter rest
  | c :: rest => if c = letter then some .none else ruleIn letter rest
  | [] => none

/-- What is said of a letter. -/
def rule? (r : OptionRules) (letter : Char) : Option ValueRule :=
  if letter = ':' then none else ruleIn letter r.letters.toList

/-- The options in one argument of letters, the arguments after it, or what is wrong. -/
def readLetters (r : OptionRules) : Bytes → List Bytes → Except String (List Given × List Bytes)
  | [], rest => .ok ([], rest)
  | letter :: more, rest =>
    if r.digits && letter.isDigit then do
      let (others, rest) ← r.readLetters more rest
      match others with
      | ⟨'#', value⟩ :: others => return (⟨'#', letter :: value⟩ :: others, rest)
      | _ => return (⟨'#', [letter]⟩ :: others, rest)
    else match r.rule? letter with
    | none => .error s!"invalid option -- '{textOf [letter]}'"
    | some .none => do
      let (others, rest) ← readLetters r more rest
      return (⟨letter, []⟩ :: others, rest)
    | some .optional => .ok ([⟨letter, more⟩], rest)
    | some .required =>
      if more.isEmpty then
        match rest with
        | value :: rest => .ok ([⟨letter, value⟩], rest)
        | [] => .error s!"option requires an argument -- '{letter}'"
      else .ok ([⟨letter, more⟩], rest)

/-- The option of a word, the arguments after it, or what is wrong. -/
def readLongWord (r : OptionRules) (word : Bytes) (rest : List Bytes) :
    Except String (List Given × List Bytes) :=
  let name := word.takeWhile (· != '=')
  let value? := if name.length < word.length then some (word.drop (name.length + 1)) else none
  let known := r.words.filter fun entry => name.isPrefixOf entry.1.toList
  let exact := known.filter fun entry => entry.1.toList = name
  let candidates := if exact.isEmpty then known else exact
  let letters := candidates.map (·.2)
  match candidates with
  | [] => .error s!"unrecognized option '--{textOf word}'"
  | (full, letter) :: _ =>
    if letters.any (· != letter) then
      let all := String.join (candidates.map fun entry => s!" '--{entry.1}'")
      .error s!"option '--{textOf word}' is ambiguous; possibilities:{all}"
    else
      match r.rule? letter, value? with
      | some .required, some value => .ok ([⟨letter, value⟩], rest)
      | some .required, none =>
        match rest with
        | value :: rest => .ok ([⟨letter, value⟩], rest)
        | [] => .error s!"option '--{full}' requires an argument"
      | some .optional, value => .ok ([⟨letter, value.getD []⟩], rest)
      | _, some _ => .error s!"option '--{full}' doesn't allow an argument"
      | _, none => .ok ([⟨letter, []⟩], rest)

/-- The options up to the first fault, and the other arguments or the fault, in at most so many steps. -/
def readUpTo (r : OptionRules) : Nat → List Bytes → List Given × Except String (List Bytes)
  | 0, args => ([], .ok args)
  | _, [] => ([], .ok [])
  | steps + 1, arg :: rest =>
    let onward (step : Except String (List Given × List Bytes)) :=
      match step with
      | .error fault => ([], .error fault)
      | .ok (given, rest) =>
        let (others, operands) := r.readUpTo steps rest
        (given ++ others, operands)
    match arg with
    | ['-', '-'] => ([], .ok rest)
    | '-' :: '-' :: word => onward (r.readLongWord word rest)
    | '-' :: letter :: letters => onward (r.readLetters (letter :: letters) rest)
    | _ =>
      if r.first then ([], .ok (arg :: rest))
      else
        let (others, operands) := r.readUpTo steps rest
        (others, operands.map (arg :: ·))

/-- The options up to the first fault, and the other arguments or the fault. -/
def readSoFar (r : OptionRules) (args : List Bytes) : List Given × Except String (List Bytes) :=
  r.readUpTo (args.length + 1) args

/-- The options and the other arguments, or what is wrong with them. -/
def read (r : OptionRules) (args : List Bytes) : Except String (List Given × List Bytes) :=
  match r.readSoFar args with
  | (given, .ok operands) => .ok (given, operands)
  | (_, .error fault) => .error fault

end OptionRules

/-- Whether an option was given. -/
def has (given : List Given) (letter : Char) : Bool := given.any (·.letter == letter)

/-- The value of an option, the one given last. -/
def valueOf? (given : List Given) (letter : Char) : Option Bytes :=
  (given.reverse.find? (·.letter == letter)).map (·.value)

/-- The value of an option as a text, the one given last. -/
def shownValue (given : List Given) (letter : Char) : String :=
  textOf ((valueOf? given letter).getD [])

/-! ## Values of options -/

/-- What the value of an option stands for: the words for it, any start of which that is not the start of
others may stand for it, and what it means. -/
abbrev Choices (α : Type) := List (List String × α)

/-- The meaning of a value, or what is wrong with it. -/
def choose {α : Type} (choices : Choices α) (option : String) (value : Bytes) : Except String α :=
  let words := choices.zipIdx.flatMap fun ((words, meaning), i) => words.map fun word => (word, meaning, i)
  let exact := words.filter fun entry => entry.1.toList = value
  let known := if exact.isEmpty then words.filter fun entry => value.isPrefixOf entry.1.toList else exact
  match known with
  | (_, meaning, i) :: others =>
    if others.all fun entry => entry.2.2 = i then .ok meaning else .error (refusal "ambiguous")
  | [] => .error (refusal "invalid")
where
  /-- What is said of a value that is refused. -/
  refusal (what : String) : String :=
    let lines := choices.map fun (words, _) =>
      "\n  - " ++ String.intercalate ", " (words.map fun word => s!"'{word}'")
    s!"{what} argument {quoted value} for '{option}'\nValid arguments are:" ++ String.join lines

/-- Goes on with the options and the other arguments, or complains and ends with a number. -/
def Job.withOptions (j : Job) (wrong : Nat) (r : OptionRules)
    (go : List Given → List Bytes → Running ExitStatus) : Running ExitStatus :=
  match r.read j.args with
  | .ok (given, operands) => go given operands
  | .error fault => j.misused wrong fault

end FormatChain.Process
