import FormatChain.Regex.Search

/-!
# Written patterns

Patterns are written in two ways.  In the basic one, parentheses, braces and bars have a meaning
after a backslash; in the extended one they have it without.  Commands differ in what they make of a
repetition of nothing and of braces that repeat nothing.

* `RegexRules` : the way of writing, and what a command makes of odd patterns.
* `RegexFault` : what is wrong with a written pattern.
* `Pattern.read` : the pattern that bytes write.
-/

namespace FormatChain

/-- The way of writing patterns. -/
structure RegexRules where
  /-- Whether it is the extended one. -/
  extended : Bool := false
  /-- Whether capital and small letters are the same. -/
  fold : Bool := false
  /-- The byte that ends lines inside the text, if one does; no other part than itself fits it then. -/
  lineMark : Option Char := none
  /-- Whether a repetition of nothing is refused. -/
  strictRepeats : Bool := false
  /-- Whether a brace that starts no count stands for itself. -/
  looseBraces : Bool := false
  /-- Whether a parenthesis that closes nothing stands for itself. -/
  looseClosing : Bool := false
  deriving Inhabited

/-- What is wrong with a written pattern. -/
inductive RegexFault where
  /-- A set has no end. -/
  | openSet
  /-- A set has not even begun. -/
  | noSet
  /-- A group has no end. -/
  | openGroup
  /-- A group is closed that was not opened. -/
  | closedGroup
  /-- A count has no end. -/
  | openCount
  /-- A count is no count. -/
  | badCount
  /-- A count is too great. -/
  | tooBig
  /-- A range ends before it starts. -/
  | badRange
  /-- No set has the name. -/
  | unknownSet
  /-- No byte has the name. -/
  | unknownByte
  /-- A backslash ends the pattern. -/
  | trailingBackslash
  /-- A group is asked for that is not there. -/
  | badReference
  /-- Nothing is there to be repeated. -/
  | nothingRepeated
  deriving Repr, DecidableEq

/-- The wording of what is wrong. -/
def RegexFault.message : RegexFault → String
  | .openSet => "Unmatched [, [^, [:, [., or [="
  | .noSet => "Invalid regular expression"
  | .openGroup => "Unmatched ( or \\("
  | .closedGroup => "Unmatched ) or \\)"
  | .openCount => "Unmatched \\\x7b"
  | .badCount => "Invalid content of \\\x7b\\\x7d"
  | .tooBig => "Regular expression too big"
  | .badRange => "Invalid range end"
  | .unknownSet => "Invalid character class name"
  | .unknownByte => "Invalid collation character"
  | .trailingBackslash => "Trailing backslash"
  | .badReference => "Invalid back reference"
  | .nothingRepeated => "Invalid preceding regular expression"

/-- What is left of a written pattern, and how many groups were begun and ended. -/
structure RegexReader where
  /-- The bytes that are left. -/
  rest : List Char
  /-- The number of groups that were begun. -/
  begun : Nat := 0
  /-- The groups that were ended. -/
  ended : List Nat := []
  /-- How many groups are open. -/
  depth : Nat := 0

/-- Reading a pattern. -/
abbrev ReadingRegex := StateT RegexReader (Except RegexFault)

namespace RegexReader

/-! ## Sets -/

/-- A member of a set. -/
inductive SetMember where
  /-- A byte, which may begin or end a range. -/
  | byte (c : Char)
  /-- A byte given by its name, which may begin or end a range. -/
  | named (name : List Char)
  /-- All bytes that are the same as a named one. -/
  | alike (name : List Char)
  /-- The set of a name. -/
  | kind (name : List Char)

/-- The name up to a mark and a closing bracket, at most so long, and the rest. -/
def nameUpTo (mark : Char) : Nat → List Char → List Char → Except RegexFault (List Char × List Char)
  | most + 1, done, c :: d :: rest =>
    if c = mark && d = ']' then .ok (done.reverse, rest)
    else nameUpTo mark most (c :: done) (d :: rest)
  | _, _, _ => .error .openSet

/-- How long the name of a set may be. -/
def nameLimit : Nat := 32

/-- A hyphen of which there are three counts once. -/
def singleHyphen (text : List Char) : List Char :=
  match text with
  | '-' :: '-' :: '-' :: _ => text.drop 2
  | _ => text

/-- The member of a set at the start, and the rest. -/
def readMember (text : List Char) : Except RegexFault (SetMember × List Char) :=
  match text with
  | '[' :: '.' :: rest => do
    let (name, rest) ← nameUpTo '.' nameLimit [] rest
    return (.named name, rest)
  | '[' :: '=' :: rest => do
    let (name, rest) ← nameUpTo '=' nameLimit [] rest
    return (.alike name, rest)
  | '[' :: ':' :: rest => do
    let (name, rest) ← nameUpTo ':' nameLimit [] rest
    return (.kind name, rest)
  | c :: rest => .ok (.byte c, rest)
  | [] => .error .openSet

/-- The byte that begins or ends a range. -/
def SetMember.bound : SetMember → Except RegexFault Char
  | .byte c => .ok c
  | .named [c] => .ok c
  | .named _ => .error .unknownByte
  | .alike _ => .error .badRange
  | .kind _ => .error .badRange

/-- The bytes of a member that is no part of a range. -/
def SetMember.ranges : SetMember → Except RegexFault (List ByteRange)
  | .byte c => .ok [⟨c, c⟩]
  | .named [c] => .ok [⟨c, c⟩]
  | .alike [c] => .ok [⟨c, c⟩]
  | .named _ => .error .unknownByte
  | .alike _ => .error .unknownByte
  | .kind name =>
    match Regex.nameSet? (String.ofList name) with
    | some ranges => .ok ranges
    | none => .error .unknownSet

/-- Whether a range may begin with a member. -/
def SetMember.mayBegin : SetMember → Bool
  | .byte _ => true
  | .named _ => true
  | _ => false

/-- The ranges of a set up to its end, and the rest, in at most so many steps. A hyphen that begins or
ends no range has to be the first member or the last one. -/
def members (first : Bool) (found : List ByteRange) :
    Nat → List Char → Except RegexFault (List ByteRange × List Char)
  | 0, _ => .error .openSet
  | steps + 1, text => do
    let reduced := singleHyphen text
    if reduced.length = text.length && text.head? = some '-' && !first && text[1]? != some ']' then
      throw .badRange
    let (low, rest) ← readMember reduced
    let (ranges, rest) ← match rest with
      | [] => throw .openSet
      | '-' :: after =>
        if !low.mayBegin || (singleHyphen rest).length < rest.length then pure (← low.ranges, rest)
        else
          match after with
          | [] => throw .openSet
          | ']' :: _ => pure (← low.ranges, rest)
          | _ =>
            let (high, rest) ← readMember (singleHyphen after)
            let low ← low.bound
            let high ← high.bound
            if high < low then throw .badRange
            else pure ([⟨low, high⟩], rest)
      | _ => pure (← low.ranges, rest)
    match rest with
    | ']' :: rest => return (found ++ ranges, rest)
    | _ => members false (found ++ ranges) steps rest

/-- The bytes that nothing but themselves fits. -/
def lineEnds (rules : RegexRules) : List ByteRange :=
  match rules.lineMark with
  | some mark => [⟨'\n', '\n'⟩, ⟨mark, mark⟩]
  | none => []

/-- The set after an opening bracket. -/
def readSet (rules : RegexRules) (text : List Char) : Except RegexFault (Regex × List Char) :=
  match text with
  | [] => .error .noSet
  | ['^'] => .error .noSet
  | '^' :: rest => do
    let (ranges, rest) ← members true [] (rest.length + 1) rest
    return (.oneOf (lineEnds rules ++ ranges) false, rest)
  | _ => do
    let (ranges, rest) ← members true [] (text.length + 1) text
    return (.oneOf ranges true, rest)

/-! ## Repetitions -/

/-- How often something is repeated. -/
abbrev Count := Nat × Option Nat

/-- The greatest count. -/
def countLimit : Nat := 32767

/-- The number that digits make up; none if there is anything else. -/
def numberOf? (digits : List Char) : Option Nat :=
  if digits.all Char.isDigit then some (digits.foldl (fun n c => 10 * n + (c.toNat - 48)) 0)
  else none

/-- The bytes of a count up to its end, and the rest, in at most so many steps. -/
def countText (rules : RegexRules) : Nat → List Char → Option (List Char × List Char)
  | 0, _ => none
  | steps + 1, text =>
    match text, rules.extended with
    | [], _ => none
    | '\x7d' :: rest, true => some ([], rest)
    | '\\' :: '\x7d' :: rest, false => some ([], rest)
    | c :: rest, _ => (countText rules steps rest).map fun (found, rest) => (c :: found, rest)

/-- The count after an opening brace, and the rest, or what is wrong with it. -/
def readCount (rules : RegexRules) (text : List Char) : Except RegexFault (Count × List Char) :=
  match countText rules (text.length + 1) text with
  | none => .error .openCount
  | some (found, rest) =>
    let low := found.takeWhile (· != ',')
    match found.drop low.length with
    | [] =>
      match numberOf? low with
      | some n =>
        if low.isEmpty then .error .badCount
        else if n ≤ countLimit then .ok ((n, some n), rest)
        else .error .tooBig
      | none => .error .badCount
    | _ :: high =>
      match numberOf? low, numberOf? high with
      | some n, some m =>
        if high.isEmpty then
          if n ≤ countLimit then .ok ((n, none), rest) else .error .tooBig
        else if m < n then .error .badCount
        else if m ≤ countLimit then .ok ((n, some m), rest)
        else .error .tooBig
      | _, _ => .error .badCount

/-- Whether what follows an opening brace is written like a count, its end included. -/
def isCount (rules : RegexRules) (text : List Char) : Bool :=
  match readCount rules text with
  | .ok _ => true
  | .error .tooBig => true
  | .error _ => false

/-- The repetition at the start, and the rest, if there is one. -/
def readRepeat? (rules : RegexRules) (text : List Char) :
    Except RegexFault (Option (Count × List Char)) :=
  match text, rules.extended with
  | '*' :: rest, _ => .ok (some ((0, none), rest))
  | '+' :: rest, true => .ok (some ((1, none), rest))
  | '?' :: rest, true => .ok (some ((0, some 1), rest))
  | '\\' :: '+' :: rest, false => .ok (some ((1, none), rest))
  | '\\' :: '?' :: rest, false => .ok (some ((0, some 1), rest))
  | '\x7b' :: rest, true =>
    if rules.looseBraces && !isCount rules rest then .ok none
    else (readCount rules rest).map some
  | '\\' :: '\x7b' :: rest, false => (readCount rules rest).map some
  | _, _ => .ok none

/-- Whether a star or a count begins a text. -/
def startsCount (text : List Char) : Bool :=
  match text with
  | '*' :: _ => true
  | '\\' :: '\x7b' :: _ => true
  | _ => false

/-- The pattern with the repetitions that follow it, in at most so many steps. -/
def repeats (rules : RegexRules) (r : Regex) : Nat → ReadingRegex Regex
  | 0 => return r
  | steps + 1 => do
    match ← liftM (readRepeat? rules (← get).rest) with
    | none => return r
    | some ((least, most), rest) =>
      modify fun s => { s with rest }
      if rules.strictRepeats && !rules.extended && startsCount rest then throw .nothingRepeated
      repeats rules (.repeated r least most) steps

/-! ## Patterns -/

/-- What a letter after a backslash means in both ways of writing, if it means something. -/
def letterMeaning? (c : Char) : Option Regex :=
  match c with
  | 'w' => some (.oneOf Regex.wordSet true)
  | 'W' => some (.oneOf Regex.wordSet false)
  | 's' => some (.oneOf Regex.spaceSet true)
  | 'S' => some (.oneOf Regex.spaceSet false)
  | 'b' => some (.edge .wordEdge)
  | 'B' => some (.edge .noWordEdge)
  | '<' => some (.edge .wordStart)
  | '>' => some (.edge .wordEnd)
  | '\x60' => some (.edge .textStart)
  | '\'' => some (.edge .textEnd)
  | _ => none

/-- Whether a bar, the end of a group or the end of everything is next. -/
def atEnd (rules : RegexRules) (s : RegexReader) : Bool :=
  match s.rest, rules.extended with
  | [], _ => true
  | '|' :: _, true => true
  | ')' :: _, true => s.depth > 0 || !rules.looseClosing
  | '\\' :: '|' :: _, false => true
  | '\\' :: ')' :: _, false => true
  | _, _ => false

/-- Whether a dollar sign at this place stands for the end of a line. -/
def dollarEnds (rules : RegexRules) (rest : List Char) : Bool :=
  rules.extended || match rest with
    | [] => true
    | '\\' :: ')' :: _ => true
    | '\\' :: '|' :: _ => true
    | _ => false

/-- Takes the bytes before the rest away. -/
def advance (rest : List Char) : ReadingRegex Unit := modify fun s => { s with rest }

/-- The group that was just opened, given how patterns are read. -/
def readGroup (rules : RegexRules) (inside : ReadingRegex Regex) (rest : List Char) :
    ReadingRegex Regex := do
  let n := (← get).begun + 1
  modify fun s => { s with rest, begun := n, depth := s.depth + 1 }
  let r ← inside
  match (← get).rest, rules.extended with
  | ')' :: rest, true => close n r rest
  | '\\' :: ')' :: rest, false => close n r rest
  | _, _ => throw .openGroup
where
  /-- Ends a group. -/
  close (n : Nat) (r : Regex) (rest : List Char) : ReadingRegex Regex := do
    modify fun s => { s with rest, ended := n :: s.ended, depth := s.depth - 1 }
    return .group n r

/-- A repetition of nothing, which is refused, or taken for nothing; a brace that starts no count stands
for itself. -/
def readIdleRepeat (rules : RegexRules) : ReadingRegex Regex := do
  if rules.strictRepeats then throw .nothingRepeated
  let rest := (← get).rest
  match ← liftM (readRepeat? rules rest) with
  | some (_, rest) =>
    advance rest
    return .empty
  | none =>
    advance (rest.drop 1)
    return .byte '\x7b'

/-- One pattern without the repetitions after it; `first` if nothing of its branch stands before. -/
def readAtom (rules : RegexRules) (inside : ReadingRegex Regex) (first : Bool) :
    ReadingRegex Regex := do
  let s ← get
  match s.rest with
  | [] => return .empty
  | '[' :: rest =>
    let (r, rest) ← liftM (readSet rules rest)
    advance rest
    return r
  | '.' :: rest =>
    advance rest
    return if rules.lineMark.isSome then .oneOf (lineEnds rules) false else .any
  | '^' :: rest =>
    advance rest
    return if rules.extended || first then .edge .lineStart else .byte '^'
  | '$' :: rest =>
    advance rest
    return if dollarEnds rules rest then .edge .lineEnd else .byte '$'
  | ['\\'] => throw .trailingBackslash
  | '\\' :: c :: rest =>
    if !rules.extended && c = '(' then readGroup rules inside rest
    else if !rules.extended && c = '\x7b' then
      if rules.strictRepeats then throw .nothingRepeated
      else
        advance rest
        return .byte c
    else
      advance rest
      if c.isDigit && c != '0' then
        let n := c.toNat - 48
        if s.ended.contains n then return .again n else throw .badReference
      else return (letterMeaning? c).getD (.byte c)
  | c :: rest =>
    if rules.extended && c = '(' then readGroup rules inside rest
    else if rules.extended && (c = '*' || c = '+' || c = '?' || c = '\x7b') then
      readIdleRepeat rules
    else
      advance rest
      return .byte c

/-- Whether a pattern is a place. -/
def isEdge : Regex → Bool
  | .edge _ => true
  | _ => false

/-- Patterns one after the other up to a bar or an end, in at most so many steps. A place is not
repeated: what follows it is read as at the start of a branch. -/
def readBranch (rules : RegexRules) (inside : ReadingRegex Regex) (first : Bool)
    (done : List Regex) : Nat → ReadingRegex Regex
  | 0 => return Regex.sequence done.reverse
  | steps + 1 => do
    let s ← get
    if s.atEnd rules then return Regex.sequence done.reverse
    else
      let atom ← readAtom rules inside first
      if isEdge atom then readBranch rules inside true (atom :: done) steps
      else
        let r ← repeats rules atom s.rest.length
        readBranch rules inside false (r :: done) steps

/-- Branches with bars between them up to an end, in at most so many steps. -/
def readBranches (rules : RegexRules) (inside : ReadingRegex Regex) : Nat → ReadingRegex Regex
  | 0 => return .empty
  | steps + 1 => do
    let branch ← readBranch rules inside true [] ((← get).rest.length + 1)
    match (← get).rest, rules.extended with
    | '|' :: rest, true =>
      advance rest
      return .either branch (← readBranches rules inside steps)
    | '\\' :: '|' :: rest, false =>
      advance rest
      return .either branch (← readBranches rules inside steps)
    | _, _ => return branch

/-- A pattern up to an end, with groups nested up to so deep. -/
def readPattern (rules : RegexRules) : Nat → ReadingRegex Regex
  | 0 => return .empty
  | depth + 1 => do
    readBranches rules (readPattern rules depth) ((← get).rest.length + 1)

end RegexReader

/-- The pattern that bytes write, or what is wrong with them. -/
def Pattern.read (rules : RegexRules) (text : List Char) : Except RegexFault Pattern := do
  let (r, s) ← (RegexReader.readPattern rules (text.length + 1)).run { rest := text }
  if !s.rest.isEmpty then throw .closedGroup
  return {
    regex := if rules.fold then r.ignoringCase else r
    fold := rules.fold
    lineMark := rules.lineMark
    groups := s.begun }

end FormatChain
