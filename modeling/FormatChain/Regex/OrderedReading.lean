import FormatChain.Regex.Ordered

/-!
# Written patterns whose ways are tried in order

Parentheses, braces and bars have a meaning without a backslash, and a question mark after a
parenthesis says what the group is for.  Options inside a pattern hold up to the end of their group.

* `OrderedFault` : what is wrong with a written pattern.
* `OrderedMode` : the options that hold at a place.
* `OrderedPattern.read` : the pattern that bytes write.
-/

namespace FormatChain

/-- What is wrong with a written pattern. -/
inductive OrderedFault where
  /-- A backslash ends the pattern. -/
  | trailingBackslash
  /-- The letter for a control byte ends the pattern. -/
  | trailingControl
  /-- No control byte belongs to the byte. -/
  | controlByte
  /-- A letter after a backslash means nothing. -/
  | unknownEscape
  /-- A letter after a backslash would change the size of letters. -/
  | caseEscape
  /-- A count ends before it starts. -/
  | countOrder
  /-- A count is too great. -/
  | countTooBig
  /-- Nothing is there to be repeated. -/
  | nothingRepeated
  /-- A set has no end. -/
  | openSet
  /-- A letter after a backslash has no place in a set. -/
  | escapeInSet
  /-- All bytes of a line have no place in a set. -/
  | lineInSet
  /-- A range ends before it starts. -/
  | rangeOrder
  /-- A set has no place in a range. -/
  | rangeOfSet
  /-- A named set stands outside of sets. -/
  | setOutside
  /-- No set has the name. -/
  | unknownSet
  /-- Bytes with names are not known. -/
  | collating
  /-- A group has no end. -/
  | openGroup
  /-- A group is closed that was not opened. -/
  | closedGroup
  /-- A comment has no end. -/
  | openComment
  /-- A letter stands for no option. -/
  | unknownOption
  /-- A letter stands for no kind of group. -/
  | unknownKind
  /-- There is no such group. -/
  | noGroup
  /-- A group is asked for by a distance of zero. -/
  | noDistance
  /-- A number should follow a sign. -/
  | noNumber
  /-- All of the pattern is called without an end. -/
  | openCall
  /-- A condition has no end. -/
  | openCondition
  /-- There is no condition. -/
  | noCondition
  /-- A condition has more than two branches. -/
  | manyBranches
  /-- The bytes before a place have no fixed length. -/
  | lookWidth
  /-- A name is expected. -/
  | noName
  /-- A name has no end. -/
  | openName
  /-- A name starts with a digit. -/
  | digitName
  /-- A name is given to two groups. -/
  | sameName
  /-- A group is asked for without a name or a number. -/
  | noReference
  /-- A group is asked for without a name. -/
  | noNamedReference
  /-- A property is not written well. -/
  | badProperty
  /-- There is no such property. -/
  | unknownProperty
  /-- A byte is too great. -/
  | byteTooGreat
  /-- A byte is too great in base eight. -/
  | octalTooGreat
  /-- The braces with the number of a byte are missing. -/
  | noBraces
  /-- A digit is not one of base eight. -/
  | notOctal
  /-- A digit is not one of base sixteen. -/
  | notHexadecimal
  /-- There is no digit. -/
  | noDigits
  /-- A word after an asterisk means nothing. -/
  | unknownVerb
  deriving Repr, DecidableEq

/-- The wording of what is wrong. -/
def OrderedFault.message : OrderedFault → String
  | .trailingBackslash => "\\ at end of pattern"
  | .trailingControl => "\\c at end of pattern"
  | .controlByte => "\\c must be followed by a printable ASCII character"
  | .unknownEscape => "unrecognized character follows \\"
  | .caseEscape => "PCRE2 does not support \\F, \\L, \\l, \\N\x7bname\x7d, \\U, or \\u"
  | .countOrder => "numbers out of order in \x7b\x7d quantifier"
  | .countTooBig => "number too big in \x7b\x7d quantifier"
  | .nothingRepeated => "quantifier does not follow a repeatable item"
  | .openSet => "missing terminating ] for character class"
  | .escapeInSet => "escape sequence is invalid in character class"
  | .lineInSet => "\\N is not supported in a class"
  | .rangeOrder => "range out of order in character class"
  | .rangeOfSet => "invalid range in character class"
  | .setOutside => "POSIX named classes are supported only within a class"
  | .unknownSet => "unknown POSIX class name"
  | .collating => "POSIX collating elements are not supported"
  | .openGroup => "missing closing parenthesis"
  | .closedGroup => "unmatched closing parenthesis"
  | .openComment => "missing ) after (?# comment"
  | .unknownOption => "unrecognized character after (? or (?-"
  | .unknownKind => "unrecognized character after (?P"
  | .noGroup => "reference to non-existent subpattern"
  | .noDistance => "a relative value of zero is not allowed"
  | .noNumber => "digit expected after (?+ or (?-"
  | .openCall => "(?R (recursive pattern call) must be followed by a closing parenthesis"
  | .openCondition => "missing closing parenthesis for condition"
  | .noCondition => "assertion expected after (?( or (?(?C)"
  | .manyBranches => "conditional subpattern contains more than two branches"
  | .lookWidth => "lookbehind assertion is not fixed length"
  | .noName => "subpattern name expected"
  | .openName => "syntax error in subpattern name (missing terminator?)"
  | .digitName => "subpattern name must start with a non-digit"
  | .sameName => "two named subpatterns have the same name (PCRE2_DUPNAMES not set)"
  | .noReference =>
    "\\g is not followed by a braced, angle-bracketed, or quoted name/number or by a plain number"
  | .noNamedReference => "\\k is not followed by a braced, angle-bracketed, or quoted name"
  | .badProperty => "malformed \\P or \\p sequence"
  | .unknownProperty => "unknown property after \\P or \\p"
  | .byteTooGreat => "character code point value in \\x\x7b\x7d or \\o\x7b\x7d is too large"
  | .octalTooGreat => "octal value is greater than \\377 in 8-bit non-UTF-8 mode"
  | .noBraces => "missing opening brace after \\o"
  | .notOctal => "non-octal character in \\o\x7b\x7d (closing brace missing?)"
  | .notHexadecimal => "non-hex character in \\x\x7b\x7d (closing brace missing?)"
  | .noDigits => "digits missing in \\x\x7b\x7d or \\o\x7b\x7d or \\N\x7bU+\x7d"
  | .unknownVerb => "(*VERB) not recognized or malformed"

/-- The options that hold at a place. -/
structure OrderedMode where
  /-- Whether capital and small letters are the same. -/
  fold : Bool := false
  /-- Whether lines start and end inside the text. -/
  lines : Bool := false
  /-- Whether a dot fits the end of a line. -/
  dots : Bool := false
  /-- Whether blanks and comments in the pattern mean nothing. -/
  blanks : Bool := false
  /-- Whether blanks in sets mean nothing. -/
  setBlanks : Bool := false
  /-- Whether groups without a name are not remembered. -/
  bare : Bool := false
  /-- Whether repetitions are lazy if they are not marked so. -/
  swapped : Bool := false

/-- The mode with an option of a letter on or off. -/
def OrderedMode.setting (m : OrderedMode) (on : Bool) (letter : Char) : Option OrderedMode :=
  match letter with
  | 'i' => some { m with fold := on }
  | 'm' => some { m with lines := on }
  | 's' => some { m with dots := on }
  | 'x' => some { m with blanks := on, setBlanks := if on then m.setBlanks else false }
  | 'n' => some { m with bare := on }
  | 'U' => some { m with swapped := on }
  | 'J' => some m
  | _ => none

/-- What is left of a written pattern, and what is known of its groups. -/
structure OrderedReader where
  /-- The bytes that are left. -/
  rest : List Char
  /-- The number of groups that were begun. -/
  begun : Nat := 0
  /-- The names of groups. -/
  names : List (List Char × Nat) := []
  /-- The names of groups of all of the pattern. -/
  known : List (List Char × Nat) := []
  /-- The groups that are asked for. -/
  wanted : List Nat := []
  /-- Whether a group is asked for by a name that no group has. -/
  missing : Bool := false

/-- Reading a pattern. -/
abbrev ReadingOrdered := StateT OrderedReader (Except OrderedFault)

namespace OrderedReader

/-- Takes the bytes before the rest away. -/
def goOn (rest : List Char) : ReadingOrdered Unit := modify fun s => { s with rest }

/-- The pattern that asks for a group. -/
def asking (n : Nat) (r : OrderedRegex) : ReadingOrdered OrderedRegex := do
  modify fun s => { s with wanted := n :: s.wanted }
  return r

/-- The number of a named group; zero if no group has the name. -/
def numberOfName (name : List Char) : ReadingOrdered Nat := do
  match (← get).known.find? fun entry => entry.1 = name with
  | some (_, n) => return n
  | none =>
    modify fun s => { s with missing := true }
    return 0

/-- Whether a byte may stand in a name. -/
def isNamePart (c : Char) : Bool := c.isAlphanum || c = '_'

/-- A name up to a mark. -/
def readName (mark : Char) : ReadingOrdered (List Char) := do
  let text := (← get).rest
  let name := text.takeWhile isNamePart
  if name.isEmpty then throw .noName
  else if (name.headD ' ').isDigit then throw .digitName
  else
    match text.drop name.length with
    | c :: rest =>
      if c = mark then
        goOn rest
        return name
      else throw .openName
    | [] => throw .openName

/-- The number that digits make up. -/
def numberIn (digits : List Char) : Nat := digits.foldl (fun n c => 10 * n + (c.toNat - 48)) 0

/-- The digits at the start, and the rest. -/
def digitsAt (text : List Char) : List Char × List Char :=
  let digits := text.takeWhile Char.isDigit
  (digits, text.drop digits.length)

/-- The group at a distance, or of a number. -/
def relative (sign : Option Char) (n : Nat) : ReadingOrdered Nat := do
  match sign with
  | none => return n
  | some sign =>
    let begun := (← get).begun
    if n = 0 then throw .noDistance
    else if sign = '+' then return begun + n
    else if begun < n then throw .noGroup
    else return begun + 1 - n

/-- A sign, if there is one. -/
def signAt (text : List Char) : Option Char × List Char :=
  match text with
  | '+' :: rest => (some '+', rest)
  | '-' :: rest => (some '-', rest)
  | rest => (none, rest)

/-! ## Bytes after backslashes -/

/-- The value of a digit of base sixteen. -/
def hexValue? (c : Char) : Option Nat :=
  if c.isDigit then some (c.toNat - 48)
  else if 'a' ≤ c && c ≤ 'f' then some (c.toNat - 87)
  else if 'A' ≤ c && c ≤ 'F' then some (c.toNat - 55)
  else none

/-- Whether a byte is a digit of base eight. -/
def isOctal (c : Char) : Bool := '0' ≤ c && c ≤ '7'

/-- The number that digits of a base make up. -/
def numberOfBase (base : Nat) (digits : List Char) : Nat :=
  digits.foldl (fun n c => base * n + (hexValue? c).getD 0) 0

/-- The byte of a number in braces. -/
def bracedByte (base : Nat) (text : List Char) : Except OrderedFault (Char × List Char) :=
  let isDigit (c : Char) : Bool := (hexValue? c).any (· < base)
  let digits := text.takeWhile isDigit
  match digits, text.drop digits.length with
  | [], [] => .error .noDigits
  | [], '\x7d' :: _ => .error .noDigits
  | _, '\x7d' :: rest =>
    let n := numberOfBase base digits
    if n < 256 then .ok (Char.ofNat n, rest) else .error .byteTooGreat
  | _, _ => .error (if base = 8 then .notOctal else .notHexadecimal)

/-- The byte of at most so many digits of base eight. -/
def octalByte (most : Nat) (text : List Char) : Except OrderedFault (Char × List Char) :=
  let digits := (text.take most).takeWhile isOctal
  let n := numberOfBase 8 digits
  if n < 256 then .ok (Char.ofNat n, text.drop digits.length) else .error .octalTooGreat

/-- The byte that a letter after a backslash stands for, and the rest, if it stands for one; given
the letter and what follows it. -/
def escapedByte? (letter : Char) (rest : List Char) : Except OrderedFault (Option (Char × List Char)) :=
  match letter with
  | 't' => .ok (some ('\t', rest))
  | 'n' => .ok (some ('\n', rest))
  | 'r' => .ok (some ('\r', rest))
  | 'f' => .ok (some ('\x0c', rest))
  | 'e' => .ok (some ('\x1b', rest))
  | 'a' => .ok (some ('\x07', rest))
  | '0' => (octalByte 2 rest).map some
  | 'o' =>
    match rest with
    | '\x7b' :: rest => (bracedByte 8 rest).map some
    | _ => .error .noBraces
  | 'x' =>
    match rest with
    | '\x7b' :: rest => (bracedByte 16 rest).map some
    | _ =>
      let digits := (rest.take 2).takeWhile fun c => (hexValue? c).isSome
      .ok (some (Char.ofNat (numberOfBase 16 digits), rest.drop digits.length))
  | 'c' =>
    match rest with
    | [] => .error .trailingControl
    | c :: rest =>
      if c < ' ' || '~' < c then .error .controlByte
      else .ok (some (Char.ofNat (Nat.xor c.toUpper.toNat 64), rest))
  | _ => .ok none

/-- The set of a letter after a backslash. -/
def letterSet? (letter : Char) : Option (List ByteRange × Bool) :=
  let digits : List ByteRange := [⟨'0', '9'⟩]
  let blanks : List ByteRange := [⟨'\t', '\t'⟩, ⟨' ', ' '⟩, ⟨Char.ofNat 160, Char.ofNat 160⟩]
  let ends : List ByteRange := [⟨'\n', '\r'⟩, ⟨Char.ofNat 133, Char.ofNat 133⟩]
  match letter with
  | 'd' => some (digits, true)
  | 'D' => some (digits, false)
  | 'w' => some (Regex.wordSet, true)
  | 'W' => some (Regex.wordSet, false)
  | 's' => some (Regex.spaceSet, true)
  | 'S' => some (Regex.spaceSet, false)
  | 'h' => some (blanks, true)
  | 'H' => some (blanks, false)
  | 'v' => some (ends, true)
  | 'V' => some (ends, false)
  | _ => none

/-- The bytes that are in none of the ranges. -/
def complement (ranges : List ByteRange) : List ByteRange :=
  ((List.range 256).map Char.ofNat).filterMap fun c =>
    if ranges.any (·.holds c) then none else some ⟨c, c⟩

/-- The ranges of a set, or of all other bytes. -/
def rangesOf (set : List ByteRange × Bool) : List ByteRange :=
  if set.2 then set.1 else complement set.1

/-- The set of a property of bytes. -/
def propertySet? (name : String) : Option (List ByteRange) :=
  match name with
  | "L" | "L&" => Regex.nameSet? "alpha"
  | "Ll" => Regex.nameSet? "lower"
  | "Lu" => Regex.nameSet? "upper"
  | "N" | "Nd" => Regex.nameSet? "digit"
  | "Z" | "Zs" => some [⟨' ', ' '⟩]
  | "Xan" => Regex.nameSet? "alnum"
  | "Xwd" => some Regex.wordSet
  | "Xsp" | "Xps" => Regex.nameSet? "space"
  | "Any" => some [⟨Char.ofNat 0, Char.ofNat 255⟩]
  | "Cc" => Regex.nameSet? "cntrl"
  | "Sc" => some [⟨'$', '$'⟩]
  | "Sk" => some [⟨'^', '^'⟩, ⟨'\x60', '\x60'⟩]
  | "Sm" => some [⟨'+', '+'⟩, ⟨'<', '>'⟩, ⟨'|', '|'⟩, ⟨'~', '~'⟩]
  | "S" => some [⟨'$', '$'⟩, ⟨'+', '+'⟩, ⟨'<', '>'⟩, ⟨'^', '^'⟩, ⟨'\x60', '\x60'⟩, ⟨'|', '|'⟩, ⟨'~', '~'⟩]
  | "Pd" => some [⟨'-', '-'⟩]
  | "Ps" => some [⟨'(', '('⟩, ⟨'[', '['⟩, ⟨'\x7b', '\x7b'⟩]
  | "Pe" => some [⟨')', ')'⟩, ⟨']', ']'⟩, ⟨'\x7d', '\x7d'⟩]
  | "Pc" => some [⟨'_', '_'⟩]
  | "P" => some [⟨'!', '#'⟩, ⟨'%', '*'⟩, ⟨',', '/'⟩, ⟨':', ';'⟩, ⟨'?', '@'⟩, ⟨'[', ']'⟩, ⟨'_', '_'⟩,
      ⟨'\x7b', '\x7b'⟩, ⟨'\x7d', '\x7d'⟩]
  | "Latin" => Regex.nameSet? "alpha"
  | _ => none

/-- The set of a property, and the rest. -/
def readProperty (inside : Bool) (text : List Char) :
    Except OrderedFault ((List ByteRange × Bool) × List Char) :=
  match text with
  | '\x7b' :: rest =>
    let (inside, rest) := match rest with
      | '^' :: rest => (!inside, rest)
      | _ => (inside, rest)
    let name := rest.takeWhile (· != '\x7d')
    match rest.drop name.length with
    | _ :: after =>
      match propertySet? (String.ofList (name.filter fun c => c != ' ' && c != '_')) with
      | some ranges => .ok ((ranges, inside), after)
      | none => .error .unknownProperty
    | [] => .error .badProperty
  | c :: rest =>
    match propertySet? (String.singleton c) with
    | some ranges => .ok ((ranges, inside), rest)
    | none => .error .unknownProperty
  | [] => .error .badProperty

/-! ## Sets -/

/-- A member of a set. -/
inductive OrderedMember where
  /-- A byte, which may begin or end a range. -/
  | byte (c : Char)
  /-- A set. -/
  | set (ranges : List ByteRange)
  /-- Nothing. -/
  | nothing

/-- The name of a set between colons, whether it stands for all other bytes, and the rest. -/
def namedSetAt? (text : List Char) : Option (List Char × Bool × List Char) :=
  let (inside, after) := match text with
    | '^' :: rest => (false, rest)
    | _ => (true, text)
  let name := after.takeWhile Char.isAlpha
  match after.drop name.length with
  | ':' :: ']' :: rest => some (name, inside, rest)
  | _ => none

/-- Whether a name between two marks, with the brackets around it, is at the start. -/
def isMarked (mark : Char) (text : List Char) : Bool :=
  match text with
  | '[' :: c :: rest =>
    c = mark &&
      let inner := rest.takeWhile fun d => d != mark && d != ']'
      match rest.drop inner.length with
      | d :: ']' :: _ => d = mark
      | _ => false
  | _ => false

/-- The member of a set at the start, and the rest. -/
def readOrderedMember (text : List Char) : Except OrderedFault (OrderedMember × List Char) :=
  match text with
  | [] => .error .openSet
  | '[' :: ':' :: rest =>
    match namedSetAt? rest with
    | some (name, inside, rest) =>
      let ranges? := if name = "word".toList then some Regex.wordSet
        else if name = "ascii".toList then some [⟨Char.ofNat 0, Char.ofNat 127⟩]
        else Regex.nameSet? (String.ofList name)
      match ranges? with
      | some ranges => .ok (.set (rangesOf (ranges, inside)), rest)
      | none => .error .unknownSet
    | none => .ok (.byte '[', ':' :: rest)
  | '[' :: c :: rest =>
    if (c = '.' || c = '=') && isMarked c ('[' :: c :: rest) then .error .collating
    else .ok (.byte '[', c :: rest)
  | ['\\'] => .error .trailingBackslash
  | '\\' :: letter :: rest => do
    match ← escapedByte? letter rest with
    | some (c, rest) => return (.byte c, rest)
    | none =>
      match letterSet? letter with
      | some set => return (.set (rangesOf set), rest)
      | none =>
        if letter = 'b' then return (.byte '\x08', rest)
        else if letter = 'E' then return (.nothing, rest)
        else if letter = 'N' then throw .lineInSet
        else if ['B', 'R', 'X'].contains letter then throw .escapeInSet
        else if ['F', 'L', 'l', 'U', 'u'].contains letter then throw .caseEscape
        else if letter = 'p' || letter = 'P' then
          let (set, rest) ← readProperty (letter = 'p') rest
          return (.set (rangesOf set), rest)
        else if letter.isDigit then
          if isOctal letter then
            let (c, rest) ← octalByte 3 (letter :: rest)
            return (.byte c, rest)
          else return (.byte letter, rest)
        else if letter.isAlpha then throw .unknownEscape
        else return (.byte letter, rest)
  | c :: rest => .ok (.byte c, rest)

/-- The bytes between a backslash with a letter and the one that ends them, and the rest. -/
def readPlain (text : List Char) : List Char × List Char :=
  match text with
  | '\\' :: 'E' :: rest => ([], rest)
  | c :: rest =>
    let (found, rest) := readPlain rest
    (c :: found, rest)
  | [] => ([], [])

/-- The ranges of a set up to its end, and the rest, in at most so many steps. -/
def readMembers (mode : OrderedMode) (first : Bool) (found : List ByteRange) :
    Nat → List Char → Except OrderedFault (List ByteRange × List Char)
  | 0, _ => .error .openSet
  | steps + 1, text => do
    match text with
    | [] => throw .openSet
    | '\\' :: 'Q' :: rest =>
      let (plain, rest) := readPlain rest
      readMembers mode false (found ++ plain.map fun c => ⟨c, c⟩) steps rest
    | c :: rest =>
      if c = ']' && !first then return (found, rest)
      else if mode.setBlanks && (c = ' ' || c = '\t') then readMembers mode first found steps rest
      else
        let (low, rest) ← readOrderedMember text
        let ranges := match low with
          | .byte c => [⟨c, c⟩]
          | .set ranges => ranges
          | .nothing => []
        match low, rest with
        | .nothing, _ => readMembers mode first found steps rest
        | _, '-' :: ']' :: _ => readMembers mode false (found ++ ranges) steps rest
        | _, ['-'] => throw .openSet
        | .set _, '-' :: _ => throw .rangeOfSet
        | .byte low, '-' :: after =>
          let (high, rest) ← readOrderedMember after
          match high with
          | .byte high =>
            if high < low then throw .rangeOrder
            else readMembers mode false (found ++ [⟨low, high⟩]) steps rest
          | .set _ => throw .rangeOfSet
          | .nothing => readMembers mode false (found ++ ranges) steps ('-' :: rest)
        | _, _ => readMembers mode false (found ++ ranges) steps rest

/-- The pattern of a set, in a mode. -/
def setIn (mode : OrderedMode) (ranges : List ByteRange) (inside : Bool) : OrderedRegex :=
  .oneOf (if mode.fold then ranges ++ ranges.flatMap Regex.otherCase else ranges) inside

/-- The pattern of a byte, in a mode. -/
def byteIn (mode : OrderedMode) (c : Char) : OrderedRegex := setIn mode [⟨c, c⟩] true

/-- The set after an opening bracket. -/
def readOrderedSet (mode : OrderedMode) : ReadingOrdered OrderedRegex := do
  let text := (← get).rest
  if isMarked ':' ('[' :: text) then throw .setOutside
  if isMarked '.' ('[' :: text) || isMarked '=' ('[' :: text) then throw .collating
  let (inside, text) := match text with
    | '^' :: rest => (false, rest)
    | _ => (true, text)
  let (ranges, rest) ← liftM (readMembers mode true [] (text.length + 1) text)
  goOn rest
  return setIn mode ranges inside

/-! ## Repetitions -/

/-- The greatest count. -/
def greatestCount : Nat := 65535

/-- The count in braces after an opening one, and the rest; none if it is none. -/
def bracedCount? (text : List Char) : Except OrderedFault (Option ((Nat × Option Nat) × List Char)) :=
  let (low, rest) := digitsAt text
  let checked (least : Nat) (most : Option Nat) (rest : List Char) :
      Except OrderedFault (Option ((Nat × Option Nat) × List Char)) :=
    if greatestCount < least || most.any (greatestCount < ·) then .error .countTooBig
    else if most.any (· < least) then .error .countOrder
    else .ok (some ((least, most), rest))
  if low.isEmpty then .ok none
  else
    match rest with
    | '\x7d' :: rest => checked (numberIn low) (some (numberIn low)) rest
    | ',' :: '\x7d' :: rest => checked (numberIn low) none rest
    | ',' :: rest =>
      let (high, rest) := digitsAt rest
      match high, rest with
      | _ :: _, '\x7d' :: rest => checked (numberIn low) (some (numberIn high)) rest
      | _, _ => .ok none
    | _ => .ok none

/-- The repetition at the start, and the rest, if there is one. -/
def countAt? (text : List Char) : Except OrderedFault (Option ((Nat × Option Nat) × List Char)) :=
  match text with
  | '*' :: rest => .ok (some ((0, none), rest))
  | '+' :: rest => .ok (some ((1, none), rest))
  | '?' :: rest => .ok (some ((0, some 1), rest))
  | '\x7b' :: rest => bracedCount? rest
  | _ => .ok none

/-! ## Parts -/

/-- A part of a pattern. -/
inductive OrderedItem where
  /-- Patterns one after the other; whether the last one may be repeated. -/
  | parts (rs : List OrderedRegex) (ready : Bool)
  /-- Other options hold from here on. -/
  | mode (m : OrderedMode)
  /-- Nothing, as if it were not there. -/
  | nothing

/-- A pattern as a part that may be repeated. -/
def OrderedItem.part (r : OrderedRegex) : OrderedItem := .parts [r] true

/-- A place as a part. -/
def OrderedItem.place (r : OrderedRegex) : OrderedItem := .parts [r] false

/-- The pattern of a call of a group, written after the letter for groups and an opening mark. -/
def readCallUpTo (mark : Char) : ReadingOrdered OrderedRegex := do
  let (sign, after) := signAt (← get).rest
  let (digits, rest) := digitsAt after
  if digits.isEmpty then
    let n ← numberOfName (← readName mark)
    asking n (.call n)
  else
    match rest with
    | c :: rest =>
      if c = mark then
        goOn rest
        let n ← relative sign (numberIn digits)
        asking n (.call n)
      else throw .noReference
    | [] => throw .noReference

/-- The pattern of what a group fitted, written after the letter for groups. -/
def readGroupReference (mode : OrderedMode) : ReadingOrdered OrderedRegex := do
  let again (n : Nat) : ReadingOrdered OrderedRegex := asking n (.again n mode.fold)
  match (← get).rest with
  | '<' :: rest =>
    goOn rest
    readCallUpTo '>'
  | '\'' :: rest =>
    goOn rest
    readCallUpTo '\''
  | '\x7b' :: inner =>
    let (sign, after) := signAt inner
    let (digits, rest) := digitsAt after
    match digits, rest with
    | _ :: _, '\x7d' :: rest =>
      goOn rest
      again (← relative sign (numberIn digits))
    | _ :: _, _ => throw .noReference
    | [], _ =>
      goOn inner
      again (← numberOfName (← readName '\x7d'))
  | text =>
    let (sign, after) := signAt text
    let (digits, rest) := digitsAt after
    if digits.isEmpty then throw .noReference
    else
      goOn rest
      again (← relative sign (numberIn digits))

/-- The pattern of what a named group fitted, written after the letter for names. -/
def readNameReference (mode : OrderedMode) : ReadingOrdered OrderedRegex := do
  let upTo (mark : Char) (rest : List Char) : ReadingOrdered OrderedRegex := do
    goOn rest
    let n ← numberOfName (← readName mark)
    asking n (.again n mode.fold)
  match (← get).rest with
  | '\x7b' :: rest => upTo '\x7d' rest
  | '<' :: rest => upTo '>' rest
  | '\'' :: rest => upTo '\'' rest
  | _ => throw .noNamedReference

/-- The ends of lines as a pattern. -/
def anyLineEnd : OrderedRegex :=
  .single (.either (.seq (.byte '\r') (.byte '\n'))
    (.oneOf [⟨'\n', '\r'⟩, ⟨Char.ofNat 133, Char.ofNat 133⟩] true))

/-- Any byte. -/
def anyByte : OrderedRegex := .oneOf [] false

/-- Any byte of a line. -/
def lineByte : OrderedRegex := .oneOf [⟨'\n', '\n'⟩] false

/-- The part after a backslash. -/
def readOrderedEscape (mode : OrderedMode) : ReadingOrdered OrderedItem := do
  match (← get).rest with
  | [] => throw .trailingBackslash
  | letter :: rest =>
    goOn rest
    match ← liftM (escapedByte? letter rest) with
    | some (c, rest) =>
      goOn rest
      return .part (byteIn mode c)
    | none =>
      match letterSet? letter with
      | some (ranges, inside) => return .part (.oneOf ranges inside)
      | none =>
        match letter with
        | 'N' => return .part lineByte
        | 'R' => return .part anyLineEnd
        | 'X' => return .part anyByte
        | 'C' => return .part anyByte
        | 'b' => return .place (.edge .wordEdge)
        | 'B' => return .place (.edge .noWordEdge)
        | 'A' => return .place (.edge .textStart)
        | 'z' => return .place (.edge .textEnd)
        | 'Z' => return .place .lastLine
        | 'G' => return .place .origin
        | 'K' => return .place .begins
        | 'E' => return .nothing
        | 'Q' =>
          let (plain, rest) := readPlain rest
          goOn rest
          return if plain.isEmpty then .nothing else .parts (plain.map (byteIn mode)) true
        | 'g' => return .part (← readGroupReference mode)
        | 'k' => return .part (← readNameReference mode)
        | _ =>
          if letter = 'p' || letter = 'P' then
            let ((ranges, inside), rest) ← liftM (readProperty (letter = 'p') rest)
            goOn rest
            return .part (.oneOf ranges inside)
          else if ['F', 'L', 'l', 'U', 'u'].contains letter then throw .caseEscape
          else if letter.isDigit then
            let (digits, after) := digitsAt (letter :: rest)
            let n := numberIn digits
            if n < 10 || n ≤ (← get).begun then
              goOn after
              return .part (← asking n (.again n mode.fold))
            else if isOctal letter then
              let (c, rest) ← liftM (octalByte 3 (letter :: rest))
              goOn rest
              return .part (byteIn mode c)
            else return .part (byteIn mode letter)
          else if letter.isAlpha then throw .unknownEscape
          else return .part (byteIn mode letter)

/-! ## Groups -/

/-- The mode after letters of options, the byte that ended them, and the rest. -/
def readOptions (m : OrderedMode) (on : Bool) : List Char → Except OrderedFault (OrderedMode × Char × List Char)
  | [] => .error .openGroup
  | ')' :: rest => .ok (m, ')', rest)
  | ':' :: rest => .ok (m, ':', rest)
  | '-' :: rest => if on then readOptions m false rest else .error .unknownOption
  | 'x' :: 'x' :: rest => readOptions { m with blanks := on, setBlanks := on } on rest
  | c :: rest =>
    match m.setting on c with
    | some m => readOptions m on rest
    | none => .error .unknownOption

/-- Takes a closing parenthesis away. -/
def closeOrdered : ReadingOrdered Unit := do
  match (← get).rest with
  | ')' :: rest => goOn rest
  | _ => throw .openGroup

/-- A pattern that looks at the bytes before it. -/
def looksBehind (wanted : Bool) (r : OrderedRegex) : Except OrderedFault OrderedRegex := do
  let looks ← r.branches.mapM fun branch =>
    match branch.width? with
    | some width => Except.ok (OrderedRegex.behind width wanted branch)
    | none => Except.error OrderedFault.lookWidth
  return if wanted then OrderedRegex.choice looks else OrderedRegex.sequence looks

/-- How branches are read up to the end of their group: in a mode, and whether the groups of each branch
are numbered from the same number on. -/
abbrev BranchReader := OrderedMode → Bool → ReadingOrdered (List OrderedRegex)

/-- The group of branches up to a closing parenthesis. -/
def readInside (inside : BranchReader) (mode : OrderedMode) : ReadingOrdered OrderedRegex := do
  let branches ← inside mode false
  closeOrdered
  return .choice branches

/-- A group that is remembered, with its name. -/
def readRemembered (inside : BranchReader) (mode : OrderedMode) (name : Option (List Char)) :
    ReadingOrdered OrderedRegex := do
  let n := (← get).begun + 1
  if let some name := name then
    if (← get).names.any fun entry => entry.1 = name && entry.2 != n then throw .sameName
    modify fun s => { s with names := (name, n) :: s.names }
  modify fun s => { s with begun := n }
  let r ← readInside inside mode
  return .group n r

/-- A condition with its branches, after the question mark and the parenthesis before it. -/
def readCondition (inside : BranchReader) (mode : OrderedMode) : ReadingOrdered OrderedRegex := do
  let text := (← get).rest
  let closing : ReadingOrdered Unit := do
    match (← get).rest with
    | ')' :: rest => goOn rest
    | _ => throw .openCondition
  let finish (build : OrderedRegex → OrderedRegex → OrderedRegex) : ReadingOrdered OrderedRegex := do
    let branches ← inside mode false
    closeOrdered
    match branches with
    | [yes] => return build yes .empty
    | [yes, no] => return build yes no
    | _ => throw .manyBranches
  let onGroup (n : Nat) : ReadingOrdered OrderedRegex := do
    let r ← finish (.ifGroup n)
    asking n r
  let onName (mark : Char) (rest : List Char) : ReadingOrdered OrderedRegex := do
    goOn rest
    let n ← numberOfName (← readName mark)
    closing
    onGroup n
  let onLook (rest : List Char) (build : OrderedRegex → Except OrderedFault OrderedRegex) :
      ReadingOrdered OrderedRegex := do
    goOn rest
    let r ← readInside inside mode
    let test ← liftM (build r)
    finish (.ifFits test)
  match text with
  | [] => throw .openGroup
  | '?' :: '=' :: rest => onLook rest fun r => .ok (.ahead true r)
  | '?' :: '!' :: rest => onLook rest fun r => .ok (.ahead false r)
  | '?' :: '<' :: '=' :: rest => onLook rest (looksBehind true)
  | '?' :: '<' :: '!' :: rest => onLook rest (looksBehind false)
  | '?' :: _ => throw .noCondition
  | '*' :: _ => throw .noCondition
  | '<' :: rest => onName '>' rest
  | '\'' :: rest => onName '\'' rest
  | _ =>
    let (sign, after) := signAt text
    let (digits, rest) := digitsAt after
    if !digits.isEmpty then
      goOn rest
      closing
      onGroup (← relative sign (numberIn digits))
    else
      let word := text.takeWhile isNamePart
      goOn (text.drop word.length)
      if word.isEmpty then throw .noName
      closing
      if word = "DEFINE".toList then
        let branches ← inside mode false
        closeOrdered
        return .defined (.choice branches)
      else if word.head? = some 'R' && (word.drop 1).all Char.isDigit then finish (.ifGroup 0)
      else onGroup (← numberOfName word)

/-- The part of a word after an asterisk. -/
def readVerb : ReadingOrdered OrderedItem := do
  let text := (← get).rest
  let word := text.takeWhile fun c => c.isUpper
  let after := text.drop word.length
  let name := if after.head? = some ':' then after.takeWhile (· != ')') else []
  match after.drop name.length with
  | ')' :: rest =>
    goOn rest
    match String.ofList word with
    | "F" | "FAIL" => return .place (.ahead false .empty)
    | "COMMIT" => return .place (.cut .nowhere)
    | "PRUNE" => return .place (.cut .next)
    | "SKIP" => return .place (.cut .here)
    | "THEN" | "ACCEPT" | "MARK" | "" => return .place .empty
    | "UTF" | "UCP" | "NO_AUTO_POSSESS" | "CR" | "LF" | "CRLF" | "ANY" | "ANYCRLF" => return .place .empty
    | _ => throw .unknownVerb
  | _ => throw .unknownVerb

/-- A call of a group by number, after its sign. -/
def readCall (sign : Option Char) : ReadingOrdered OrderedItem := do
  let (digits, rest) := digitsAt (← get).rest
  if digits.isEmpty then throw .noNumber
  else
    match rest with
    | ')' :: rest =>
      goOn rest
      let n ← relative sign (numberIn digits)
      return .part (← asking n (.call n))
    | _ => throw .openCall

/-- The part after an opening parenthesis. -/
def readParenthesis (inside : BranchReader) (mode : OrderedMode) : ReadingOrdered OrderedItem := do
  let named (mark : Char) (rest : List Char) : ReadingOrdered OrderedItem := do
    goOn rest
    let name ← readName mark
    return .part (← readRemembered inside mode (some name))
  let called (rest : List Char) : ReadingOrdered OrderedItem := do
    goOn rest
    let n ← numberOfName (← readName ')')
    return .part (← asking n (.call n))
  let looking (rest : List Char) (build : OrderedRegex → Except OrderedFault OrderedRegex) :
      ReadingOrdered OrderedItem := do
    goOn rest
    let r ← readInside inside mode
    return .part (← liftM (build r))
  match (← get).rest with
  | '*' :: c :: rest =>
    if c.isUpper || c = ':' || c = ')' then
      goOn (c :: rest)
      readVerb
    else throw .unknownVerb
  | '?' :: rest =>
    match rest with
    | [] => throw .openGroup
    | '#' :: rest =>
      match rest.dropWhile (· != ')') with
      | _ :: rest =>
        goOn rest
        return .nothing
      | [] => throw .openComment
    | '|' :: rest =>
      goOn rest
      let branches ← inside mode true
      closeOrdered
      return .part (.choice branches)
    | '>' :: rest => looking rest fun r => .ok (.single r)
    | '=' :: rest => looking rest fun r => .ok (.ahead true r)
    | '!' :: rest => looking rest fun r => .ok (.ahead false r)
    | '*' :: rest => looking rest fun r => .ok (.ahead true r)
    | '<' :: '=' :: rest => looking rest (looksBehind true)
    | '<' :: '!' :: rest => looking rest (looksBehind false)
    | '<' :: '*' :: rest => looking rest (looksBehind true)
    | '<' :: rest => named '>' rest
    | '\'' :: rest => named '\'' rest
    | ['P'] => throw .openGroup
    | 'P' :: '<' :: rest => named '>' rest
    | 'P' :: '=' :: rest =>
      goOn rest
      let n ← numberOfName (← readName ')')
      return .part (← asking n (.again n mode.fold))
    | 'P' :: '>' :: rest => called rest
    | 'P' :: _ => throw .unknownKind
    | '&' :: rest => called rest
    | 'R' :: rest =>
      match rest with
      | ')' :: rest =>
        goOn rest
        return .part (.call 0)
      | _ => throw .openCall
    | 'C' :: rest =>
      match (digitsAt rest).2 with
      | ')' :: rest =>
        goOn rest
        return .place .empty
      | _ => throw .openGroup
    | '(' :: rest =>
      goOn rest
      return .part (← readCondition inside mode)
    | '+' :: rest =>
      goOn rest
      readCall (some '+')
    | '-' :: c :: rest =>
      if c.isDigit then
        goOn (c :: rest)
        readCall (some '-')
      else options mode false (c :: rest)
    | '^' :: rest => options { lines := false } true rest
    | c :: _ =>
      if c.isDigit then
        goOn rest
        readCall none
      else options mode true rest
  | _ =>
    if mode.bare then return .part (← readInside inside mode)
    else return .part (← readRemembered inside mode none)
where
  /-- The part after letters of options. -/
  options (mode : OrderedMode) (on : Bool) (text : List Char) : ReadingOrdered OrderedItem := do
    let (mode, stop, rest) ← liftM (readOptions mode on text)
    goOn rest
    if stop = ')' then return .mode mode
    else return .part (← readInside inside mode)

/-- The next part of a branch. -/
def readItem (inside : BranchReader) (mode : OrderedMode) : ReadingOrdered OrderedItem := do
  match (← get).rest with
  | [] => return .nothing
  | '\\' :: rest =>
    goOn rest
    readOrderedEscape mode
  | '[' :: rest =>
    goOn rest
    return .part (← readOrderedSet mode)
  | '(' :: rest =>
    goOn rest
    readParenthesis inside mode
  | c :: rest =>
    goOn rest
    match c with
    | '.' => return .part (if mode.dots then anyByte else lineByte)
    | '^' => return .place (.edge (if mode.lines then .lineStart else .textStart))
    | '$' => return .place (.edge (if mode.lines then .lineEnd else .textEnd))
    | _ => return .part (byteIn mode c)

/-! ## Branches -/

/-- The taste of a repetition, and the rest. -/
def tasteAt (mode : OrderedMode) (text : List Char) : Taste × List Char :=
  match text with
  | '?' :: rest => (if mode.swapped then .greedy else .lazy, rest)
  | '+' :: rest => (.possessive, rest)
  | _ => (if mode.swapped then .lazy else .greedy, text)

/-- A branch up to a bar or the end of its group, and the mode after it; `done` is what was read of it,
the last part first, and `ready` whether that part may be repeated. In at most so many steps. -/
def readOrderedBranch (inside : BranchReader) (mode : OrderedMode) (done : List OrderedRegex)
    (ready : Bool) : Nat → ReadingOrdered (OrderedRegex × OrderedMode)
  | 0 => return (.sequence done.reverse, mode)
  | steps + 1 => do
    match (← get).rest with
    | [] => return (.sequence done.reverse, mode)
    | '|' :: _ => return (.sequence done.reverse, mode)
    | ')' :: _ => return (.sequence done.reverse, mode)
    | c :: rest =>
      if mode.blanks && (Regex.spaceSet.any (·.holds c)) then
        goOn rest
        readOrderedBranch inside mode done ready steps
      else if mode.blanks && c = '#' then
        goOn ((rest.dropWhile (· != '\n')).drop 1)
        readOrderedBranch inside mode done ready steps
      else
        match ← liftM (countAt? (c :: rest)) with
        | some ((least, most), rest) =>
          match done, ready with
          | r :: others, true =>
            let (taste, rest) := tasteAt mode rest
            goOn rest
            readOrderedBranch inside mode (.repeated r least most taste :: others) false steps
          | _, _ => throw .nothingRepeated
        | none =>
          match ← readItem inside mode with
          | .parts rs ready => readOrderedBranch inside mode (rs.reverse ++ done) ready steps
          | .mode mode => readOrderedBranch inside mode done false steps
          | .nothing => readOrderedBranch inside mode done ready steps

/-- Branches with bars between them, in at most so many steps. If they are numbered alike, the groups
of each begin with the same number. -/
def readOrderedBranches (inside : BranchReader) (mode : OrderedMode) (alike : Bool) :
    Nat → ReadingOrdered (List OrderedRegex)
  | 0 => return []
  | steps + 1 => do
    let before := (← get).begun
    let (branch, mode) ← readOrderedBranch inside mode [] false ((← get).rest.length + 1)
    match (← get).rest with
    | '|' :: rest =>
      let after := (← get).begun
      modify fun s => { s with rest, begun := if alike then before else s.begun }
      let others ← readOrderedBranches inside mode alike steps
      modify fun s => { s with begun := max after s.begun }
      return branch :: others
    | _ => return [branch]

/-- Branches up to the end of their group, with groups nested up to so deep. -/
def readOrderedPattern : Nat → BranchReader
  | 0 => fun _ _ => return []
  | depth + 1 => fun mode alike => do
    readOrderedBranches (readOrderedPattern depth) mode alike ((← get).rest.length + 1)

/-- Reads a pattern whose names of groups are known. -/
def readAll (mode : OrderedMode) (known : List (List Char × Nat)) (text : List Char) :
    Except OrderedFault (OrderedRegex × OrderedReader) := do
  let (branches, s) ← (readOrderedPattern (text.length + 1) mode false).run { rest := text, known }
  if !s.rest.isEmpty then throw .closedGroup
  else return (.choice branches, s)

end OrderedReader

/-- The pattern that bytes write, in a mode, or what is wrong with them. -/
def OrderedPattern.read (mode : OrderedMode) (text : List Char) : Except OrderedFault OrderedPattern := do
  let (_, first) ← OrderedReader.readAll mode [] text
  let (regex, s) ← OrderedReader.readAll mode first.names text
  if s.missing || s.wanted.any (s.begun < ·) then throw .noGroup
  else return ⟨regex⟩

end FormatChain
