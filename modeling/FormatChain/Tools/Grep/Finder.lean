import FormatChain.Process.Bytes
import FormatChain.Regex.OrderedReading
import FormatChain.Regex.Reading

/-!
# What is looked for in lines

Lines are searched for patterns, and those that were found are shown.

A line is looked for if one of some patterns fits in it, or if none does.  The fits may be asked to be
words, or whole lines.

* `Finder` : what is looked for.
* `Finder.selects` : whether a line is one of those looked for.
* `Finder.parts` : the parts of a line that fit.
* `idleRepeats`, `namedSetAlone` : what is odd about a pattern.
* `FinderView` : what is shown of found lines.
* `Showing` : what was shown by now.
* `FinderView.showLines` : the lines of a file.
-/

namespace FormatChain.Tools

open FormatChain.Process

/-- What is looked for. -/
structure Finder where
  /-- The patterns, one of which has to fit. -/
  patterns : List Pattern := []
  /-- A pattern with an order of its ways, if there is one instead. -/
  ordered : Option OrderedPattern := none
  /-- Whether whole words have to fit. -/
  words : Bool := false
  /-- Whether whole lines have to fit. -/
  lines : Bool := false
  /-- Whether the other lines are looked for. -/
  inverted : Bool := false

namespace Finder

/-- Whether the bytes between two places stand for themselves, with no byte of a word before or after
them. -/
def isApart (body : Bytes) (start stop : Nat) : Bool :=
  let before := if start = 0 then none else body[start - 1]?
  !before.any Regex.isWordByte && !(body[stop]?.any Regex.isWordByte)

/-- The longest fit of a pattern at a place that is a word, where a shorter one may be empty if that is
allowed; in at most so many steps. -/
def wordAt (p : Pattern) (emptyToo : Bool) (body : Bytes) (start : Nat) (before : Option Char) :
    Nat → Bytes → Option Match
  | 0, _ => none
  | steps + 1, text =>
    match p.at? false body start before text with
    | none => none
    | some m =>
      if isApart body m.start m.stop then some m
      else
        let length := m.stop - m.start
        if length = 0 then none
        else
          match wordAt p emptyToo body start before steps (text.take (length - 1)) with
          | some shorter => if shorter.stop = shorter.start && !emptyToo then none else some shorter
          | none => none

/-- The longest of the fits at a place. -/
def longestAt (f : Finder) (emptyToo : Bool) (body : Bytes) (start : Nat) (before : Option Char)
    (text : Bytes) : Option Match :=
  let found := f.patterns.filterMap fun p =>
    if f.lines then (p.at? false body start before text).filter fun m => m.start = 0 && m.stop = body.length
    else if f.words then
      wordAt p (emptyToo && !p.regex.refersBack) body start before (text.length + 1) text
    else p.at? false body start before text
  found.foldl (fun best m =>
    match best with
    | some b => if b.stop < m.stop then some m else best
    | none => some m) none

/-- The leftmost fit from a place on. -/
def findFrom (f : Finder) (emptyToo : Bool) (body : Bytes) (start : Nat) (before : Option Char) :
    Bytes → Option Match
  | [] => f.longestAt emptyToo body start before []
  | c :: rest =>
    match f.longestAt emptyToo body start before (c :: rest) with
    | some m => some m
    | none => if f.lines then none else findFrom f emptyToo body (start + 1) (some c) rest

/-- The first fit in a line from a place on. -/
def find? (f : Finder) (emptyToo : Bool) (body : Bytes) (start : Nat) : Option Match :=
  match f.ordered with
  | some p => p.find? body start
  | none =>
    f.findFrom emptyToo body start (if start = 0 then none else body[start - 1]?) (body.drop start)

/-- Whether a line is one of those looked for. -/
def selects (f : Finder) (body : Bytes) : Bool := (f.find? true body 0).isSome != f.inverted

/-- The parts of a line that fit from a place on, by their starts and ends, in at most so many steps. -/
def partsFrom (f : Finder) (body : Bytes) : Nat → Nat → List (Nat × Nat)
  | 0, _ => []
  | steps + 1, start =>
    match f.find? false body start with
    | none => []
    | some m =>
      if m.stop ≤ m.start then
        if m.start < body.length then partsFrom f body steps (m.start + 1) else []
      else (m.start, m.stop) :: partsFrom f body steps m.stop

/-- The parts of a line that fit, by their starts and ends. -/
def parts (f : Finder) (body : Bytes) : List (Nat × Nat) := f.partsFrom body (body.length + 2) 0

end Finder

/-! ### Patterns -/

/-- A text that stands for itself, as a pattern. -/
def literalPattern (fold : Bool) (text : Bytes) : Pattern :=
  let regex := Regex.sequence (text.map Regex.byte)
  { regex := if fold then regex.ignoringCase else regex, fold }

/-- A pattern with an order of its ways that has to fit words or lines. -/
def boundedPattern (words lines : Bool) (p : OrderedPattern) : OrderedPattern :=
  let word : OrderedRegex := .oneOf Regex.wordSet true
  if lines then ⟨.sequence [.edge .lineStart, p.regex, .edge .lineEnd]⟩
  else if words then ⟨.sequence [.behind 1 false word, p.regex, .ahead false word]⟩
  else p

/-- The bytes after a set, given those after its opening bracket, in at most so many steps; `first` as
long as a closing bracket would be a member. -/
def afterSet (first : Bool) : Nat → Bytes → Bytes
  | 0, text => text
  | _, [] => []
  | steps + 1, c :: rest =>
    if c = ']' && !first then rest
    else if c = '[' then
      match rest with
      | mark :: inner =>
        if mark = ':' || mark = '.' || mark = '=' then afterSet false steps (pastName mark inner)
        else afterSet false steps rest
      | [] => []
    else afterSet (first && c = '^') steps rest
where
  /-- The bytes after the name that a mark and a bracket end. -/
  pastName (mark : Char) : Bytes → Bytes
    | c :: ']' :: rest => if c = mark then rest else pastName mark (']' :: rest)
    | _ :: rest => pastName mark rest
    | [] => []

/-- Whether a set is written like the name of one with its colons, but without brackets of its own, given
the bytes after its opening bracket. -/
def isNameOfSet (text : Bytes) : Bool :=
  let inner := if text.head? = some '^' then text.drop 1 else text
  let members := inner.takeWhile (· != ']')
  members.length < inner.length && members.head? = some ':' && members.getLast? = some ':'
    && members.any (· != ':') && !members.contains '-' && !hasName members
where
  /-- Whether there is a named set. -/
  hasName : Bytes → Bool
    | '[' :: c :: rest => c = ':' || c = '.' || c = '=' || hasName (c :: rest)
    | _ :: rest => hasName rest
    | [] => false

/-- Whether a set of a pattern is written like the name of one, in at most so many steps. -/
def namedSetAlone : Nat → Bytes → Bool
  | 0, _ => false
  | steps + 1, text =>
    match text with
    | '\\' :: _ :: rest => namedSetAlone steps rest
    | '[' :: rest => isNameOfSet rest || namedSetAlone steps (afterSet true (rest.length + 1) rest)
    | _ :: rest => namedSetAlone steps rest
    | [] => false

/-- The repetitions of nothing in an extended pattern, in at most so many steps; whether nothing stands
before the bytes in their branch is given. -/
def idleRepeats (fresh : Bool) : Nat → Bytes → List String
  | 0, _ => []
  | steps + 1, text =>
    let noted (what : String) (others : List String) := if fresh then what :: others else others
    match text with
    | [] => []
    | '*' :: rest => noted "*" (idleRepeats fresh steps rest)
    | '+' :: rest => noted "+" (idleRepeats fresh steps rest)
    | '?' :: rest => noted "?" (idleRepeats fresh steps rest)
    | '\x7b' :: rest =>
      match RegexReader.readCount { extended := true } rest with
      | .ok (_, rest) => noted "\x7b...\x7d" (idleRepeats false steps rest)
      | .error _ => idleRepeats false steps rest
    | '^' :: rest => idleRepeats fresh steps rest
    | '$' :: rest => idleRepeats fresh steps rest
    | '(' :: rest => idleRepeats true steps rest
    | '|' :: rest => idleRepeats true steps rest
    | '[' :: rest => idleRepeats false steps (afterSet true (rest.length + 1) rest)
    | '\\' :: c :: rest =>
      idleRepeats (fresh && ['<', '>', 'b', 'B', '\x60', '\''].contains c) steps rest
    | _ :: rest => idleRepeats false steps rest

end FormatChain.Tools

/-!
## How found lines are shown

A found line is shown with the name of its file, its number and its place in the file before it, as
far as these are asked for, and with lines around it.
-/

namespace FormatChain.Tools

open FormatChain.Process

/-- What is shown of found lines. -/
structure FinderView where
  /-- The number of lines shown before a found one. -/
  before : Nat := 0
  /-- The number of lines shown after a found one. -/
  after : Nat := 0
  /-- What is shown between lines that do not follow each other, if anything is. -/
  gap : Option Bytes := none
  /-- Whether lines are numbered. -/
  numbers : Bool := false
  /-- Whether places in the file are shown. -/
  places : Bool := false
  /-- The name of the file, if it is shown. -/
  name : Option Bytes := none
  /-- Whether a byte of zeros ends names. -/
  zeroAfterNames : Bool := false
  /-- Whether only the parts that fit are shown. -/
  onlyParts : Bool := false
  /-- Whether a tab stands before lines. -/
  tabs : Bool := false
  /-- The width of numbers. -/
  width : Nat := 0
  /-- Whether parts are shown in colors. -/
  colors : Bool := false
  /-- The byte that ends lines. -/
  mark : Char := '\n'

namespace FinderView

/-- Bytes in a color. -/
def colored (v : FinderView) (color : String) (bytes : Bytes) : Bytes :=
  if v.colors then
    bytesOf s!"\x1b[{color}m\x1b[K" ++ bytes ++ "\x1b[m\x1b[K".toList
  else bytes

/-- The name of the file, and what ends it. -/
def nameAnd (v : FinderView) (name : Bytes) (mark : Bytes) : Bytes :=
  v.colored "35" name ++ (if v.zeroAfterNames then ['\x00'] else mark)

/-- What stands between two things that are shown. -/
def between (v : FinderView) (mark : Char) : Bytes := v.colored "36" [mark]

/-- What stands before a line of a number, or a part of it, that starts at a place and is so long. -/
def head (v : FinderView) (number place length : Nat) (mark : Char) : Bytes :=
  let shown (n : Nat) : Bytes := v.colored "32" (padStart v.width (digitsOf n)) ++ v.between mark
  (match v.name with
    | some name => v.nameAnd name (v.between mark)
    | none => [])
    ++ (if v.numbers then shown number else [])
    ++ (if v.places then shown place else [])
    ++ (if v.tabs && (v.name.isSome || v.numbers || v.places) && 0 < length then ['\t'] else [])

/-- A line with its fitting parts in color, from a place on. -/
def brightened (v : FinderView) (body : Bytes) (place : Nat) : List (Nat × Nat) → Bytes
  | [] => body.drop place
  | (start, stop) :: rest =>
    (body.take start).drop place ++ v.colored "01;31" ((body.take stop).drop start)
      ++ brightened v body stop rest

/-- A line of a number that starts at a place; whether it is a found one. -/
def line (v : FinderView) (f : Finder) (number place : Nat) (found : Bool) (body : Bytes) : Bytes :=
  let mark := if found then ':' else '-'
  let fitting := found != f.inverted
  if v.onlyParts then
    if fitting then
      (f.parts body).flatMap fun (start, stop) =>
        v.head number (place + start) (stop - start) (if f.inverted then '-' else ':')
          ++ v.colored "01;31" ((body.take stop).drop start) ++ [v.mark]
    else []
  else
    v.head number place body.length mark
      ++ (if fitting && v.colors then v.brightened body 0 (f.parts body) else body) ++ [v.mark]

end FinderView

/-- What was shown by now. -/
structure Showing where
  /-- What was written, the latest first. -/
  written : List Bytes := []
  /-- Whether a found line was shown, be it of another file. -/
  used : Bool := false
  /-- How many lines of this file were found. -/
  count : Nat := 0
  /-- The lines that are still shown after the last found one. -/
  pending : Nat := 0
  /-- The index after the last line shown. -/
  next : Option Nat := none

/-- Shows the line of an index, given all lines with their places. -/
def Showing.showLine (s : Showing) (v : FinderView) (f : Finder) (lines : Array (Nat × Bytes))
    (found : Bool) (i : Nat) : Showing :=
  match lines[i]? with
  | some (place, body) =>
    { s with written := v.line f (i + 1) place found body :: s.written, next := some (i + 1) }
  | none => s

/-- Shows a found line with those before it. -/
def Showing.showFound (s : Showing) (v : FinderView) (f : Finder) (lines : Array (Nat × Bytes))
    (i : Nat) : Showing :=
  let first := max (s.next.getD 0) (i - v.before)
  let s := match v.gap with
    | some gap =>
      if s.used && s.next != some first then
        { s with written := (v.colored "36" gap ++ ['\n']) :: s.written }
      else s
    | none => s
  let s := (List.range (i - first)).foldl (fun s k => s.showLine v f lines false (first + k)) s
  { s.showLine v f lines true i with used := true, count := s.count + 1, pending := v.after }

/-- Shows the lines of a file from an index on, of which at most so many are looked for. -/
def FinderView.showFrom (v : FinderView) (f : Finder) (lines : Array (Nat × Bytes)) (s : Showing)
    (most i : Nat) : List (Nat × Bytes) → Showing
  | [] => s
  | (_, body) :: rest =>
    if most = 0 then
      if s.pending = 0 then s
      else
        let s := s.showLine v f lines false i
        showFrom v f lines { s with pending := s.pending - 1 } most (i + 1) rest
    else if f.selects body then showFrom v f lines (s.showFound v f lines i) (most - 1) (i + 1) rest
    else if 0 < s.pending then
      let s := s.showLine v f lines false i
      showFrom v f lines { s with pending := s.pending - 1 } most (i + 1) rest
    else showFrom v f lines s most (i + 1) rest

/-- The places at which lines start. -/
def placed (place : Nat) : List Bytes → List (Nat × Bytes)
  | [] => []
  | body :: rest => (place, body) :: placed (place + body.length + 1) rest

/-- Shows the lines of a file; whether a found line of another file was shown is given. -/
def FinderView.showLines (v : FinderView) (f : Finder) (used : Bool) (most : Nat) (bodies : List Bytes) :
    Showing :=
  let lines := placed 0 bodies
  v.showFrom f lines.toArray { used } most 0 lines

end FormatChain.Tools
