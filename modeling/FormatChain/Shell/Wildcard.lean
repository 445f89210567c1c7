import FormatChain.Disk.Machine
import FormatChain.Process.Bytes

/-!
# Wildcards

A pattern stands for texts: a question mark for any byte, an asterisk for any bytes, and brackets
for one of some bytes.  Bytes that are quoted stand for themselves.  Patterns in parentheses after a sign
are a group, if that is wanted: the sign tells how often they may fit.

* `Wildcard`, `WildcardRules`, `Wildcard.read` : a pattern and how it is read.
* `Wildcard.fits` : whether a text fits.
* `Wildcard.trimmed` : a text without what fits at its start or at its end.
* `Wildcard.paths` : the paths on a disk that fit.
-/

namespace FormatChain.Shell

open FormatChain.Process

/-- A byte, and whether it is quoted. -/
structure Mark where
  /-- The byte. -/
  byte : Char
  /-- Whether it is quoted. -/
  quoted : Bool
  deriving Repr, DecidableEq, Inhabited

/-- Quoted bytes. -/
def quotedMarks (bytes : Bytes) : List Mark := bytes.map fun c => ⟨c, true⟩

/-- Bytes that are not quoted. -/
def openMarks (bytes : Bytes) : List Mark := bytes.map fun c => ⟨c, false⟩

/-- The bytes. -/
def bytesOfMarks (marks : List Mark) : Bytes := marks.map (·.byte)

/-- One of the bytes that brackets stand for. -/
inductive BracketItem where
  /-- The bytes from one to another. -/
  | range (first last : Char)
  /-- The bytes of a class. -/
  | named (name : String)
  deriving Repr, DecidableEq

/-- How often one of the patterns of a group fits. -/
inductive GroupSign where
  /-- At most once. -/
  | optional
  /-- As often as is wanted. -/
  | repeated
  /-- At least once. -/
  | present
  /-- Once. -/
  | single
  /-- None of them fits. -/
  | absent
  deriving Repr, DecidableEq

/-- The sign of a group of patterns. -/
def groupSign? (c : Char) : Option GroupSign :=
  match c with
  | '?' => some .optional
  | '*' => some .repeated
  | '+' => some .present
  | '@' => some .single
  | '!' => some .absent
  | _ => none

/-- A part of a pattern. -/
inductive Wildcard where
  /-- A byte. -/
  | byte (c : Char)
  /-- Any byte. -/
  | any
  /-- Any bytes. -/
  | many
  /-- One of some bytes, or any other one. -/
  | oneOf (negated : Bool) (items : List BracketItem)
  /-- A group of patterns. -/
  | group (sign : GroupSign) (patterns : List (List Wildcard))

/-- How patterns are read. -/
structure WildcardRules where
  /-- Whether a caret turns brackets round, too. -/
  caret : Bool := false
  /-- Whether there are groups. -/
  groups : Bool := false
  /-- Whether small and capital letters are the same. -/
  fold : Bool := false

namespace Wildcard

/-- Whether a byte belongs to a class. -/
def isInClass (name : String) (c : Char) : Bool :=
  match name with
  | "alpha" => c.isAlpha
  | "digit" => c.isDigit
  | "alnum" => c.isAlphanum
  | "upper" => c.isUpper
  | "lower" => c.isLower
  | "space" => isSpaceByte c
  | "blank" => isBlankByte c
  | "punct" => isPrintByte c && c ≠ ' ' && !c.isAlphanum
  | "print" => isPrintByte c
  | "graph" => isPrintByte c && c ≠ ' '
  | "cntrl" => c.toNat < 32 || c.toNat = 127
  | "xdigit" => (hexDigit? c).isSome
  | _ => false

/-- Whether a byte is among those that an item stands for. -/
def inItem (item : BracketItem) (c : Char) : Bool :=
  match item with
  | .range first last => first ≤ c && c ≤ last
  | .named name => isInClass name c

/-- The name of a class up to its end, and the rest. -/
def readClass (done : Bytes) : List Mark → Option (Bytes × List Mark)
  | ⟨':', _⟩ :: ⟨']', _⟩ :: rest => some (done.reverse, rest)
  | ⟨c, _⟩ :: rest => if c.isAlpha then readClass (c :: done) rest else none
  | [] => none

/-- The items in brackets up to the one that closes them, in at most so many steps; `first` tells
that there was none before. -/
def readItems : Nat → Bool → List BracketItem → List Mark → Option (List BracketItem × List Mark)
  | 0, _, _, _ => none
  | _, _, _, [] => none
  | steps + 1, first, done, mark :: rest =>
    if mark.byte = ']' && !mark.quoted && !first then some (done, rest)
    else
      let single : Option (List BracketItem × List Mark) :=
        match mark.quoted, mark.byte, rest with
        | false, '\\', escaped :: rest =>
          readItems steps false (.range escaped.byte escaped.byte :: done) rest
        | _, _, ⟨'-', false⟩ :: last :: after =>
          if last.byte = ']' && !last.quoted then
            readItems steps false (.range mark.byte mark.byte :: done) rest
          else readItems steps false (.range mark.byte last.byte :: done) after
        | _, _, _ => readItems steps false (.range mark.byte mark.byte :: done) rest
      match mark.quoted, mark.byte, rest with
      | false, '[', ⟨':', _⟩ :: more =>
        match readClass [] more with
        | some (name, after) => readItems steps false (.named (String.ofList name) :: done) after
        | none => single
      | _, _, _ => single

/-- The patterns of a group after its parenthesis, and what follows it. The bytes of the pattern that was
begun are given, the latest first, and how many parentheses are open in it. -/
def splitGroup (current : List Mark) (opened : Nat) : List Mark → Option (List (List Mark) × List Mark)
  | [] => none
  | mark :: rest =>
    if mark.quoted then splitGroup (mark :: current) opened rest
    else if mark.byte = '(' then splitGroup (mark :: current) (opened + 1) rest
    else if mark.byte = ')' then
      match opened with
      | 0 => some ([current.reverse], rest)
      | n + 1 => splitGroup (mark :: current) n rest
    else if mark.byte = '|' && opened = 0 then
      (splitGroup [] 0 rest).map fun (patterns, after) => (current.reverse :: patterns, after)
    else splitGroup (mark :: current) opened rest

/-- The group that starts with a byte, if there is one, as the bytes of its patterns. -/
def groupAt? (c : Char) (rest : List Mark) : Option (GroupSign × List (List Mark) × List Mark) :=
  match groupSign? c, rest with
  | some sign, ⟨'(', false⟩ :: more =>
    (splitGroup [] 0 more).map fun (patterns, after) => (sign, patterns, after)
  | _, _ => none

/-- A letter of the other kind. -/
def turnedLetter (c : Char) : Char := if c.isUpper then c.toLower else c.toUpper

/-- An item that stands for letters of both kinds. -/
def bothKinds (item : BracketItem) : List BracketItem :=
  match item with
  | .range first last => [item, .range (turnedLetter first) (turnedLetter last)]
  | .named "upper" => [.named "alpha"]
  | .named "lower" => [.named "alpha"]
  | .named _ => [item]

/-- The pattern that stands for a byte. -/
def single (rules : WildcardRules) (c : Char) : Wildcard :=
  if rules.fold && c.isAlpha then .oneOf false (bothKinds (.range c c)) else .byte c

/-- The pattern that bytes are, in at most so many steps. -/
def readUpTo (rules : WildcardRules) : Nat → List Mark → List Wildcard
  | 0, _ => []
  | _, [] => []
  | steps + 1, mark :: rest =>
    if mark.quoted then single rules mark.byte :: readUpTo rules steps rest
    else
      match if rules.groups then groupAt? mark.byte rest else none with
      | some (sign, patterns, after) =>
        .group sign (patterns.map (readUpTo rules steps)) :: readUpTo rules steps after
      | none =>
        match mark.byte, rest with
        | '?', _ => .any :: readUpTo rules steps rest
        | '*', _ => .many :: readUpTo rules steps rest
        | '\\', escaped :: rest => single rules escaped.byte :: readUpTo rules steps rest
        | '[', _ =>
          let (negated, inside) := match rest with
            | ⟨'!', false⟩ :: inside => (true, inside)
            | ⟨'^', false⟩ :: inside => if rules.caret then (true, inside) else (false, rest)
            | _ => (false, rest)
          match readItems (inside.length + 1) true [] inside with
          | some (items, after) =>
            let items := if rules.fold then items.flatMap bothKinds else items
            .oneOf negated items :: readUpTo rules steps after
          | none => .byte '[' :: readUpTo rules steps rest
        | c, _ => single rules c :: readUpTo rules steps rest

/-- The pattern that bytes are. -/
def read (rules : WildcardRules) (marks : List Mark) : List Wildcard :=
  readUpTo rules (marks.length + 1) marks

/-- Whether a byte fits a part of a pattern that stands for one byte. -/
def accepts (part : Wildcard) (c : Char) : Bool :=
  match part with
  | .byte d => c == d
  | .any => true
  | .many => false
  | .oneOf negated items => items.any (inItem · c) != negated
  | .group _ _ => false

/-- Places of two rows in order, each once. -/
def mergedPlaces (a b : List Nat) : List Nat :=
  (a.merge b fun m n => m ≤ n).foldr (fun n done => if done.head? = some n then done else n :: done) []

/-- The places that are reached by steps from some places, in at most so many steps. -/
def reached (next : List Nat → List Nat) : Nat → List Nat → List Nat
  | 0, places => places
  | steps + 1, places =>
    let more := mergedPlaces places (next places)
    if more.length = places.length then places else reached next steps more

mutual

/-- The places in order at which a part may end, given those at which it may start. -/
def step (text : Array Char) : Wildcard → List Nat → List Nat
  | .many, [] => []
  | .many, first :: _ => (List.range (text.size + 1 - first)).map (· + first)
  | .group sign patterns, places =>
    match sign with
    | .single => stepAny text patterns places
    | .optional => mergedPlaces places (stepAny text patterns places)
    | .present => reached (stepAny text patterns) (text.size + 1) (stepAny text patterns places)
    | .repeated => reached (stepAny text patterns) (text.size + 1) places
    | .absent =>
      places.foldl (fun found place =>
        let refused := stepAny text patterns [place]
        let others := (List.range (text.size + 1 - place)).map (· + place)
        mergedPlaces found (others.filter fun n => !refused.contains n)) []
  | .byte d, places => places.filterMap fun n =>
    match text[n]? with
    | some c => if c == d then some (n + 1) else none
    | none => none
  | .any, places => places.filterMap fun n => if n < text.size then some (n + 1) else none
  | .oneOf negated items, places => places.filterMap fun n =>
    match text[n]? with
    | some c => if accepts (.oneOf negated items) c then some (n + 1) else none
    | none => none

/-- The places in order at which a pattern may end. -/
def stepAll (text : Array Char) : List Wildcard → List Nat → List Nat
  | [], places => places
  | part :: rest, places => stepAll text rest (step text part places)

/-- The places in order at which one of some patterns may end. -/
def stepAny (text : Array Char) : List (List Wildcard) → List Nat → List Nat
  | [], _ => []
  | pattern :: rest, places => mergedPlaces (stepAll text pattern places) (stepAny text rest places)

end

/-- The places up to which a text may fit from its start on, in order. -/
def endings (pattern : List Wildcard) (text : Bytes) : List Nat := stepAll text.toArray pattern [0]

/-- Whether a text fits. -/
def fits (pattern : List Wildcard) (text : Bytes) : Bool :=
  (endings pattern text).getLast? == some text.length

mutual

/-- A part of a pattern for texts that are read from their end on. -/
def mirroredPart : Wildcard → Wildcard
  | .group sign patterns => .group sign (mirroredAny patterns)
  | .byte c => .byte c
  | .any => .any
  | .many => .many
  | .oneOf negated items => .oneOf negated items

/-- A pattern for texts that are read from their end on. -/
def mirrored : List Wildcard → List Wildcard
  | [] => []
  | part :: rest => mirrored rest ++ [mirroredPart part]

/-- Patterns for texts that are read from their end on. -/
def mirroredAny : List (List Wildcard) → List (List Wildcard)
  | [] => []
  | pattern :: rest => mirrored pattern :: mirroredAny rest

end

/-- A text without what fits at its start or at its end, the shortest or the longest of it. -/
def trimmed (pattern : List Wildcard) (atEnd longest : Bool) (text : Bytes) : Bytes :=
  if atEnd then
    let reversed := endings (mirrored pattern) text.reverse
    match if longest then reversed.getLast? else reversed.head? with
    | some n => text.take (text.length - n)
    | none => text
  else
    let found := endings pattern text
    match if longest then found.getLast? else found.head? with
    | some n => text.drop n
    | none => text

/-- A text with what fits replaced, from one place or from any, given what was done before, last
first, in at most so many steps. -/
def replaced (pattern : List Wildcard) (every : Bool) (other : Bytes → Bytes) :
    Nat → Bytes → Bytes → Bytes
  | 0, done, rest => done.reverse ++ rest
  | steps + 1, done, rest =>
    match (endings pattern rest).getLast? with
    | some (n + 1) =>
      let done := (other (rest.take (n + 1))).reverse ++ done
      let rest := rest.drop (n + 1)
      if every then replaced pattern every other steps done rest else done.reverse ++ rest
    | _ =>
      match rest with
      | c :: rest => replaced pattern every other steps (c :: done) rest
      | [] => done.reverse

/-! ## Paths -/

/-- How paths are looked for. -/
structure PathRules where
  /-- How the names in the paths are read. -/
  names : WildcardRules := {}
  /-- Whether the names of a directory in itself, and of the one around it, are among the names. -/
  dots : Bool := false
  /-- Whether names that start with a dot need not be asked for by a dot. -/
  hidden : Bool := false

/-- Whether bytes have wildcards. -/
def isActive (groups : Bool) : List Mark → Bool
  | [] => false
  | mark :: rest =>
    (!mark.quoted && (['*', '?', '['].contains mark.byte
      || (groups && (groupAt? mark.byte rest).isSome))) || isActive groups rest

/-- The pieces of a pattern between slashes. -/
def pieces (current : List Mark) : List Mark → List (List Mark)
  | [] => [current.reverse]
  | mark :: rest =>
    if mark.byte = '/' then current.reverse :: pieces [] rest else pieces (mark :: current) rest

/-- A byte before which no backslash has a meaning. -/
def literally (marks : List Mark) : List Mark :=
  marks.map fun mark => if mark.byte = '\\' then { mark with quoted := true } else mark

/-- Bytes as a path. -/
def pathOfBytes (bytes : Bytes) : Path := ⟨textOf bytes⟩

/-- The names in a directory that fit a piece. -/
def namesIn (rules : PathRules) (disk : Disk) (cwd : Path) (before : Bytes) (piece : List Mark) :
    List Bytes :=
  let directory := if before.isEmpty then ['.'] else before
  match disk.find cwd (pathOfBytes directory) with
  | .ok (.directory place) =>
    let pattern := read rules.names (literally piece)
    let asked := rules.hidden || (piece.head?.map (·.byte)) == some '.'
    let all := (if rules.dots then [".", ".."] else []) ++ disk.names place
    (all.map bytesOf).filter fun name => (name.head? != some '.' || asked) && fits pattern name
  | _ => []

/-- The paths that fit pieces, each after one of the beginnings. A name that starts with a dot has to be
asked for by a dot. -/
def walk (rules : PathRules) (disk : Disk) (cwd : Path) (before : Bytes) : List (List Mark) → List Bytes
  | [] => []
  | [last] =>
    if isActive rules.names.groups last then (namesIn rules disk cwd before last).map (before ++ ·)
    else
      let path := before ++ bytesOfMarks last
      let found := match disk.search false cwd (pathOfBytes path) with
        | .ok (.vacant _) => false
        | .ok _ => true
        | .error _ => false
      if found then [path] else []
  | piece :: rest =>
    if isActive rules.names.groups piece then
      (namesIn rules disk cwd before piece).flatMap fun name =>
        let path := before ++ name
        match disk.find cwd (pathOfBytes path) with
        | .ok (.directory _) => walk rules disk cwd (path ++ ['/']) rest
        | _ => []
    else walk rules disk cwd (before ++ bytesOfMarks piece ++ ['/']) rest

/-- The paths that fit a pattern, in order; none if the pattern has no wildcards or nothing fits. -/
def paths (rules : PathRules) (disk : Disk) (cwd : Path) (marks : List Mark) : List Bytes :=
  if isActive rules.names.groups marks then
    (walk rules disk cwd [] (pieces [] marks)).mergeSort bytesBefore
  else []

end Wildcard

end FormatChain.Shell
