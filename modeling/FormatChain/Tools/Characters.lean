import FormatChain.Process.Escape
import FormatChain.Process.Options
import FormatChain.Regex.Basic

/-!
# Changing bytes

Bytes are changed by two lists, the one naming the bytes to be changed and the other what becomes of
them.  The lists are written with ranges, classes, repetitions and escapes.  A bracket after a backslash
begins no class.

* `SetPart`, `readSet` : a written list.
* `Lists` : the two lists together, and what is wrong with them.
* `translationTable`, `squeeze` : what can be done to bytes.
* `tr` : the command.
-/

namespace FormatChain.Tools

open FormatChain.Process

/-! ## Written lists -/

/-- A byte of a written list. -/
structure SetByte where
  /-- The byte. -/
  byte : Char
  /-- Whether it comes from an escape, and so stands for itself. -/
  escaped : Bool := false
  deriving DecidableEq

/-- Whether a byte of a written list has a meaning of its own. -/
def SetByte.is (b : SetByte) (c : Char) : Bool := b.byte = c && !b.escaped

/-- A part of a written list. -/
inductive SetPart where
  /-- A byte. -/
  | byte (c : Char)
  /-- Bytes in a row. -/
  | range (low high : Char)
  /-- The bytes of a class. -/
  | named (name : String) (members : List Char)
  /-- The bytes that count as the same as a byte. -/
  | alike (c : Char)
  /-- A byte so many times, or as often as it takes. -/
  | fill (c : Char) (times : Option Nat)
  deriving Repr, DecidableEq

/-- What is wrong with a written list. -/
abbrev SetFault := String

/-- The bytes from one to another. -/
def bytesBetween (low high : Char) : Bytes :=
  (List.range (high.toNat + 1 - low.toNat)).map fun i => Char.ofNat (low.toNat + i)

/-- All bytes. -/
def allBytes : Bytes := bytesBetween '\x00' (Char.ofNat 255)

/-- The byte that an escape stands for, after its backslash, and the rest. -/
def readSetEscape (text : Bytes) : SetByte × Bytes :=
  match text with
  | [] => (⟨'\\', false⟩, [])
  | c :: rest =>
    match letterEscape? c with
    | some byte => (⟨byte, true⟩, rest)
    | none =>
      if (octalDigit? c).isSome then
        match readDigits octalDigit? 8 3 0 0 text with
        | (value, 3, after) =>
          if value ≤ 255 then (⟨byteOfNat value, true⟩, after)
          else
            let (value, _, after) := readDigits octalDigit? 8 2 0 0 text
            (⟨byteOfNat value, true⟩, after)
        | (value, _, after) => (⟨byteOfNat value, true⟩, after)
      else (⟨c, true⟩, rest)

/-- The bytes of a written list, in at most so many steps. -/
def setBytesUpTo : Nat → Bytes → List SetByte
  | 0, _ => []
  | _, [] => []
  | steps + 1, '\\' :: rest =>
    let (byte, rest) := readSetEscape rest
    byte :: setBytesUpTo steps rest
  | steps + 1, c :: rest => ⟨c, false⟩ :: setBytesUpTo steps rest

/-- How a byte is shown in complaints. -/
def shownByte (c : Char) : String :=
  if isPrintByte c then String.singleton c
  else "\\" ++ String.ofList (padZeros 3 (octalText c.toNat))

/-- How bytes are shown in complaints. -/
def shownBytes (bytes : List SetByte) : String := String.join (bytes.map fun b => shownByte b.byte)

/-- The bytes up to a mark and a closing bracket, and the rest. -/
def untilClosing (mark : Char) : List SetByte → Option (List SetByte × List SetByte)
  | a :: b :: rest =>
    if a.is mark && b.is ']' then some ([], rest)
    else (untilClosing mark (b :: rest)).map fun (found, rest) => (a :: found, rest)
  | _ => none

/-- A byte repeated, after its opening bracket, and the rest; none if nothing is repeated. -/
def readFill? : List SetByte → Except SetFault (Option (SetPart × List SetByte))
  | c :: star :: rest =>
    if star.is '*' then
      let digits := rest.takeWhile fun b => !b.escaped && b.byte != ']'
      match rest.drop digits.length with
      | closing :: after =>
        if closing.is ']' then
          let text := digits.map (·.byte)
          let number : Option Nat :=
            if text.isEmpty then some 0
            else if text.head? = some '0' then
              match readDigits octalDigit? 8 text.length 0 0 text with
              | (n, _, []) => some n
              | _ => none
            else natOf? text
          match number with
          | some 0 => .ok (some (.fill c.byte none, after))
          | some n => .ok (some (.fill c.byte (some n), after))
          | none => .error s!"invalid repeat count {quoted (bytesOf (shownBytes digits))} in [c*n] construct"
        else .ok none
      | [] => .ok none
    else .ok none
  | _ => .ok none

/-- Whether a star, digits and a closing bracket begin the bytes. -/
def isFill (bytes : List SetByte) : Bool :=
  match bytes with
  | star :: rest =>
    star.is '*' && ((rest.dropWhile fun b => b.byte.isDigit).head?.map fun b => b.is ']').getD false
  | [] => false

/-- A class or its kind after an opening bracket, and the rest; none if there is none. -/
def readClass? : List SetByte → Except SetFault (Option (SetPart × List SetByte))
  | mark :: rest =>
    if mark.is ':' || mark.is '=' then
      match untilClosing mark.byte rest with
      | none => .ok none
      | some (name, after) =>
        let text := String.ofList (name.map (·.byte))
        if name.isEmpty then
          .error (if mark.byte = ':' then "missing character class name '[::]'"
            else "missing equivalence class character '[==]'")
        else if mark.byte = ':' then
          match Regex.nameSet? text with
          | some ranges => .ok (some (.named text (allBytes.filter fun c => ranges.any (·.holds c)), after))
          | none =>
            if isFill rest then .ok none
            else .error s!"invalid character class {quoted (bytesOf (shownBytes name))}"
        else
          match name with
          | [c] => .ok (some (.alike c.byte, after))
          | _ =>
            if isFill rest then .ok none
            else .error s!"{shownBytes name}: equivalence class operand must be a single character"
    else .ok none
  | [] => .ok none

/-- A byte or a range at the start, and the rest. -/
def readRange : List SetByte → Except SetFault (Option (SetPart × List SetByte))
  | low :: dash :: high :: rest =>
    if dash.is '-' then
      if high.byte < low.byte then
        .error
          s!"range-endpoints of '{shownByte low.byte}-{shownByte high.byte}' are in reverse collating sequence order"
      else .ok (some (.range low.byte high.byte, rest))
    else .ok (some (.byte low.byte, dash :: high :: rest))
  | c :: rest => .ok (some (.byte c.byte, rest))
  | [] => .ok none

/-- The part at the start, and the rest; none at the end. -/
def readPart (bytes : List SetByte) : Except SetFault (Option (SetPart × List SetByte)) := do
  match bytes with
  | opening :: a :: b :: rest =>
    if opening.is '[' then
      match ← readClass? (a :: b :: rest) with
      | some found => return some found
      | none =>
        match ← readFill? (a :: b :: rest) with
        | some found => return some found
        | none => readRange bytes
    else readRange bytes
  | _ => readRange bytes

/-- The parts of a written list, in at most so many steps. -/
def readPartsUpTo : Nat → List SetByte → Except SetFault (List SetPart)
  | 0, _ => .ok []
  | steps + 1, bytes => do
    match ← readPart bytes with
    | none => return []
    | some (part, rest) => return part :: (← readPartsUpTo steps rest)

/-- The parts of a written list. -/
def readSet (bytes : Bytes) : Except SetFault (List SetPart) :=
  readPartsUpTo (bytes.length + 1) (setBytesUpTo (bytes.length + 1) bytes)

/-- The bytes of a part, a byte without a number so many times. -/
def SetPart.bytes (times : Nat) : SetPart → Bytes
  | .byte c => [c]
  | .range low high => bytesBetween low high
  | .named _ members => members
  | .alike c => [c]
  | .fill c n => List.replicate (n.getD times) c

/-- How many bytes a part has, a byte without a number counting so often. -/
def SetPart.size (times : Nat) : SetPart → Nat
  | .byte _ => 1
  | .range low high => high.toNat + 1 - low.toNat
  | .named _ members => members.length
  | .alike _ => 1
  | .fill _ n => n.getD times

/-- How many bytes parts have. -/
def sizeOfParts (times : Nat) (parts : List SetPart) : Nat :=
  parts.foldl (fun n part => n + part.size times) 0

/-- The bytes of parts. -/
def bytesOfParts (parts : List SetPart) : Bytes := parts.flatMap (SetPart.bytes 0)

/-- All other bytes. -/
def otherBytes (members : Bytes) : Bytes := allBytes.filter fun c => !members.contains c

/-- Whether a part is a byte repeated as often as it takes. -/
def SetPart.isOpenFill : SetPart → Bool
  | .fill _ none => true
  | _ => false

/-- Whether a part is a class with a name. -/
def SetPart.isClass : SetPart → Bool
  | .named _ _ => true
  | _ => false

/-- The size of letters that a class stands for. -/
def SetPart.letterCase? : SetPart → Option Bool
  | .named "upper" _ => some true
  | .named "lower" _ => some false
  | _ => none

/-! ## Two lists -/

/-- Two lists with which bytes are changed. -/
structure Lists where
  /-- The bytes to be changed. -/
  first : List SetPart
  /-- What becomes of them. -/
  second : List SetPart
  /-- Whether all bytes but the first ones are changed. -/
  complemented : Bool
  /-- Whether the first list is cut to the length of the second. -/
  truncated : Bool

/-- The parts without those at the start that have no bytes. -/
def dropEmptyParts (parts : List SetPart) : List SetPart := parts.dropWhile fun part => part.size 0 = 0

/-- Whether a class of letters in the second list stands where none begins in the first, in at most so
many steps; `a` and `b` are how many bytes of the parts at the start were taken. -/
def misaligned : Nat → List SetPart → Nat → List SetPart → Nat → Bool
  | 0, _, _, _, _ => false
  | steps + 1, first, a, second, b =>
    match dropEmptyParts first, dropEmptyParts second with
    | _, [] => false
    | first, s :: second =>
      let firstHere := first.head?
      let secondCase := s.letterCase?
      if b = 0 && secondCase.isSome && !(a = 0 && (firstHere.bind SetPart.letterCase?).isSome) then true
      else
        match firstHere with
        | none => false
        | some f =>
          let next (parts : List SetPart) (part : SetPart) (taken : Nat) : List SetPart × Nat :=
            if taken + 1 < part.size 0 then (parts, taken + 1) else (parts.drop 1, 0)
          let (first', a') := if secondCase.isSome then (first.drop 1, 0) else next first f a
          let (second', b') := if secondCase.isSome then (second, 0) else next (s :: second) s b
          misaligned steps first' a' second' b'

/-- The letters of one size with those of the other. -/
def letterPairs (capital : Bool) : List (Char × Char) :=
  if capital then (bytesBetween 'A' 'Z').map fun c => (c, c.toLower)
  else (bytesBetween 'a' 'z').map fun c => (c, c.toUpper)

/-- The pairs of bytes of both lists, the last ones first, in at most so many steps. Classes of letters
against each other change letters; all else goes byte by byte. `a` and `b` are how many bytes of the
parts at the start were taken. -/
def pairsOf : Nat → List SetPart → Nat → List SetPart → Nat → List (List (Char × Char)) →
    List (List (Char × Char))
  | 0, _, _, _, _, done => done
  | steps + 1, first, a, second, b, done =>
    match dropEmptyParts first, dropEmptyParts second with
    | f :: first, s :: second =>
      match s.letterCase? with
      | some wanted =>
        let made := match f.letterCase? with
          | some given =>
            if given = wanted then [((f.bytes 0).headD '\x00', (s.bytes 0).headD '\x00')]
            else letterPairs given
          | none => []
        pairsOf steps first 0 second 0 (made :: done)
      | none =>
        let count := min (f.size 0 - a) (s.size 0 - b)
        let made := (((f.bytes 0).drop a).take count).zip (((s.bytes 0).drop b).take count)
        let (first, a) := if a + count < f.size 0 then (f :: first, a + count) else (first, 0)
        let (second, b) := if b + count < s.size 0 then (s :: second, b + count) else (second, 0)
        pairsOf steps first a second b (made :: done)
    | _, _ => done

/-- How many bytes the first list names. -/
def Lists.length (l : Lists) : Nat :=
  if l.complemented then (otherBytes (bytesOfParts l.first)).length else sizeOfParts 0 l.first

/-- The second list with a byte repeated as often as it takes. -/
def Lists.filled (l : Lists) : Lists :=
  let missing := l.length - sizeOfParts 0 l.second
  { l with second := l.second.map fun part =>
      match part with
      | .fill c none => .fill c (some missing)
      | part => part }

/-- How many bytes both lists name when classes of letters that stand against each other count once. -/
def Lists.reduced (l : Lists) : Nat × Nat :=
  if l.complemented || !l.second.any SetPart.isClass then (l.length, sizeOfParts 0 l.second)
  else
    let cases := (l.second.filter fun part => part.letterCase?.isSome).length
    (l.length - 25 * cases, sizeOfParts 0 l.second - 25 * cases)

/-- The last byte of a list, or why it cannot be repeated. -/
def lastOfSet (parts : List SetPart) : Except SetFault Char :=
  match parts.getLast? with
  | some (.byte c) => .ok c
  | some (.range _ high) => .ok high
  | some (.fill c _) => .ok c
  | some (.alike c) => .ok c
  | _ => .error
    "when translating with string1 longer than string2,\nthe latter string must not end with a character class"

/-- The lists made ready for changing bytes, the second one filled up with its last byte, or what is
wrong with them. -/
def Lists.ready (l : Lists) : Except SetFault Lists := do
  let opens := (l.second.filter SetPart.isOpenFill).length
  if opens > 1 then throw "only one [c*] repeat construct may appear in string2"
  let l := l.filled
  if l.second.any fun part => part matches .alike _ then
    throw "[=c=] expressions may not appear in string2 when translating"
  if l.second.any fun part => part.isClass && part.letterCase?.isNone then
    throw "when translating, the only character classes that may appear in\nstring2 are 'upper' and 'lower'"
  if !l.complemented && l.second.any SetPart.isClass
      && misaligned (l.length + sizeOfParts 0 l.second + 2) l.first 0 l.second 0 then
    throw "misaligned [:upper:] and/or [:lower:] construct"
  let (long, short) := l.reduced
  let l ← if short < long && !l.truncated then do
      if short = 0 then throw "when not truncating set1, string2 must be non-empty"
      let last ← lastOfSet l.second
      pure { l with second := l.second ++ [.fill last (some (long - short))] }
    else pure l
  if l.complemented && l.first.any SetPart.isClass then
    let bytes := bytesOfParts l.second
    if bytes.length != l.length || bytes.any fun c => some c != bytes.head? then
      throw
        "when translating with complemented character classes,\nstring2 must map all characters in the domain to one"
  return l

/-- The pairs of bytes that lists made ready stand for. -/
def Lists.pairs (l : Lists) : List (Char × Char) :=
  if l.complemented then (otherBytes (bytesOfParts l.first)).zip (bytesOfParts l.second)
  else
    (pairsOf (sizeOfParts 0 l.first + sizeOfParts 0 l.second + 2) l.first 0 l.second 0 []).reverse.flatten

/-! ## Changing -/

/-- The table of what becomes of each byte. The last place at which it is named counts. -/
def translationTable (pairs : List (Char × Char)) : Array Char :=
  pairs.foldl (fun table (a, b) => table.setIfInBounds a.toNat b) allBytes.toArray

/-- Changes every byte by a table. -/
def translate (table : Array Char) (bytes : Bytes) : Bytes :=
  bytes.map fun c => table.getD c.toNat c

/-- Makes one out of equal bytes next to each other; `done` holds what was read before, last first. -/
def squeezeFrom (members : Array Bool) (done : Bytes) : Bytes → Bytes
  | [] => done.reverse
  | c :: rest =>
    if done.head? = some c && members.getD c.toNat false then squeezeFrom members done rest
    else squeezeFrom members (c :: done) rest

/-- Whether each byte is a member. -/
def membership (members : Bytes) : Array Bool := (allBytes.map members.contains).toArray

/-- Makes one out of equal bytes next to each other. -/
def squeeze (members bytes : Bytes) : Bytes := squeezeFrom (membership members) [] bytes

/-- What is wrong with how many lists are given, if something is. -/
def operandFault? (deletes squeezes : Bool) (sets : List Bytes) : Option String :=
  let least := if deletes == squeezes then 2 else 1
  let most := if deletes && !squeezes then 1 else 2
  if sets.length < least then
    match sets.getLast? with
    | none => some "missing operand"
    | some one =>
      let why := if squeezes then "Two strings must be given when both deleting and squeezing repeats."
        else "Two strings must be given when translating."
      some s!"missing operand after {quoted one}\n{why}"
  else if sets.length > most then
    let extra := s!"extra operand {quoted (sets.getD most [])}"
    some (if sets.length = 2 then
      extra ++ "\nOnly one string may be given when deleting without squeezing repeats."
      else extra)
  else none

/-- The change that lists ask for, or what is wrong with them. -/
def changeOf (deletes squeezes : Bool) (l : Lists) (two : Bool) : Except SetFault (Bytes → Bytes) := do
  if l.first.any SetPart.isOpenFill then
    throw "the [c*] repeat construct may not appear in string1"
  let named := bytesOfParts l.first
  let meant := membership (if l.complemented then otherBytes named else named)
  let isMeant (c : Char) : Bool := meant.getD c.toNat false
  if two && !deletes then
    let l ← l.ready
    let table := translationTable l.pairs
    return if squeezes then fun bytes => squeeze (bytesOfParts l.second) (translate table bytes)
      else translate table
  else
    if two && l.second.any SetPart.isOpenFill then
      throw "the [c*] construct may appear in string2 only when translating"
    return fun bytes =>
      let left := if deletes then bytes.filter fun c => !isMeant c else bytes
      if !squeezes then left
      else if two then squeeze (bytesOfParts l.second) left
      else squeezeFrom meant [] left

/-- Changes, removes or squeezes bytes. -/
def tr : Program := fun j =>
  let rules : OptionRules := {
    letters := "AcCdst"
    words := [("complement", 'c'), ("delete", 'd'), ("squeeze-repeats", 's'), ("truncate-set1", 't')]
    first := true }
  j.withOptions 1 rules fun given sets => do
    let deletes := has given 'd'
    let squeezes := has given 's'
    match operandFault? deletes squeezes sets with
    | some fault => j.misused 1 fault
    | none =>
      match readSet (sets.headD []), readSet (sets.getD 1 []) with
      | .error fault, _ => j.fail 1 fault
      | _, .error fault => j.fail 1 fault
      | .ok first, .ok second =>
        let l : Lists := {
          first, second, complemented := has given 'c' || has given 'C', truncated := has given 't' }
        match changeOf deletes squeezes l (sets.length = 2) with
        | .error fault => j.fail 1 fault
        | .ok change =>
          Running.write (change (← Running.takeInput))
          return success

end FormatChain.Tools
