import FormatChain.Regex.Basic

/-!
# Where patterns fit

Of all places at which a pattern fits, the leftmost counts, and of all texts there the longest.  The
length is found by going along the text with all ways of fitting at once; a way is the list of the
patterns that are still to fit.  What groups fitted is found afterwards, by trying the ways one after
the other until one fits the whole length, each repetition as often as it can at first.

* `Regex.longest?` : the length of the longest fit at the start of a text.
* `Regex.groupsOf?` : what groups fitted in a fit of a known length.
* `Regex.find?`, `Fit` : the leftmost longest fit.
-/

namespace FormatChain

namespace Regex

/-- What stands around a place. -/
structure Around where
  /-- The byte before it. -/
  before : Option Char
  /-- The bytes after it. -/
  after : List Char
  /-- The byte that ends lines inside the text, if one does. -/
  lineMark : Option Char := none

/-- Whether a place is of a kind. -/
def Edge.fits (a : Around) (e : Edge) : Bool :=
  let left := (a.before.map isWordByte).getD false
  let right := (a.after.head?.map isWordByte).getD false
  match e with
  | .lineStart => a.before.isNone || (a.lineMark.isSome && a.before == a.lineMark)
  | .lineEnd => a.after.isEmpty || (a.lineMark.isSome && a.after.head? == a.lineMark)
  | .textStart => a.before.isNone
  | .textEnd => a.after.isEmpty
  | .wordStart => !left && right
  | .wordEnd => left && !right
  | .wordEdge => left != right
  | .noWordEdge => left == right

/-- The patterns that are still to fit, in order. -/
abbrev Way := List Regex

/-- One time less of a repetition. -/
def lessOne (least : Nat) (most : Option Nat) (r : Regex) : Regex :=
  .repeated r (least - 1) (most.map (· - 1))

/-- All ways that begin with a byte, and the one of no patterns, that come from ways without going
on in the text; `known` were met before. In at most so many steps. -/
def spread (a : Around) : Nat → List Way → List Way → List Way → List Way
  | 0, _, found, _ => found
  | _, _, found, [] => found
  | steps + 1, known, found, way :: rest =>
    if known.contains way then spread a steps known found rest
    else
      let known := way :: known
      match way with
      | [] => spread a steps known (way :: found) rest
      | first :: others =>
        match first with
        | .empty => spread a steps known found (others :: rest)
        | .any => spread a steps known (way :: found) rest
        | .oneOf _ _ => spread a steps known (way :: found) rest
        | .edge e => spread a steps known found (if Edge.fits a e then others :: rest else rest)
        | .group _ r => spread a steps known found ((r :: others) :: rest)
        | .again _ => spread a steps known found rest
        | .seq x y => spread a steps known found ((x :: y :: others) :: rest)
        | .either x y => spread a steps known found ((x :: others) :: (y :: others) :: rest)
        | .repeated r least most =>
          if most = some 0 then spread a steps known found (others :: rest)
          else if 0 < least then
            spread a steps known found ((r :: lessOne least most r :: others) :: rest)
          else
            spread a steps known found
              ((r :: lessOne 0 most r :: others) :: others :: rest)

/-- How many steps are enough for all ways of usual patterns. -/
def spreadLimit : Nat := 100000

/-- Whether a pattern of one byte fits a byte. -/
def takes (r : Regex) (c : Char) : Bool :=
  match r with
  | .any => true
  | .oneOf ranges inside => ranges.any (·.holds c) == inside
  | _ => false

/-- The ways after a byte. -/
def stepWays (c : Char) (ways : List Way) : List Way :=
  ways.filterMap fun way =>
    match way with
    | first :: others => if first.takes c then some others else none
    | [] => none

/-- The length of the longest fit, given how long the text read before is, the ways, and the longest
fit found before. -/
def longestFrom (lineMark : Option Char) (length : Nat) (found : Option Nat) (before : Option Char)
    (ways : List Way) : List Char → Option Nat
  | [] =>
    let all := spread ⟨before, [], lineMark⟩ spreadLimit [] [] ways
    if all.contains [] then some length else found
  | c :: rest =>
    let all := spread ⟨before, c :: rest, lineMark⟩ spreadLimit [] [] ways
    let found := if all.contains [] then some length else found
    match stepWays c all with
    | [] => found
    | next => longestFrom lineMark (length + 1) found (some c) next rest

/-! ## Groups -/

/-- What is still to be done on one way. -/
inductive Task where
  /-- A pattern has to fit. -/
  | fit (r : Regex)
  /-- A group that began at a place ends. -/
  | close (n start : Nat)
  /-- A repetition that began at a place goes on, if it got on. -/
  | more (r : Regex) (least : Nat) (most : Option Nat) (start : Nat)

/-- What groups fitted: their numbers with the places of their starts and ends. -/
abbrev Groups := List (Nat × Nat × Nat)

/-- The first way that ends at a place, with what groups fitted. The text is given as a whole, and
from the place on. In at most so many steps on each way. -/
def firstWay (whole : List Char) (lineMark : Option Char) (fold : Bool) (stop : Nat) :
    Nat → List Task → Groups → Option Char → Nat → List Char → Option Groups
  | 0, _, _, _, _, _ => none
  | _, [], groups, _, place, _ => if place = stop then some groups else none
  | steps + 1, task :: tasks, groups, before, place, text =>
    let go tasks groups := firstWay whole lineMark fold stop steps tasks groups before place text
    match task with
    | .close n start => go tasks ((n, start, place) :: groups.filter fun g => g.1 != n)
    | .more r least most start =>
      if place = start && least = 0 then none
      else go (.fit (.repeated r least most) :: tasks) groups
    | .fit r =>
      match r with
      | .empty => go tasks groups
      | .any => one r text steps tasks groups place
      | .oneOf _ _ => one r text steps tasks groups place
      | .edge e => if Edge.fits ⟨before, text, lineMark⟩ e then go tasks groups else none
      | .group n r => go (.fit r :: .close n place :: tasks) groups
      | .seq a b => go (.fit a :: .fit b :: tasks) groups
      | .either a b => go (.fit a :: tasks) groups <|> go (.fit b :: tasks) groups
      | .repeated r least most =>
        if most = some 0 then go tasks groups
        else
          let onward := go (.fit r :: .more r (least - 1) (most.map (· - 1)) place :: tasks) groups
          if 0 < least then onward else onward <|> go tasks groups
      | .again n =>
        match groups.find? fun g => g.1 == n with
        | none => none
        | some (_, start, finish) =>
          let wanted := (whole.drop start).take (finish - start)
          let there := text.take wanted.length
          let same := if fold then there.map Char.toLower = wanted.map Char.toLower
            else there = wanted
          if same then
            firstWay whole lineMark fold stop steps tasks groups
              (there.getLast?.or before) (place + wanted.length) (text.drop wanted.length)
          else none
where
  /-- Goes on after one byte. -/
  one (r : Regex) (text : List Char) (steps : Nat) (tasks : List Task) (groups : Groups)
      (place : Nat) : Option Groups :=
    match text with
    | c :: rest =>
      if place < stop && r.takes c then
        firstWay whole lineMark fold stop steps tasks groups (some c) (place + 1) rest
      else none
    | [] => none

/-- How many steps are enough for a way over so many bytes. -/
def wayLimit (length : Nat) : Nat := 64 * (length + 64)

end Regex

/-- A compiled pattern. -/
structure Pattern where
  /-- The pattern. -/
  regex : Regex
  /-- Whether capital and small letters are the same. -/
  fold : Bool := false
  /-- The byte that ends lines inside a text, if one does. -/
  lineMark : Option Char := none
  /-- The number of groups. -/
  groups : Nat := 0
  deriving Repr, Inhabited

/-- A fit of a pattern. -/
structure Match where
  /-- Where it starts. -/
  start : Nat
  /-- Where it ends. -/
  stop : Nat
  /-- What groups fitted: their numbers with the places of their starts and ends. -/
  groups : Regex.Groups := []
  deriving Repr, Inhabited

namespace Pattern

open Regex

/-- The groups of a fit from a place to another one. -/
def groupsOf? (p : Pattern) (whole : List Char) (start stop : Nat) (before : Option Char)
    (text : List Char) : Option Groups :=
  firstWay whole p.lineMark p.fold stop (wayLimit whole.length) [.fit p.regex] [] before start text

/-- The groups and the end of the longest fit that starts at a place and ends not after another. -/
def longestTried (p : Pattern) (whole : List Char) (start : Nat) (before : Option Char)
    (text : List Char) : Nat → Option Match
  | 0 => (p.groupsOf? whole start start before text).map fun groups => ⟨start, start, groups⟩
  | more + 1 =>
    match p.groupsOf? whole start (start + more + 1) before text with
    | some groups => some ⟨start, start + more + 1, groups⟩
    | none => longestTried p whole start before text more

/-- The longest fit at a place, with its groups if these are asked for. -/
def at? (p : Pattern) (wantGroups : Bool) (whole : List Char) (start : Nat) (before : Option Char)
    (text : List Char) : Option Match :=
  if p.regex.refersBack then p.longestTried whole start before text text.length
  else
    match longestFrom p.lineMark 0 none before [[p.regex]] text with
    | none => none
    | some length =>
      let groups :=
        if wantGroups && p.groups > 0 then
          (p.groupsOf? whole start (start + length) before text).getD []
        else []
      some ⟨start, start + length, groups⟩

/-- The leftmost longest fit from a place on. -/
def findAfter (p : Pattern) (wantGroups : Bool) (whole : List Char) (start : Nat)
    (before : Option Char) : List Char → Option Match
  | [] => p.at? wantGroups whole start before []
  | c :: rest =>
    match p.at? wantGroups whole start before (c :: rest) with
    | some found => some found
    | none => findAfter p wantGroups whole (start + 1) (some c) rest

/-- The leftmost longest fit in a text that starts not before a place. -/
def find? (p : Pattern) (wantGroups : Bool) (whole : List Char) (start : Nat) : Option Match :=
  findAfter p wantGroups whole start (if start = 0 then none else whole[start - 1]?)
    (whole.drop start)

/-- Whether the pattern fits somewhere in a text. -/
def fitsIn (p : Pattern) (whole : List Char) : Bool := (p.find? false whole 0).isSome

end Pattern

end FormatChain
