import FormatChain.Regex.Search

/-!
# Patterns whose ways are tried in order

A pattern may say in which order its ways of fitting are tried; the first one that fits counts, be it
long or short.  Such a pattern may also look at what stands around a place without taking it, give up
the ways that are left once a part of it fits, and use one of its groups again.

* `OrderedRegex` : patterns with an order of their ways.
* `OrderedRegex.width?` : the length of all texts that a pattern fits, if they have one length.
* `OrderedPattern.at?`, `OrderedPattern.find?` : the first way that fits.
-/

namespace FormatChain

/-- Which number of times a repetition tries first. -/
inductive Taste where
  /-- As many as it can. -/
  | greedy
  /-- As few as it can. -/
  | lazy
  /-- As many as it can, and no other one. -/
  | possessive
  deriving Repr, DecidableEq

/-- Where a search goes on that gave its ways up. -/
inductive Cut where
  /-- At the next place. -/
  | next
  /-- At the place of the cut. -/
  | here
  /-- Nowhere. -/
  | nowhere
  deriving Repr, DecidableEq

/-- A pattern with an order of its ways. -/
inductive OrderedRegex where
  /-- Nothing at all. -/
  | empty
  /-- A byte in one of the ranges, or in none of them. -/
  | oneOf (ranges : List ByteRange) (inside : Bool)
  /-- A place. -/
  | edge (e : Edge)
  /-- The end of everything, or of the line that ends there. -/
  | lastLine
  /-- The place where the search began. -/
  | origin
  /-- What fits is remembered under a number. -/
  | group (n : Nat) (r : OrderedRegex)
  /-- What a group fitted, once more; whether capital and small letters are the same. -/
  | again (n : Nat) (fold : Bool)
  /-- One pattern after the other. -/
  | seq (first second : OrderedRegex)
  /-- One of two patterns, the first one if it fits. -/
  | either (first second : OrderedRegex)
  /-- A pattern repeated at least so often, and at most so often. -/
  | repeated (r : OrderedRegex) (least : Nat) (most : Option Nat) (taste : Taste)
  /-- A pattern of which only the first way is tried. -/
  | single (r : OrderedRegex)
  /-- A pattern that fits from here on, or does not. -/
  | ahead (wanted : Bool) (r : OrderedRegex)
  /-- A pattern that fits the bytes before, so many of them, or does not. -/
  | behind (width : Nat) (wanted : Bool) (r : OrderedRegex)
  /-- What fits begins here. -/
  | begins
  /-- One pattern if a group fitted something, and another one if not. -/
  | ifGroup (n : Nat) (yes no : OrderedRegex)
  /-- One pattern if another one fits here, and another one if not. -/
  | ifFits (test yes no : OrderedRegex)
  /-- Groups that are only used elsewhere. -/
  | defined (r : OrderedRegex)
  /-- The pattern of a group once more, or all of it. -/
  | call (n : Nat)
  /-- No other way is tried from here back; the search goes on at the next place, or here, or not at
  all. -/
  | cut (c : Cut)
  deriving Repr, Inhabited

namespace OrderedRegex

/-- A byte as a pattern. -/
def byte (c : Char) : OrderedRegex := .oneOf [⟨c, c⟩] true

/-- Patterns one after the other. -/
def sequence : List OrderedRegex → OrderedRegex
  | [] => .empty
  | [r] => r
  | r :: rest => .seq r (sequence rest)

/-- One of some patterns. -/
def choice : List OrderedRegex → OrderedRegex
  | [] => .empty
  | [r] => r
  | r :: rest => .either r (choice rest)

/-- The length of all texts that a pattern fits, if they have one length. -/
def width? : OrderedRegex → Option Nat
  | .oneOf _ _ => some 1
  | .group _ r => r.width?
  | .again _ _ => none
  | .seq a b => do return (← a.width?) + (← b.width?)
  | .either a b => do
    let left ← a.width?
    let right ← b.width?
    if left = right then some left else none
  | .repeated r least most _ =>
    if most = some least then r.width?.map (· * least) else none
  | .single r => r.width?
  | .ifGroup _ yes no => do
    let left ← yes.width?
    let right ← no.width?
    if left = right then some left else none
  | .ifFits _ yes no => do
    let left ← yes.width?
    let right ← no.width?
    if left = right then some left else none
  | .call _ => none
  | _ => some 0

/-- The branches of a pattern. -/
def branches : OrderedRegex → List OrderedRegex
  | .either a b => a.branches ++ b.branches
  | r => [r]

/-- The groups of a pattern, by number. -/
def groups : OrderedRegex → List (Nat × OrderedRegex)
  | .group n r => (n, r) :: r.groups
  | .seq a b => a.groups ++ b.groups
  | .either a b => a.groups ++ b.groups
  | .repeated r _ _ _ => r.groups
  | .single r => r.groups
  | .ahead _ r => r.groups
  | .behind _ _ r => r.groups
  | .ifGroup _ yes no => yes.groups ++ no.groups
  | .ifFits test yes no => test.groups ++ yes.groups ++ no.groups
  | .defined r => r.groups
  | _ => []

/-- How many parts a pattern has. -/
def size : OrderedRegex → Nat
  | .group _ r => r.size + 1
  | .seq a b => a.size + b.size + 1
  | .either a b => a.size + b.size + 1
  | .repeated r _ _ _ => r.size + 1
  | .single r => r.size + 1
  | .ahead _ r => r.size + 1
  | .behind _ _ r => r.size + 1
  | .ifGroup _ yes no => yes.size + no.size + 1
  | .ifFits test yes no => test.size + yes.size + no.size + 1
  | .defined r => r.size + 1
  | _ => 1

/-! ## Trying -/

/-- What is still to be done on one way. -/
inductive Duty where
  /-- A pattern has to fit. -/
  | fit (r : OrderedRegex)
  /-- A group that began at a place ends. -/
  | close (n start : Nat)
  /-- A repetition that began at a place goes on, if it got on. -/
  | more (r : OrderedRegex) (least : Nat) (most : Option Nat) (taste : Taste) (start : Nat)
  /-- The groups are as they were. -/
  | restore (groups : Regex.Groups)

/-- What stays the same while ways are tried. -/
structure Trying where
  /-- The text. -/
  whole : List Char
  /-- Where the search began. -/
  origin : Nat
  /-- The patterns of the groups, and of all under zero. -/
  parts : List (Nat × OrderedRegex)

/-- How far a way is. -/
structure Progress where
  /-- Where what fits begins. -/
  start : Nat
  /-- Where the way is. -/
  place : Nat
  /-- What groups fitted. -/
  groups : Regex.Groups := []
  deriving Inhabited

/-- Why no way fits. -/
inductive Verdict where
  /-- All were tried. -/
  | failed
  /-- The ways were given up, and the search goes on at a place. -/
  | onAt (place : Nat)
  /-- The ways were given up, and the search is over. -/
  | over

/-- What becomes of trying ways. -/
abbrev Trial := Except Verdict Progress

/-- The second trial if all ways of the first one were tried. -/
def Trial.orTry (first : Trial) (second : Unit → Trial) : Trial :=
  match first with
  | .error .failed => second ()
  | result => result

/-- The byte before a place. -/
def Trying.byteBefore (t : Trying) (place : Nat) : Option Char :=
  if place = 0 then none else t.whole[place - 1]?

/-- The first way that fits, in at most so many steps on each way. The text is given from the place of
the way on. -/
def firstFit (t : Trying) : Nat → List Duty → Progress → Option Char → List Char → Trial
  | 0, _, _, _, _ => .error .failed
  | _, [], p, _, _ => .ok p
  | steps + 1, duty :: duties, p, before, text =>
    let go duties (p : Progress) := firstFit t steps duties p before text
    let jump duties (p : Progress) :=
      firstFit t steps duties p (t.byteBefore p.place) (t.whole.drop p.place)
    let inside (r : OrderedRegex) := firstFit t steps [.fit r] p before text
    match duty with
    | .close n start =>
      go duties { p with groups := (n, start, p.place) :: p.groups.filter fun g => g.1 != n }
    | .restore groups => go duties { p with groups }
    | .more r least most taste start =>
      if p.place = start && least = 0 then go duties p
      else go (.fit (.repeated r least most taste) :: duties) p
    | .fit r =>
      match r with
      | .empty => go duties p
      | .oneOf ranges within =>
        match text with
        | c :: rest =>
          if ranges.any (·.holds c) == within then
            firstFit t steps duties { p with place := p.place + 1 } (some c) rest
          else .error .failed
        | [] => .error .failed
      | .edge e =>
        if Regex.Edge.fits ⟨before, text, some '\n'⟩ e then go duties p else .error .failed
      | .lastLine => if text.isEmpty || text = ['\n'] then go duties p else .error .failed
      | .origin => if p.place = t.origin then go duties p else .error .failed
      | .group n r => go (.fit r :: .close n p.place :: duties) p
      | .seq a b => go (.fit a :: .fit b :: duties) p
      | .either a b => (go (.fit a :: duties) p).orTry fun _ => go (.fit b :: duties) p
      | .repeated r least most taste =>
        if taste = .possessive then go (.fit (.single (.repeated r least most .greedy)) :: duties) p
        else if most = some 0 then go duties p
        else
          let onward (_ : Unit) :=
            go (.fit r :: .more r (least - 1) (most.map (· - 1)) taste p.place :: duties) p
          if 0 < least then onward ()
          else if taste = .lazy then (go duties p).orTry onward
          else (onward ()).orTry fun _ => go duties p
      | .single r =>
        match inside r with
        | .ok q => jump duties q
        | .error verdict => .error verdict
      | .ahead wanted r =>
        match inside r, wanted with
        | .ok q, true => go duties { p with groups := q.groups }
        | .error _, false => go duties p
        | _, _ => .error .failed
      | .behind width wanted r =>
        let found : Trial :=
          if p.place < width then .error .failed
          else
            let place := p.place - width
            firstFit t steps [.fit r] { p with place } (t.byteBefore place) (t.whole.drop place)
        match found, wanted with
        | .ok q, true => go duties { p with groups := q.groups }
        | .error _, false => go duties p
        | _, _ => .error .failed
      | .begins => go duties { p with start := p.place }
      | .ifGroup n yes no =>
        go (.fit (if p.groups.any fun g => g.1 == n then yes else no) :: duties) p
      | .ifFits test yes no =>
        match inside test with
        | .ok q => go (.fit yes :: duties) { p with groups := q.groups }
        | .error _ => go (.fit no :: duties) p
      | .defined _ => go duties p
      | .call n =>
        match t.parts.find? fun entry => entry.1 == n with
        | some (_, r) => go (.fit r :: .restore p.groups :: duties) p
        | none => .error .failed
      | .cut c =>
        (go duties p).orTry fun _ => .error (match c with
          | .next => .onAt 0
          | .here => .onAt p.place
          | .nowhere => .over)
      | .again n fold =>
        match p.groups.find? fun g => g.1 == n with
        | none => .error .failed
        | some (_, start, finish) =>
          let wanted := (t.whole.drop start).take (finish - start)
          let there := text.take wanted.length
          let same := if fold then there.map Char.toLower = wanted.map Char.toLower
            else there = wanted
          if same then
            firstFit t steps duties { p with place := p.place + wanted.length }
              (there.getLast?.or before) (text.drop wanted.length)
          else .error .failed

end OrderedRegex

/-- A compiled pattern with an order of its ways. -/
structure OrderedPattern where
  /-- The pattern. -/
  regex : OrderedRegex
  deriving Repr, Inhabited

namespace OrderedPattern

open OrderedRegex

/-- How many steps are enough for a way over so many bytes. -/
def stepLimit (p : OrderedPattern) (length : Nat) : Nat := 4 * (p.regex.size + 8) * (length + 16)

/-- The first way that fits at a place, in a search that began at another one. -/
def at? (p : OrderedPattern) (whole : List Char) (origin start : Nat) (before : Option Char)
    (text : List Char) : Trial :=
  let t : Trying := { whole, origin, parts := (0, p.regex) :: p.regex.groups }
  firstFit t (p.stepLimit whole.length) [.fit p.regex] { start, place := start } before text

/-- The leftmost fit from a place on, but not before another one, in a search that began at a third. -/
def findAfter (p : OrderedPattern) (whole : List Char) (origin least start : Nat)
    (before : Option Char) (text : List Char) : Option Match :=
  let tried := if start < least then .error .failed else p.at? whole origin start before text
  let onward (least : Nat) :=
    match text with
    | [] => none
    | c :: rest => findAfter p whole origin least (start + 1) (some c) rest
  match tried with
  | .ok q => some ⟨q.start, q.place, q.groups⟩
  | .error .failed => onward least
  | .error (.onAt place) => onward place
  | .error .over => none

/-- The leftmost fit in a text that starts not before a place. -/
def find? (p : OrderedPattern) (whole : List Char) (start : Nat) : Option Match :=
  p.findAfter whole start start start (if start = 0 then none else whole[start - 1]?)
    (whole.drop start)

end OrderedPattern

end FormatChain
