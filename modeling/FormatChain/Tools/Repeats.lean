import FormatChain.Process.Options
import FormatChain.Tools.Sort.Key

/-!
# Repeated lines

Lines that are equal to the one before them are left out, counted, or shown in groups.

* `Repeats` : what is asked for.
* `Repeats.shown` : the lines that are shown.
* `uniq` : the command.
-/

namespace FormatChain.Tools

open FormatChain.Process

/-- Where empty lines stand between groups. -/
inductive GroupMarks where
  /-- Nowhere. -/
  | none
  /-- Before each group. -/
  | before
  /-- After each group. -/
  | after
  /-- Between two groups. -/
  | between
  /-- Before the first group and after each one. -/
  | around
  deriving DecidableEq

/-- What is asked for of repeated lines. -/
structure Repeats where
  /-- How many fields do not count. -/
  fields : Nat := 0
  /-- How many bytes after them do not count. -/
  bytes : Nat := 0
  /-- How many bytes count. -/
  width : Option Nat := none
  /-- Whether capital and small letters are the same. -/
  fold : Bool := false
  /-- Whether lines are shown that stand alone. -/
  single : Bool := true
  /-- Whether the first line of several equal ones is shown. -/
  first : Bool := true
  /-- Whether the other lines of several equal ones are shown. -/
  later : Bool := false
  /-- Whether lines are counted. -/
  counts : Bool := false
  /-- Where empty lines stand between groups of equal lines of which only repeated ones are shown. -/
  marks : GroupMarks := .none
  /-- Where empty lines stand between groups of all lines. -/
  groups : GroupMarks := .none

namespace Repeats

/-- The part of a line that counts. -/
def part (r : Repeats) (line : Bytes) : Bytes :=
  let rest := (afterFields Option.none r.fields line).drop r.bytes
  let rest := match r.width with
    | some n => rest.take n
    | Option.none => rest
  if r.fold then rest.map Char.toUpper else rest

/-- The groups of equal lines next to each other. -/
def grouped (r : Repeats) (lines : List Bytes) : List (List Bytes) :=
  let step := fun (line : Bytes) (done : List (Bytes × List Bytes)) =>
    let key := r.part line
    match done with
    | (other, group) :: rest => if key = other then (key, line :: group) :: rest else (key, [line]) :: done
    | [] => [(key, [line])]
  (lines.foldr step []).map (·.2)

/-- All lines in groups. -/
def allShown (r : Repeats) (groups : List (List Bytes)) : List Bytes :=
  let shown := groups.zipIdx.flatMap fun (group, i) =>
    let before := match r.groups with
      | .before => true
      | .around => true
      | .after => i > 0
      | .between => i > 0
      | .none => false
    (if before then [[]] else []) ++ group
  let after := (r.groups = .after || r.groups = .around) && !groups.isEmpty
  shown ++ (if after then [[]] else [])

/-- The lines of a group that are shown, each with how many stood before it; the last one of a group
counts as its first if it is the only one. -/
def shownOf (r : Repeats) (group : List Bytes) : List Bytes :=
  match group with
  | [] => []
  | [line] => if r.single then [counted 1 line] else []
  | line :: _ =>
    if r.later then
      (group.dropLast.zipIdx.map fun (line, i) => counted (i + 2) line)
        ++ (if r.first then (group.getLast?.map (counted group.length)).toList else [])
    else if r.first then [counted group.length line]
    else []
where
  /-- A line with how often it stands there, if that is asked for. -/
  counted (n : Nat) (line : Bytes) : Bytes :=
    if r.counts then padStart 7 (digitsOf n) ++ ' ' :: line else line

/-- The lines that are shown. -/
def shown (r : Repeats) (lines : List Bytes) : List Bytes :=
  let groups := r.grouped lines
  if r.groups != .none then r.allShown groups
  else
    let step := fun (state : List (List Bytes) × Bool) (group : List Bytes) =>
      let (done, any) := state
      let repeated := decide (1 < group.length)
      let mark := repeated && (r.marks = .before || (r.marks = .between && any))
      (r.shownOf group :: (if mark then [[[]]] else []) ++ done, any || repeated)
    (groups.foldl step ([], false)).1.reverse.flatten

end Repeats

/-- The words for where empty lines stand between repeated lines. -/
def repeatWords : Choices GroupMarks :=
  [(["none"], .none), (["prepend"], .before), (["separate"], .between)]

/-- The words for where empty lines stand between all lines. -/
def groupWords : Choices GroupMarks :=
  [(["prepend"], .before), (["append"], .after), (["separate"], .between), (["both"], .around)]

/-- What is wrong with a command line: its wording, and whether the help is pointed to. -/
abbrev RepeatsFault := String × Bool

/-- What is asked for with an option more. -/
def Repeats.adding (r : Repeats) (g : Given) : Except RepeatsFault Repeats :=
  let number (what : String) : Except RepeatsFault Nat :=
    match readFieldNumber g.value with
    | some (n, []) => .ok n
    | _ => .error (s!"{textOf g.value}: invalid number of {what}", false)
  let chosen (choices : Choices GroupMarks) (option : String) (usual : GroupMarks) :
      Except RepeatsFault GroupMarks :=
    if g.value.isEmpty then .ok usual
    else (choose choices option g.value).mapError fun message => (message, true)
  match g.letter with
  | 'c' => .ok { r with counts := true }
  | 'd' => .ok { r with single := false }
  | 'u' => .ok { r with first := false }
  | 'i' => .ok { r with fold := true }
  | 'D' => do return { r with
      single := false, later := true, marks := ← chosen repeatWords "--all-repeated" .none }
  | 'f' => do return { r with fields := ← number "fields to skip" }
  | 's' => do return { r with bytes := ← number "bytes to skip" }
  | 'w' => do return { r with width := some (← number "bytes to compare") }
  | '\x01' => do return { r with groups := ← chosen groupWords "--group" .between }
  | _ => .ok r

/-- The options of the command; those that are words only have letters that nobody writes. -/
def uniqRules : OptionRules :=
  { letters := "cdD\x02::uif:s:w:z\x01::"
    words := [("count", 'c'), ("repeated", 'd'), ("unique", 'u'), ("ignore-case", 'i'),
      ("skip-fields", 'f'), ("skip-chars", 's'), ("check-chars", 'w'), ("zero-terminated", 'z'),
      ("all-repeated", '\x02'), ("group", '\x01')] }

/-- The arguments with numbers after a dash or a plus sign written as options. -/
def modernSkips (args : List Bytes) : List Bytes :=
  let before := args.takeWhile (· != ['-', '-'])
  (before.flatMap fun arg =>
    match arg with
    | '-' :: c :: digits =>
      if c.isDigit && digits.all Char.isDigit then [['-', 'f'], c :: digits] else [arg]
    | '+' :: c :: digits =>
      if c.isDigit && digits.all Char.isDigit then [['-', 's'], c :: digits] else [arg]
    | _ => [arg]) ++ args.drop before.length

/-- Leaves repeated lines out, counts them, or shows them in groups. -/
def uniq : Program := fun j => do
  Job.withOptions { j with args := modernSkips j.args } 1 uniqRules fun given operands => do
    let given := given.map fun g => if g.letter = '\x02' then { g with letter := 'D' } else g
    match given.foldlM Repeats.adding {}, operands with
    | .error (message, true), _ => j.misused 1 message
    | .error (message, false), _ => j.fail 1 message
    | _, _ :: _ :: extra :: _ => j.misused 1 s!"extra operand {quoted extra}"
    | .ok r, _ =>
      if r.groups != .none && ['c', 'd', 'D', 'u'].any (has given) then
        j.misused 1 "--group is mutually exclusive with -c/-d/-D/-u"
      else if r.counts && r.later then
        j.misused 1 "printing all duplicated lines and repeat counts is meaningless"
      else
        let source := operands.headD ['-']
        let found ← if source = ['-'] then do pure (.ok (← Running.takeInput))
          else Running.readFile j.cwd source
        match found with
        | .error .isADirectory => j.fail 1 s!"error reading {shellQuoted source}: Is a directory"
        | .error e => j.fail 1 s!"{nameShown source}: {e.words}"
        | .ok bytes =>
          let mark := if has given 'z' then '\x00' else '\n'
          let output := (r.shown ((linesEndedBy mark bytes).map (·.body))).flatMap (· ++ [mark])
          match operands with
          | [_, file] =>
            if file = ['-'] then
              Running.write output
              return success
            else
              match ← Running.writeFile j.cwd file output with
              | .ok () => return success
              | .error e => j.fail 1 s!"{nameShown file}: {e.words}"
          | _ =>
            Running.write output
            return success

end FormatChain.Tools
