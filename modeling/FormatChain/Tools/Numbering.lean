import FormatChain.Process.Numeral
import FormatChain.Process.Options
import FormatChain.Regex.Reading

/-!
# Numbered lines

The lines of a text are numbered section by section.  A page has a head, a body and a foot, each
begun by a line of its own, and each kind of section says which of its lines have numbers.

* `NumberedLines` : which lines of a section have numbers.
* `NumberLayout` : how numbers are written, and what begins a section.
* `nl` : the command.
-/

namespace FormatChain.Tools

open FormatChain.Process

/-- Which lines of a section have numbers. -/
inductive NumberedLines where
  /-- All of them. -/
  | all
  /-- Those that are not empty. -/
  | full
  /-- None. -/
  | none
  /-- Those that a pattern fits. -/
  | fitting (p : Pattern)
  deriving Inhabited

/-- The parts of a page. -/
inductive PagePart where
  /-- The head. -/
  | head
  /-- The body. -/
  | body
  /-- The foot. -/
  | foot
  deriving Repr, DecidableEq

/-- How numbers are written, and what begins a section. -/
structure NumberLayout where
  /-- Which lines of a head have numbers. -/
  head : NumberedLines := .none
  /-- Which lines of a body have numbers. -/
  body : NumberedLines := .full
  /-- Which lines of a foot have numbers. -/
  foot : NumberedLines := .none
  /-- What a line that begins a foot consists of. -/
  mark : Bytes := ['\\', ':']
  /-- The first number. -/
  first : Int := 1
  /-- How much greater each number is than the one before. -/
  step : Int := 1
  /-- How many empty lines count for one. -/
  joined : Nat := 1
  /-- Whether each section begins with the first number again. -/
  anew : Bool := true
  /-- The width of numbers. -/
  width : Nat := 6
  /-- Whether numbers stand on the left. -/
  left : Bool := false
  /-- Whether zeros fill the width. -/
  zeros : Bool := false
  /-- What stands between a number and its line. -/
  separator : Bytes := ['\t']

namespace NumberLayout

/-- Which lines of a section have numbers. -/
def linesOfPart (l : NumberLayout) : PagePart → NumberedLines
  | .head => l.head
  | .body => l.body
  | .foot => l.foot

/-- A number as it is written. -/
def number (l : NumberLayout) (n : Int) : Bytes :=
  let digits := digitsOf n.natAbs
  let sign : Bytes := if n < 0 then ['-'] else []
  if l.left then padEnd l.width (sign ++ digits)
  else if l.zeros then sign ++ padZeros (l.width - sign.length) digits
  else padStart l.width (sign ++ digits)

/-- The section that a line begins, if it begins one. -/
def partBegun? (l : NumberLayout) (line : Bytes) : Option PagePart :=
  if l.mark.length < 2 then none
  else if line = l.mark ++ l.mark ++ l.mark then some .head
  else if line = l.mark ++ l.mark then some .body
  else if line = l.mark then some .foot
  else none

end NumberLayout

/-- How far the lines are numbered. -/
structure Numbered where
  /-- The section. -/
  part : PagePart := .body
  /-- The next number. -/
  next : Int
  /-- How many empty lines were read that count for none yet. -/
  empty : Nat := 0
  /-- The lines that are written, the latest first. -/
  done : List Bytes := []
  /-- Whether a number is too great. -/
  failed : Bool := false

namespace Numbered

/-- Writes a line, with a number or without. -/
def write (s : Numbered) (l : NumberLayout) (numbered : Bool) (line : Bytes) : Numbered :=
  if numbered then
    if greatestSigned < s.next || s.next < -greatestSigned - 1 then { s with failed := true }
    else { s with
      next := s.next + l.step
      done := (l.number s.next ++ l.separator ++ line ++ ['\n']) :: s.done }
  else { s with done := (List.replicate (l.width + l.separator.length) ' ' ++ line ++ ['\n']) :: s.done }

/-- Goes on with a line. -/
def add (l : NumberLayout) (s : Numbered) (line : Bytes) : Numbered :=
  if s.failed then s
  else
    match l.partBegun? line with
    | some part => { s with part, next := if l.anew then l.first else s.next, done := ['\n'] :: s.done }
    | none =>
      match l.linesOfPart s.part with
      | .none => s.write l false line
      | .full => s.write l (!line.isEmpty) line
      | .fitting p => s.write l (p.fitsIn line) line
      | .all =>
        if l.joined ≤ 1 then s.write l true line
        else if !line.isEmpty || s.empty + 1 = l.joined then { s with empty := 0 }.write l true line
        else { s with empty := s.empty + 1 }.write l false line

end Numbered

/-- Which lines an option asks for; none if it is not one of the styles. -/
def numberedLines? (value : Bytes) : Except String (Option NumberedLines) :=
  match value with
  | 'a' :: _ => .ok (some .all)
  | 't' :: _ => .ok (some .full)
  | 'n' :: _ => .ok (some .none)
  | 'p' :: pattern =>
    match Pattern.read { strictRepeats := false } pattern with
    | .ok p => .ok (some (.fitting p))
    | .error fault => .error fault.message
  | _ => .ok none

/-- What was read of the options. -/
structure NumberRequest where
  /-- How numbers are written. -/
  layout : NumberLayout := {}
  /-- What is complained about, the latest first. -/
  complaints : List String := []

/-- The amounts that options give. -/
def numberRules (letter : Char) : AmountRules :=
  match letter with
  | 'v' => { refusal := "invalid starting line number", low := -greatestSigned - 1, high := greatestSigned, signed := true }
  | 'i' => { refusal := "invalid line number increment", low := -greatestSigned - 1, high := greatestSigned, signed := true }
  | 'l' => { refusal := "invalid line number of blank lines", low := 1, high := greatestSigned, signed := true }
  | _ => { refusal := "invalid line number field width", low := 1, high := 2 ^ 31 - 1, signed := true }

/-- The request with an option. -/
def NumberRequest.adding (r : NumberRequest) (g : Given) : Except String NumberRequest := do
  let l := r.layout
  let styled (what : String) (change : NumberedLines → NumberLayout) : Except String NumberRequest := do
    match ← numberedLines? g.value with
    | some lines => return { r with layout := change lines }
    | none =>
      return { r with complaints := s!"invalid {what} numbering style: {quoted g.value}" :: r.complaints }
  match g.letter with
  | 'b' => styled "body" fun body => { l with body }
  | 'h' => styled "header" fun head => { l with head }
  | 'f' => styled "footer" fun foot => { l with foot }
  | 'd' =>
    let mark := match g.value with
      | [c] => [c, (l.mark[1]?).getD ':']
      | value => value
    return { r with layout := { l with mark } }
  | 'p' => return { r with layout := { l with anew := false } }
  | 's' => return { r with layout := { l with separator := g.value } }
  | 'v' => return { r with layout := { l with first := ← (numberRules 'v').read g.value } }
  | 'i' => return { r with layout := { l with step := ← (numberRules 'i').read g.value } }
  | 'l' => return { r with layout := { l with joined := ← (numberRules 'l').readNat g.value } }
  | 'w' => return { r with layout := { l with width := ← (numberRules 'w').readNat g.value } }
  | _ =>
    match String.ofList g.value with
    | "ln" => return { r with layout := { l with left := true, zeros := false } }
    | "rn" => return { r with layout := { l with left := false, zeros := false } }
    | "rz" => return { r with layout := { l with left := false, zeros := true } }
    | _ =>
      return { r with complaints := s!"invalid line numbering format: {quoted g.value}" :: r.complaints }

/-- Writes lines with their numbers. -/
def nl : Program := fun j => do
  let rules : OptionRules := {
    letters := "h:b:f:v:i:pl:s:w:n:d:"
    words := [("header-numbering", 'h'), ("body-numbering", 'b'), ("footer-numbering", 'f'),
      ("starting-line-number", 'v'), ("line-increment", 'i'), ("no-renumber", 'p'),
      ("join-blank-lines", 'l'), ("number-separator", 's'), ("number-width", 'w'), ("number-format", 'n'),
      ("section-delimiter", 'd')] }
  let (given, operands) := rules.readSoFar j.args
  match given.foldlM NumberRequest.adding {} with
  | .error fault => j.fail 1 fault
  | .ok r =>
    r.complaints.reverse.forM j.complain
    match operands, r.complaints with
    | .ok files, [] =>
      let (contents, well) ← j.readAll files
      let lines := contents.flatMap fun bytes => (linesOf bytes).map (·.body)
      let s := lines.foldl (Numbered.add r.layout) { next := r.layout.first }
      Running.write s.done.reverse.flatten
      if s.failed then j.fail 1 "line number overflow" else return statusOf well
    | .ok _, _ =>
      Running.complain j.hint
      return .code 1
    | .error fault, _ => j.misused 1 fault

end FormatChain.Tools
