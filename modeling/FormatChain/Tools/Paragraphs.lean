import FormatChain.Process.Numeral
import FormatChain.Process.Options

/-!
# Paragraphs

The words of a paragraph are put into lines of about the same length.  Each way of breaking a paragraph
has a cost; the one that costs least is taken.  Lines should be about as long as the goal, and
about as long as their neighbors, and sentences and remarks should not be torn apart.

* `ParagraphStyle` : how wide lines are, and what makes a paragraph.
* `Word`, `Broken`, `breakWords` : the words of a paragraph and how they are broken into lines.
* `Scan` : reading words and lines.
* `fmt` : the command.
-/

namespace FormatChain.Tools

open FormatChain.Process

namespace Paragraphs

/-! ## Style -/

/-- How wide lines are, and what makes a paragraph. -/
structure ParagraphStyle where
  /-- Whether the first two lines of a paragraph may have their own indentation. -/
  crown : Bool := false
  /-- Whether the first line has an indentation that differs from that of the second one. -/
  tagged : Bool := false
  /-- Whether lines are only broken. -/
  split : Bool := false
  /-- Whether one space stands between words, and two after sentences. -/
  uniform : Bool := false
  /-- The greatest width of a line. -/
  width : Nat := 75
  /-- The width that lines should have. -/
  goal : Nat := 70
  /-- The spaces before what lines begin with. -/
  lead : Nat := 0
  /-- What lines begin with, without spaces around it. -/
  start : Bytes := []
  /-- How long that is with the spaces after it. -/
  fullLength : Nat := 0

/-! ## Words -/

/-- A word of a paragraph. -/
structure Word where
  /-- Its bytes. -/
  text : Bytes
  /-- The spaces after it. -/
  space : Nat
  /-- Whether it begins with an opening mark. -/
  opens : Bool
  /-- Whether it ends with a mark that ends sentences. -/
  period : Bool
  /-- Whether it ends with a mark. -/
  mark : Bool
  /-- Whether a sentence ends with it. -/
  final : Bool
  deriving Inhabited

/-- Whether a byte is a mark. -/
def isMark (c : Char) : Bool := isPrintByte c && !c.isAlphanum && c != ' '

/-- A word of bytes, with the spaces after it. -/
def Word.ofBytes (text : Bytes) : Word :=
  let closing := text.reverse.takeWhile fun c => [')', ']', '\'', '"'].contains c
  let inner := text.reverse.drop (min closing.length (text.length - 1))
  { text
    space := 0
    opens := text.head?.any fun c => ['(', '[', '\'', '\x60', '"'].contains c
    period := inner.head?.any fun c => ['.', '?', '!'].contains c
    mark := text.getLast?.any isMark
    final := false }

/-! ## Costs -/

/-- The square of a number. -/
def square (n : Int) : Int := n * n

/-- What a line costs that is so much shorter than the goal. -/
def shortCost (n : Int) : Int := square (n * 10)

/-- What two lines cost whose lengths differ so much. -/
def raggedCost (n : Int) : Int := shortCost n / 2

/-- How a paragraph is broken from a word on. -/
structure Broken where
  /-- What it costs. -/
  cost : Int
  /-- How many words stand on the first line. -/
  count : Nat
  /-- How long the first line is. -/
  length : Nat

/-- What it costs to begin a line with a word, given the word before it and the one before that. -/
def startCost (before beforeThat : Option Word) (word : Word) : Int :=
  let breaking := match before with
    | none => 0
    | some w =>
      if w.period then if w.final then -square 50 else square 600
      else if w.mark then -square 40
      else if beforeThat.any (·.final) then square 200 / ((w.text.length : Int) + 2)
      else 0
  let beginning :=
    if word.opens then -square 40
    else if word.final then square 150 / ((word.text.length : Int) + 2)
    else 0
  square 70 + breaking + beginning

/-- The better one of the cheapest end found so far and another one. -/
def cheaper (best : Option Broken) (other : Broken) : Option Broken :=
  match best with
  | some b => if other.cost < b.cost then some other else best
  | none => some other

/-- The cheapest end of a line of a length that holds so many words, among the ends that are still left;
`rest` are the words after it, each with the way in which what begins with it is broken. -/
def cheapestEnd (s : ParagraphStyle) (best : Option Broken) (count length : Nat) (last : Word) :
    List (Word × Broken) → Option Broken
  | [] => cheaper best ⟨0, count, length⟩
  | (word, broken) :: rest =>
    let line := shortCost ((s.goal : Int) - length)
      + (if broken.count < rest.length + 1 then raggedCost ((length : Int) - broken.length) else 0)
    let best := cheaper best ⟨line + broken.cost, count, length⟩
    let length := length + last.space + word.text.length
    if length < s.width then cheapestEnd s best (count + 1) length word rest else best

/-- The words of a paragraph, each with the way in which what begins with it is broken. The words before
these are given, the latest first, and the indentations of the first line and of the others. -/
def breakWords (s : ParagraphStyle) (first other : Nat) (before : List Word) :
    List Word → List (Word × Broken)
  | [] => []
  | word :: rest =>
    let others := breakWords s first other (word :: before) rest
    let length := (if before.isEmpty then first else other) + word.text.length
    let found := (cheapestEnd s none 1 length word others).getD ⟨0, 1, length⟩
    (word, { found with cost := found.cost + startCost before.head? (before.drop 1).head? word }) :: others

/-! ## Writing -/

/-- What was written, the latest first, and the column after it. -/
structure Page where
  /-- What was written. -/
  written : List Bytes := []
  /-- The column. -/
  column : Nat := 0
  /-- Whether there were tabs. -/
  tabs : Bool := false

/-- Tabs and spaces from a column up to another one. -/
def blanksTo (tabs : Bool) (column target : Nat) : Bytes :=
  let tabTarget := target / 8 * 8
  if tabs && column + 1 < tabTarget then
    List.replicate (tabTarget / 8 - column / 8) '\t' ++ List.replicate (target - tabTarget) ' '
  else List.replicate (target - column) ' '

/-- Writes spaces. -/
def Page.space (p : Page) (n : Nat) : Page :=
  { p with written := blanksTo p.tabs p.column (p.column + n) :: p.written, column := p.column + n }

/-- Writes bytes. -/
def Page.bytes (p : Page) (bytes : Bytes) : Page :=
  { p with written := bytes :: p.written, column := p.column + bytes.length }

/-- Writes a line of words with an indentation, after so many spaces. -/
def Page.line (p : Page) (s : ParagraphStyle) (lead indent : Nat) (words : List Word) : Page :=
  let p := ({ p with column := 0 }.space lead).bytes s.start
  let p := p.space (indent - p.column)
  let p := (words.dropLast.foldl (fun p w => (p.bytes w.text).space w.space) p)
  let p := match words.getLast? with
    | some w => p.bytes w.text
    | none => p
  p.bytes ['\n']

/-- Writes words that are broken into lines, in at most so many lines. -/
def Page.lines (p : Page) (s : ParagraphStyle) (lead other : Nat) :
    Nat → Nat → List (Word × Broken) → Page
  | 0, _, _ => p
  | _, _, [] => p
  | steps + 1, indent, (word, broken) :: rest =>
    let all := (word, broken) :: rest
    let p := p.line s lead indent ((all.take broken.count).map (·.1))
    Page.lines p s lead other steps other (all.drop (max 1 broken.count))

/-! ## Reading -/

/-- How far the text is read. -/
structure Scan where
  /-- The bytes that are left. -/
  rest : Bytes
  /-- The column. -/
  column : Nat := 0
  /-- Whether there were tabs. -/
  tabs : Bool := false
  /-- The column of what the line begins with. -/
  lead : Nat := 0

/-- Passes over blanks. -/
def Scan.blanks (s : Scan) : Nat → Scan
  | 0 => s
  | steps + 1 =>
    match s.rest with
    | ' ' :: rest => Scan.blanks { s with rest, column := s.column + 1 } steps
    | '\t' :: rest =>
      Scan.blanks { s with rest, column := (s.column / 8 + 1) * 8, tabs := true } steps
    | _ => s

/-- Passes over what lines begin with, as far as it is there. -/
def Scan.start (s : Scan) : Bytes → Scan × Bool
  | [] => (s, true)
  | c :: more =>
    match s.rest with
    | d :: rest =>
      if c = d then Scan.start { s with rest, column := s.column + 1 } more else (s, false)
    | [] => (s, false)

/-- Begins a line. -/
def Scan.begin (style : ParagraphStyle) (s : Scan) : Scan :=
  let s := { s with column := 0 }.blanks s.rest.length
  if style.start.isEmpty then { s with lead := min style.lead s.column }
  else
    let (found, whole) := { s with lead := s.column }.start style.start
    if whole then found.blanks found.rest.length else found

/-- Whether a line is at its end. -/
def Scan.atEnd (s : Scan) : Bool :=
  match s.rest with
  | [] => true
  | c :: _ => c = '\n'

/-- Whether a line is one of a paragraph whose lines begin at a column. -/
def Scan.belongs (style : ParagraphStyle) (s : Scan) (lead : Nat) : Bool :=
  s.lead = lead && s.lead + style.fullLength ≤ s.column && !s.atEnd

/-- The words of a line, in at most so many steps, and what follows it. -/
def Scan.words (style : ParagraphStyle) (done : List Word) : Nat → Scan → List Word × Scan
  | 0, s => (done.reverse, s)
  | steps + 1, s =>
    match s.rest with
    | [] => (done.reverse, s.begin style)
    | first :: more =>
      let text := first :: more.takeWhile fun c => !isSpaceByte c
      let word := Word.ofBytes text
      let column := s.column + text.length
      let s := { s with rest := s.rest.drop text.length, column }.blanks s.rest.length
      let space := s.column - column
      let isEnd := s.rest.isEmpty
      let isLineEnd := s.rest.head? = some '\n'
      let final := isEnd || (word.period && (isLineEnd || 1 < space))
      let space := if isEnd || isLineEnd || style.uniform then if final then 2 else 1 else space
      let done := { word with space, final } :: done
      if isEnd || isLineEnd then (done.reverse, { s with rest := s.rest.drop 1 }.begin style)
      else Scan.words style done steps s

/-- The words of a line, and what follows it. -/
def Scan.line (style : ParagraphStyle) (s : Scan) : List Word × Scan := s.words style [] (s.rest.length + 1)

/-- The words of the lines that follow in a paragraph and begin at columns, in at most so many lines. -/
def Scan.moreLines (style : ParagraphStyle) (lead other : Nat) (done : List Word) :
    Nat → Scan → List Word × Scan
  | 0, s => (done, s)
  | steps + 1, s =>
    if s.belongs style lead && s.column = other then
      let (words, s) := s.line style
      Scan.moreLines style lead other (done ++ words) steps s
    else (done, s)

/-- A paragraph. -/
structure Paragraph where
  /-- The column of what its lines begin with. -/
  lead : Nat
  /-- The indentation of its first line. -/
  first : Nat
  /-- The indentation of the other lines. -/
  other : Nat
  /-- Its words. -/
  words : List Word

/-- The paragraph whose first line begins here, given the indentation of the lines of the one before, and
what follows it. -/
def Scan.paragraph (style : ParagraphStyle) (lastOther : Nat) (s : Scan) : Paragraph × Scan :=
  let lead := s.lead
  let first := s.column
  let (words, s) := s.line style
  let same := s.belongs style lead
  let other :=
    if style.split then first
    else if style.crown then if same then s.column else first
    else if style.tagged then
      if same && s.column ≠ first then s.column
      else if lastOther = first then if first = 0 then 3 else 0
      else lastOther
    else first
  let follow (words : List Word) (s : Scan) := s.moreLines style lead other words (s.rest.length + 1)
  let (words, s) :=
    if style.split then (words, s)
    else if style.crown then
      if same then
        let (more, s) := s.line style
        follow (words ++ more) s
      else (words, s)
    else if style.tagged then
      if same && s.column ≠ first then
        let (more, s) := s.line style
        follow (words ++ more) s
      else (words, s)
    else follow words s
  let words := match words.getLast? with
    | some last => words.dropLast ++ [{ last with period := true, final := true }]
    | none => words
  (⟨lead, first, other, words⟩, s)

/-- Writes the rest of a line as it is. -/
def Page.plainLine (p : Page) (style : ParagraphStyle) (s : Scan) : Page × Scan :=
  let p := { p with column := 0, tabs := s.tabs }
  let body := s.rest.takeWhile (· != '\n')
  let after := s.rest.drop body.length
  let isEnd := s.rest.isEmpty
  let p :=
    if s.lead < s.column || !s.atEnd then
      let p := p.space s.lead
      let p := p.bytes (style.start.take (s.column - p.column))
      let p := if s.atEnd then p else p.space (s.column - p.column)
      if isEnd && s.lead + style.start.length ≤ s.column then p.bytes ['\n'] else p
    else p
  let p := p.bytes body
  (if after.isEmpty then p else p.bytes ['\n'], { s with rest := after.drop 1 })

/-- Writes all paragraphs, in at most so many steps, given the columns of what lines of the last one begin
with and of its lines. -/
def Page.paragraphs (style : ParagraphStyle) (lastLead lastOther : Nat) : Nat → Page → Scan → Page
  | 0, p, _ => p
  | steps + 1, p, s =>
    if s.atEnd || s.lead < lastLead || s.column < s.lead + style.fullLength then
      let ended := !s.rest.contains '\n'
      let (p, s) := p.plainLine style s
      if ended then p else Page.paragraphs style lastLead lastOther steps p (s.begin style)
    else
      let (paragraph, s) := s.paragraph style lastOther
      let words := breakWords style paragraph.first paragraph.other [] paragraph.words
      let p := { p with tabs := s.tabs }.lines style paragraph.lead paragraph.other
        (words.length + 1) paragraph.first words
      Page.paragraphs style paragraph.lead paragraph.other steps p s

/-- The text with its paragraphs put into lines. -/
def rendered (style : ParagraphStyle) (bytes : Bytes) : Bytes :=
  let s : Scan := { rest := bytes }
  (Page.paragraphs style 0 0 (2 * bytes.length + 2) {} (s.begin style)).written.reverse.flatten

end Paragraphs

open Paragraphs

/-- The style with what lines begin with. -/
def Paragraphs.ParagraphStyle.beginning (s : ParagraphStyle) (value : Bytes) : ParagraphStyle :=
  let lead := (value.takeWhile (· = ' ')).length
  let rest := value.drop lead
  let start := (rest.reverse.dropWhile (· = ' ')).reverse
  { s with lead, start, fullLength := rest.length }

/-- How wide lines are, given what options say. -/
def lineWidths (width goal : Option Bytes) : Except String (Nat × Nat) := do
  let rules (high : Int) : AmountRules := { refusal := "invalid width", high }
  match width, goal with
  | some width, none =>
    let n ← (rules 2500).readNat width
    return (n, n * 187 / 200)
  | some width, some goal =>
    let n ← (rules 2500).readNat width
    return (n, ← (rules n).readNat goal)
  | none, some goal =>
    let n ← (rules 75).readNat goal
    return (n + 10, n)
  | none, none => return (75, 70)

/-- Puts paragraphs into lines. -/
def fmt : Program := fun j =>
  let (old, args) : Option Bytes × List Bytes := match j.args with
    | ('-' :: c :: digits) :: rest => if c.isDigit then (some (c :: digits), rest) else (none, j.args)
    | args => (none, args)
  let rules : OptionRules := {
    letters := "0123456789cstuw:p:g:"
    words := [("crown-margin", 'c'), ("prefix", 'p'), ("split-only", 's'), ("tagged-paragraph", 't'),
      ("uniform-spacing", 'u'), ("width", 'w'), ("goal", 'g')] }
  let j := { j with args }
  j.withOptions 1 rules fun given files => do
    match given.find? fun g => g.letter.isDigit with
    | some g =>
      j.misused 1 s!"invalid option -- {g.letter}; -WIDTH is recognized only when it is the first\noption; use -w N instead"
    | none =>
      match lineWidths ((valueOf? given 'w').or old) (valueOf? given 'g') with
      | .error fault => j.fail 1 fault
      | .ok (width, goal) =>
        let style : ParagraphStyle := {
          crown := has given 'c', tagged := has given 't', split := has given 's', uniform := has given 'u'
          width, goal }
        let style := match valueOf? given 'p' with
          | some value => style.beginning value
          | none => style
        let mut well := true
        for file in if files.isEmpty then [['-']] else files do
          match ← (do
            if file = ['-'] then return Except.ok (← Running.takeInput)
            else Running.readFile j.cwd file) with
          | .ok bytes => Running.write (rendered style bytes)
          | .error e =>
            j.complain s!"cannot open {shellQuoted file} for reading: {e.words}"
            well := false
        return statusOf well

end FormatChain.Tools
