import FormatChain.Process.Formatted
import FormatChain.Tools.Fields

/-!
# Numbers for people

Numbers in fields are read and written with letters for powers of a thousand, or of 1024.  They are kept
with 64 binary digits.

* `Scale`, `RoundingWay` : powers and the ways to round.
* `NumberForm`, `readNumberForm` : how numbers are read and written, as options say.
* `readHuman`, `writtenHuman` : a number of a field, and as it is written.
* `numfmt` : numbers of fields in another form.
-/

namespace FormatChain.Tools.HumanNumbers

open FormatChain.Process
open FormatChain.Number (nearestWithBits)

/-! ## Scales and rounding -/

/-- What letters after numbers stand for. -/
inductive Scale where
  /-- There are none. -/
  | plain
  /-- Powers of a thousand, or of 1024 if a small i follows. -/
  | either
  /-- Powers of a thousand. -/
  | thousands
  /-- Powers of 1024. -/
  | binary
  /-- Powers of 1024, which a small i follows. -/
  | binaryMarked
  deriving Repr, DecidableEq

/-- What a letter stands for a power of. -/
def Scale.base : Scale → Nat
  | .binary => 1024
  | .binaryMarked => 1024
  | _ => 1000

/-- How numbers are rounded. -/
inductive RoundingWay where
  /-- To the next greater whole number. -/
  | up
  /-- To the next smaller one. -/
  | down
  /-- To the next one away from zero. -/
  | fromZero
  /-- To the next one towards zero. -/
  | towardsZero
  /-- To the nearest one, away from zero if two are. -/
  | nearest
  deriving Repr, DecidableEq

/-- The whole number that another one is rounded to. -/
def RoundingWay.round (way : RoundingWay) (x : Rat) : Int :=
  let towardsZero (x : Rat) : Int := if x < 0 then x.ceil else x.floor
  match way with
  | .up => x.ceil
  | .down => x.floor
  | .fromZero => if x < 0 then x.floor else x.ceil
  | .towardsZero => towardsZero x
  | .nearest => towardsZero (if x < 0 then x - 1 / 2 else x + 1 / 2)

/-- What becomes of fields that are no numbers. -/
inductive BadFields where
  /-- The first one ends all. -/
  | abort
  /-- They are told of, and at the end something was wrong. -/
  | fail
  /-- They are told of. -/
  | warn
  /-- Nothing. -/
  | ignore
  deriving Repr, DecidableEq

/-! ## Options -/

/-- How numbers are read and written. -/
structure NumberForm where
  /-- What letters after numbers that are read stand for. -/
  source : Scale := .plain
  /-- What letters after numbers that are written stand for. -/
  target : Scale := .plain
  /-- What numbers that are read are multiplied by. -/
  sourceUnit : Nat := 1
  /-- What numbers that are written are divided by. -/
  targetUnit : Nat := 1
  /-- How numbers are rounded. -/
  rounding : RoundingWay := .fromZero
  /-- The width of a number, below zero if the blanks are on its right. -/
  padding : Int := 0
  /-- The width of a number that zeros fill. -/
  zeroWidth : Nat := 0
  /-- The places that are asked for. -/
  places : Option Nat := none
  /-- What follows numbers. -/
  suffix : Option Bytes := none
  /-- What is written before a number. -/
  before : Bytes := []
  /-- What is written after a number. -/
  after : Bytes := []
  /-- The fields with numbers; only the first one if none are given. -/
  fields : Option (List FieldRange) := none
  /-- The byte between fields; blanks if there is none. -/
  separator : Option Char := none
  /-- The byte that ends lines. -/
  mark : Char := '\n'
  /-- How many lines come before those with numbers. -/
  headers : Nat := 0
  /-- What becomes of fields that are no numbers. -/
  bad : BadFields := .abort
  /-- The format of numbers. -/
  format : Option Bytes := none
  /-- Whether digits are in groups. -/
  grouped : Bool := false
  /-- Whether more is told. -/
  talkative : Bool := false
  deriving Inhabited

/-- What is wrong with options. -/
structure OptionFault where
  /-- What is said of it. -/
  words : String
  /-- Whether help is offered. -/
  helps : Bool := false

/-- The scales of numbers that are read. -/
def sourceScales : Choices Scale :=
  [(["none"], .plain), (["auto"], .either), (["si"], .thousands), (["iec"], .binary), (["iec-i"], .binaryMarked)]

/-- The scales of numbers that are written. -/
def targetScales : Choices Scale :=
  [(["none"], .plain), (["si"], .thousands), (["iec"], .binary), (["iec-i"], .binaryMarked)]

/-- The ways to round. -/
def roundingWays : Choices RoundingWay :=
  [(["up"], .up), (["down"], .down), (["from-zero"], .fromZero), (["towards-zero"], .towardsZero),
    (["nearest"], .nearest)]

/-- What may become of fields that are no numbers. -/
def badWays : Choices BadFields :=
  [(["abort"], .abort), (["fail"], .fail), (["warn"], .warn), (["ignore"], .ignore)]

/-- The letters for powers. -/
def powerLetters : List Char := ['K', 'M', 'G', 'T', 'P', 'E', 'Z', 'Y']

/-- The unit that an option gives. -/
def readUnit (text : Bytes) : Except OptionFault Nat :=
  let letters := String.ofList powerLetters
  let amount := match text.reverse with
    | last :: before =>
      if last.isDigit then amountAt letters 0 greatestUnsigned text
      else if last = 'i' && before.head?.any fun (c : Char) => !c.isDigit then
        amountAt letters 0 greatestUnsigned text.dropLast
      else amountAt (letters ++ "0") 0 greatestUnsigned (text ++ ['B'])
    | [] => .error .none
  match amount with
  | .ok n => if n = 0 then .error { words := s!"invalid unit size: {quoted text}" } else .ok n.toNat
  | .error _ => .error { words := s!"invalid unit size: {quoted text}" }

/-- The meaning of a value among some. -/
def choice {α : Type} (choices : Choices α) (option : String) (value : Bytes) : Except OptionFault α :=
  match choose choices option value with
  | .ok found => .ok found
  | .error words => .error { words, helps := true }

/-- What an option changes. -/
def applyOption (n : NumberForm) (g : Given) : Except OptionFault NumberForm := do
  let text := quoted g.value
  let wrong {α : Type} (words : String) : Except OptionFault α := .error { words }
  match g.letter with
  | '\x01' => return { n with source := ← choice sourceScales "--from" g.value }
  | '\x02' => return { n with sourceUnit := ← readUnit g.value }
  | '\x03' => return { n with target := ← choice targetScales "--to" g.value }
  | '\x04' => return { n with targetUnit := ← readUnit g.value }
  | '\x05' => return { n with rounding := ← choice roundingWays "--round" g.value }
  | '\x06' =>
    match amountAt "" (-greatestSigned) greatestSigned g.value with
    | .ok width => if width = 0 then wrong s!"invalid padding value {text}" else return { n with padding := width }
    | .error _ => wrong s!"invalid padding value {text}"
  | '\x07' => return { n with suffix := some g.value }
  | '\x08' => return { n with grouped := true }
  | '\x0e' =>
    if n.fields.isSome then wrong "multiple field specifications"
    match readFields { dashAlone := true } g.value with
    | .ok ranges => return { n with fields := some ranges }
    | .error words => .error { words, helps := true }
  | '\x0f' => return { n with talkative := true }
  | '\x10' =>
    if g.value.isEmpty then return { n with headers := 1 }
    match amountAt "" 0 greatestUnsigned g.value with
    | .ok count => if count = 0 then wrong s!"invalid header value {text}" else return { n with headers := count.toNat }
    | .error _ => wrong s!"invalid header value {text}"
  | '\x11' => return { n with format := some g.value }
  | '\x12' => return { n with bad := ← choice badWays "--invalid" g.value }
  | 'd' =>
    if 1 < g.value.length then wrong "the delimiter must be a single character"
    return { n with separator := some (g.value.headD '\x00') }
  | 'z' => return { n with mark := '\x00' }
  | _ => return n

/-- The bytes of a format before its directive, and the directive without its percent sign; none if there is
no directive. A pair of percent signs counts once. -/
def splitFormat : Bytes → Nat → Option (Nat × Bytes)
  | '%' :: '%' :: rest, count => splitFormat rest (count + 1)
  | '%' :: rest, count => some (count, rest)
  | _ :: rest, count => splitFormat rest (count + 1)
  | [], _ => none

/-- Whether a text has another directive. -/
def hasDirective : Bytes → Bool
  | '%' :: '%' :: rest => hasDirective rest
  | '%' :: _ => true
  | _ :: rest => hasDirective rest
  | [] => false

/-- The whole number at the start of a text, if there is one, and the rest. -/
def signedStart (text : Bytes) : Option Int × Bytes :=
  let trimmed := text.dropWhile isSpaceByte
  let (negative, digits) := match trimmed with
    | '-' :: rest => (true, rest)
    | '+' :: rest => (false, rest)
    | rest => (false, rest)
  match readNat digits with
  | (_, 0, _) => (none, text)
  | (n, _, rest) => (some (if negative then -(n : Int) else n), rest)

/-- What the format of numbers changes. -/
def applyFormat (n : NumberForm) (format : Bytes) : Except OptionFault NumberForm := do
  let text := quoted format
  let wrong {α : Type} (words : String) : Except OptionFault α := .error { words }
  match splitFormat format 0 with
  | none => wrong s!"format {text} has no % directive"
  | some (count, directive) =>
    let flags := directive.takeWhile fun c => [' ', '\'', '0'].contains c
    let (pad, rest) := signedStart (directive.drop flags.length)
    let zeros := flags.contains '0'
    let n := { n with grouped := n.grouped || flags.contains '\'', before := format.take count }
    let n := match pad with
      | some width =>
        if width = 0 then n
        else if 0 < width && zeros then { n with zeroWidth := width.toNat }
        else { n with padding := width }
      | none => n
    if rest.isEmpty then wrong s!"format {text} ends in %"
    let (n, rest) ← match rest with
      | '.' :: more =>
        if more.head?.any fun c => isBlankByte c || c = '+' then
          wrong s!"invalid precision in format {text}"
        match signedStart more with
        | (some places, rest) =>
          if places < 0 then wrong s!"invalid precision in format {text}"
          pure ({ n with places := some places.toNat }, rest)
        | (none, rest) => pure ({ n with places := some 0 }, rest)
      | _ => pure (n, rest)
    match rest with
    | 'f' :: after =>
      if hasDirective after then wrong s!"format {text} has too many % directives"
      return { n with after }
    | _ => wrong s!"invalid format {text}, directive must be %[0]['][-][N][.][N]f"

/-- How numbers are read and written, as options say, or what is wrong with them. -/
def readNumberForm (given : List Given) (operands : Except String (List Bytes)) :
    Except OptionFault (NumberForm × List Bytes) := do
  let n ← given.foldlM applyOption {}
  let files ← match operands with
    | .ok files => pure files
    | .error words => .error { words, helps := true }
  if n.format.isSome && n.grouped then .error { words := "--grouping cannot be combined with --format" }
  let n ← match n.format with
    | some format => applyFormat n format
    | none => pure n
  if n.grouped && n.target ≠ .plain then .error { words := "grouping cannot be combined with --to" }
  return (n, files)

/-! ## Numbers -/

/-- The nearest number with 64 binary digits. -/
def kept (x : Rat) : Rat :=
  let (num, den) := nearestWithBits 64 x.num.natAbs x.den
  if x < 0 then -(mkRat num den) else mkRat num den

/-- The digits at the start of a text as a number, and how many count. -/
def digitsAt (text : Bytes) : Rat × Nat :=
  (text.takeWhile Char.isDigit).foldl (fun (value, count) c =>
    let digit : Nat := c.toNat - 48
    (kept (kept (value * 10) + digit), if count = 0 && digit = 0 then 0 else count + 1)) (0, 0)

/-- How many digits a number may have. -/
def mostDigits : Nat := 27

/-- How many digits a number without a scale may have. -/
def mostPlainDigits : Nat := 18

/-- A number that was read. -/
structure Reading where
  /-- The number. -/
  value : Rat
  /-- How many places it is written with. -/
  places : Nat
  /-- Whether it has more digits than are kept. -/
  rough : Bool
  /-- What follows it. -/
  rest : Bytes

/-- What is said of a number without a scale that is too great. -/
def tooGreat (text : Bytes) : String := s!"value too large to be converted: {quoted text}"

/-- The number at the start of a text, without letters. -/
def readPlain (text : Bytes) : Except String Reading := do
  let (negative, body) := match text with
    | '-' :: rest => (true, rest)
    | rest => (false, rest)
  let whole := body.takeWhile Char.isDigit
  let (value, count) := digitsAt whole
  if mostDigits < count then .error (tooGreat text)
  let rest := body.drop whole.length
  if whole.isEmpty && rest.head? ≠ some '.' then .error s!"invalid number: {quoted text}"
  match rest with
  | '.' :: after =>
    let fraction := after.takeWhile Char.isDigit
    let (part, partCount) := digitsAt fraction
    if mostDigits < partCount then .error (tooGreat text)
    let next := (after.drop fraction.length).head?
    if fraction.isEmpty && next ≠ some '.' then .error s!"invalid number: {quoted text}"
    let value := kept (value + kept (part / (10 : Rat) ^ fraction.length))
    return {
      value := if negative then -value else value
      places := fraction.length
      rough := mostPlainDigits < count || mostPlainDigits < partCount
      rest := after.drop fraction.length }
  | _ =>
    return { value := if negative then -value else value, places := 0, rough := mostPlainDigits < count, rest }

/-- The number that a text is, with a letter for a power, or what is wrong with it. -/
def readHuman (scale : Scale) (text : Bytes) : Except String Reading := do
  let r ← readPlain text
  let blanks := r.rest.takeWhile isBlankByte
  let missing {α : Type} : Except String α := .error s!"missing 'i' suffix in input: {quoted text} (e.g Ki/Mi/Gi)"
  let (power, base, rest) ← match r.rest.drop blanks.length with
    | [] =>
      if r.rest.isEmpty then pure (0, scale.base, [])
      else .error s!"invalid suffix in input: {quoted text}"
    | letter :: more =>
      match powerLetters.idxOf? letter with
      | none => .error s!"invalid suffix in input: {quoted text}"
      | some place =>
        if scale = .plain then .error s!"rejecting suffix in input: {quoted text} (consider using --from)"
        if scale = .either && more.head? = some 'i' then pure (place + 1, 1024, more.drop 1)
        else pure (place + 1, scale.base, more)
  let rest ← if scale = .binaryMarked then
      if rest.head? = some 'i' then pure (rest.drop 1) else missing
    else pure rest
  if !rest.isEmpty then .error s!"invalid suffix in input {quoted text}: {quoted rest}"
  return { r with
    value := kept (r.value * (base : Rat) ^ power)
    places := if power = 0 then r.places else 0
    rest := [] }

/-! ## Writing numbers -/

/-- A number divided by a base until it is below it, in at most so many steps, and how often it was
divided. -/
def dividedDown (base : Rat) : Nat → Rat → Nat → Rat × Nat
  | 0, value, power => (value, power)
  | steps + 1, value, power =>
    if value.abs < base then (value, power) else dividedDown base steps (kept (value / base)) (power + 1)

/-- How often a number may be divided. -/
def mostPowers : Nat := 200

/-- A number rounded at a place. -/
def RoundingWay.roundAt (way : RoundingWay) (places : Nat) (x : Rat) : Rat :=
  let factor : Rat := (10 : Rat) ^ places
  kept (kept (way.round (kept (x * factor)) : Rat) / factor)

/-- The digits of a number with so many places. -/
def NumberForm.digits (n : NumberForm) (places : Nat) (x : Rat) : Bytes :=
  let layout : Layout := { zeros := 0 < n.zeroWidth, width := n.zeroWidth, precision := some places }
  layout.quotient 'f' (x < 0) x.num.natAbs x.den

/-- The letters for a power. -/
def powerText (power : Nat) : Bytes :=
  match power with
  | 0 => []
  | power + 1 =>
    match powerLetters[power]? with
    | some letter => [letter]
    | none => "(error)".toList

/-- A number as it is written with a letter for a power. -/
def NumberForm.scaledText (n : NumberForm) (x : Rat) : Bytes :=
  let base : Rat := n.target.base
  let (value, power) := dividedDown base mostPowers x 0
  let places := match n.places with
    | some places => min (power * 3) places
    | none => if value.abs < 10 then 1 else 0
  let value := n.rounding.roundAt places value
  let (value, power) := if base ≤ value.abs then (kept (value / base), power + 1) else (value, power)
  let showsPoint : Bool := value ≠ 0 && value.abs < 10 && 0 < power
  let places := match n.places with
    | some places => places
    | none => if showsPoint then 1 else 0
  let mark := if n.target = .binaryMarked && 0 < power then ['i'] else []
  n.digits places value ++ powerText power ++ mark

/-- A number in a complaint. -/
def shownNumber (x : Rat) : String :=
  textOf (({} : Layout).quotient 'g' (x < 0) x.num.natAbs x.den)

/-- A number as it is written, in at least a width, or what is wrong with it. -/
def NumberForm.written (n : NumberForm) (padding : Int) (places : Nat) (x : Rat) : Except String Bytes := do
  let places := n.places.getD places
  let (_, power) := dividedDown 10 mostPowers x 0
  if n.target = .plain && mostPlainDigits < power + places then
    let shown := if places = 0 then shownNumber x else s!"{shownNumber x}/{places}"
    let what := if places = 0 then "value" else "value/precision"
    .error s!"{what} too large to be printed: '{shown}' (consider using --to)"
  if mostDigits - 1 < power then
    .error s!"value too large to be printed: '{shownNumber x}' (cannot handle values > 999Y)"
  let text := if n.target = .plain then n.digits places (n.rounding.roundAt places x) else n.scaledText x
  let text := text ++ n.suffix.getD []
  return if padding < 0 then padEnd padding.natAbs text else padStart padding.natAbs text

/-! ## Fields -/

/-- The fields of a line: with blanks before them if those part them. -/
def fieldsOf (separator : Option Char) (line : Bytes) : List Bytes :=
  match separator with
  | some c => splitAtByte c line
  | none => go (line.length + 1) line
where
  /-- The fields, in at most so many steps. -/
  go : Nat → Bytes → List Bytes
    | 0, _ => []
    | steps + 1, rest =>
      let isSeparator (c : Char) : Bool := isBlankByte c || c = '\n'
      let blanks := rest.takeWhile isSeparator
      let field := blanks ++ (rest.drop blanks.length).takeWhile fun c => !isSeparator c
      match rest.drop field.length with
      | [] => [field]
      | _ :: after => field :: go steps after

/-- Whether a field has a number. -/
def NumberForm.wants (n : NumberForm) (place : Nat) : Bool :=
  match n.fields with
  | some ranges => ranges.any (·.holds place)
  | none => place = 1

/-- A text without the suffix at its end. -/
def NumberForm.withoutSuffix (n : NumberForm) (text : Bytes) : Bytes :=
  match n.suffix with
  | some suffix =>
    if suffix.length < text.length && suffix.isSuffixOf text then text.take (text.length - suffix.length)
    else text
  | none => text

/-- What becomes of a field: what is written, and what is said of it. -/
structure FieldResult where
  /-- What is written. -/
  text : Bytes
  /-- What is wrong with it. -/
  fault : Option String := none
  /-- The number in it if it has more digits than are kept. -/
  rough : Option Bytes := none

/-- What becomes of a field with a number. -/
def NumberForm.changed (n : NumberForm) (place : Nat) (field : Bytes) : FieldResult :=
  let text := n.withoutSuffix field
  let body := text.dropWhile isBlankByte
  let padding : Int :=
    if n.padding = 0 && n.separator.isNone && (body.length < text.length || 1 < place) then text.length
    else n.padding
  match readHuman n.source body with
  | .error fault => { text, fault := some fault }
  | .ok r =>
    let rough := if r.rough then some body else none
    let value := if n.sourceUnit = 1 && n.targetUnit = 1 then r.value
      else kept (kept (r.value * n.sourceUnit) / n.targetUnit)
    match n.written padding r.places value with
    | .error fault => { text, fault := some fault, rough }
    | .ok shown => { text := n.before ++ shown ++ n.after, rough }

/-- Writes the fields of a line in another form. Tells whether all is well; none if that ends all. -/
def NumberForm.writeFields (n : NumberForm) (j : Job) : Nat → List Bytes → Bool → Running (Option Bool)
  | _, [], well => return some well
  | place, field :: rest, well => do
    let r := if n.wants place then n.changed place field else { text := field }
    match r.rough with
    | some body => if n.talkative then j.complain s!"large input value {quoted body}: possible precision loss"
    | none => pure ()
    match r.fault with
    | some fault => if n.bad ≠ .ignore then j.complain fault
    | none => pure ()
    if r.fault.isSome && n.bad = .abort then return none
    Running.write r.text
    if !rest.isEmpty then Running.write [n.separator.getD ' ']
    n.writeFields j (place + 1) rest (well && r.fault.isNone)

/-- Writes lines in another form. Tells whether all is well; none if something ends all. -/
def NumberForm.writeLines (n : NumberForm) (j : Job) : List Line → Bool → Running (Option Bool)
  | [], well => return some well
  | line :: rest, well => do
    match ← n.writeFields j 1 (fieldsOf n.separator line.body) true with
    | none => return none
    | some wellHere =>
      if line.ended then Running.write [n.mark]
      n.writeLines j rest (well && wellHere)

/-- Writes numbers of fields in another form. -/
def numfmt : Program := fun j => do
  let rules : OptionRules := {
    letters := "\x01:\x02:\x03:\x04:\x05:\x06:\x07:\x08\x0e:\x0f\x10::\x11:\x12:\x13d:z"
    words := [("from", '\x01'), ("from-unit", '\x02'), ("to", '\x03'), ("to-unit", '\x04'), ("round", '\x05'),
      ("padding", '\x06'), ("suffix", '\x07'), ("grouping", '\x08'), ("field", '\x0e'), ("debug", '\x0f'),
      ("header", '\x10'), ("format", '\x11'), ("invalid", '\x12'), ("-debug", '\x13'), ("delimiter", 'd'),
      ("zero-terminated", 'z')] }
  let (given, operands) := rules.readSoFar j.args
  match readNumberForm given operands with
  | .error fault => if fault.helps then j.misused 1 fault.words else j.fail 1 fault.words
  | .ok (n, texts) =>
    let idle : Bool := n.source = .plain && n.target = .plain && !n.grouped && n.padding = 0 && n.format.isNone
    if n.talkative && idle then j.complain "no conversion option specified"
    if n.talkative && n.grouped then j.complain "grouping has no effect in this locale"
    let lines ← if texts.isEmpty then do
        let lines := linesEndedBy n.mark (← Running.takeInput)
        (lines.take n.headers).forM fun line => Running.write (line.bytesWith n.mark)
        pure (lines.drop n.headers)
      else do
        if n.talkative && 0 < n.headers then j.complain "--header ignored with command-line input"
        pure (texts.map fun text => (⟨text, true⟩ : Line))
    match ← n.writeLines j lines true with
    | none => return .code 2
    | some well =>
      if n.talkative && !well then j.complain "failed to convert some of the input numbers"
      return .code (if well || n.bad = .warn || n.bad = .ignore then 0 else 2)

end FormatChain.Tools.HumanNumbers
