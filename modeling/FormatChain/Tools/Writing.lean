import FormatChain.Process.Formatted
import FormatChain.Process.Options
import FormatChain.Regex.Reading

/-!
# Making texts

Commands that write what they are told, or what follows from it.

* `echo`, `printf`, `yes` : texts.
* `basename`, `dirname` : parts of paths.
* `expr` : the value of an expression.
* `sleep` : letting time pass.
-/

namespace FormatChain.Tools

open FormatChain.Process

/-! ## Texts -/

/-- The escapes of the command that writes what it is told. -/
def echoEscapes : EscapeRules := { zeroDigits := 3, hexadecimal := true }

/-- Whether an argument consists of the letters of options. -/
def isEchoFlag (arg : Bytes) : Bool :=
  match arg with
  | '-' :: c :: rest => (c :: rest).all fun c => ['n', 'e', 'E'].contains c
  | _ => false

/-- Whether escapes are read after the flags so far. -/
def readsEscapes (start : Bool) (flags : List Bytes) : Bool :=
  flags.flatten.foldl (fun on c => if c = 'e' then true else if c = 'E' then false else on) start

/-- What is written for arguments with flags before them. -/
def echoed (escapes : EscapeRules) (args : List Bytes) : Bytes :=
  let flags := args.takeWhile isEchoFlag
  let text := joinWith [' '] (args.drop flags.length)
  let (text, whole) := if readsEscapes false flags then unescape escapes text else (text, true)
  if flags.any (·.contains 'n') || !whole then text else text ++ ['\n']

/-- Writes what it is told, on a line of its own. -/
def echo : Program := fun j => do
  Running.write (echoed echoEscapes j.args)
  return success

/-- The formats of the command of the system. -/
def printfStyle : FormatStyle :=
  { escapes := { zeroDigits := 2, hexadecimal := true, characters := true, plain := ['\\', '"'] }
    argumentEscapes := { zeroDigits := 3, hexadecimal := true, characters := true, plain := ['\\', '"'] }
    noNumber := fun arg => s!"{quoted arg}: expected a numeric value"
    partNumber := fun arg => s!"{quoted arg}: value not completely converted"
    tooLarge := fun arg => s!"{quoted arg}: Numerical result out of range"
    unknown := fun c => s!"{textOf c.written}: invalid conversion specification"
    bits := 64
    sizes := true
    quoting := some fun arg => bytesOf (wordShown arg)
    strict := true }

/-- Writes what it is told in a format. -/
def printf : Program := fun j => do
  let args := if j.args.head? = some ['-', '-'] then j.args.drop 1 else j.args
  match args with
  | [] => j.misused 1 "missing operand"
  | format :: args =>
    let f := formatted printfStyle format args
    Running.write f.output
    f.complaints.forM j.complain
    match f.status, f.ignored with
    | 0, first :: _ =>
      j.complain s!"warning: ignoring excess arguments, starting with {quoted first}"
    | _, _ => pure ()
    return .code f.status

/-- Writes the same line again and again. -/
def yes : Program := fun j => do
  let line := (if j.args.isEmpty then ['y'] else joinWith [' '] j.args) ++ ['\n']
  Running.write (List.replicate (Running.endlessSupply / line.length + 1) line).flatten
  Running.neverEnd
  return .signal 13

/-! ## Parts of paths -/

/-- Bytes without the slashes at their end. -/
def withoutSlashes (bytes : Bytes) : Bytes := (bytes.reverse.dropWhile (· == '/')).reverse

/-- The last name of a path. -/
def lastName (path : Bytes) : Bytes :=
  let trimmed := withoutSlashes path
  if trimmed.isEmpty then path.take 1
  else (trimmed.reverse.takeWhile (· != '/')).reverse

/-- A path without its last name. -/
def withoutLastName (path : Bytes) : Bytes :=
  let trimmed := withoutSlashes path
  if trimmed.isEmpty then (if path.isEmpty then ['.'] else ['/'])
  else
    let before := (trimmed.reverse.dropWhile (· != '/')).reverse
    if before.isEmpty then ['.']
    else
      let shorter := withoutSlashes before
      if shorter.isEmpty then ['/'] else shorter

/-- Writes the last names of paths. -/
def basename : Program := fun j =>
  let rules : OptionRules := {
    letters := "as:z", words := [("multiple", 'a'), ("suffix", 's'), ("zero", 'z')], first := true }
  j.withOptions 1 rules fun given operands => do
    let mark := if has given 'z' then '\x00' else '\n'
    let without (suffix name : Bytes) : Bytes :=
      if suffix.isSuffixOf name && suffix != name then name.take (name.length - suffix.length) else name
    match operands with
    | [] => j.misused 1 "missing operand"
    | first :: rest =>
      if has given 'a' || has given 's' then
        for path in operands do
          Running.write (without ((valueOf? given 's').getD []) (lastName path) ++ [mark])
        return success
      else
        match rest with
        | _ :: extra :: _ => j.misused 1 s!"extra operand {quoted extra}"
        | _ =>
          Running.write (without (rest.headD []) (lastName first) ++ [mark])
          return success

/-- Writes paths without their last names. -/
def dirname : Program := fun j =>
  j.withOptions 1 { letters := "z", words := [("zero", 'z')] } fun given operands => do
    if operands.isEmpty then j.misused 1 "missing operand"
    else
      for path in operands do
        Running.write (withoutLastName path ++ [if has given 'z' then '\x00' else '\n'])
      return success

/-! ## Expressions -/

namespace Expr

/-- What is wrong with an expression. -/
inductive Fault where
  /-- Nothing follows an argument. -/
  | missingAfter (arg : Bytes)
  /-- An argument stands where none may stand. -/
  | unexpected (arg : Bytes)
  /-- A closing parenthesis is missing. -/
  | expectedClosing (arg : Bytes)
  /-- A number is none. -/
  | noNumber
  /-- A number is divided by zero. -/
  | divisionByZero
  /-- A pattern is none. -/
  | pattern (fault : RegexFault)

/-- The wording of a fault. -/
def Fault.message : Fault → String
  | .missingAfter arg => s!"syntax error: missing argument after {quoted arg}"
  | .unexpected arg => s!"syntax error: unexpected argument {quoted arg}"
  | .expectedClosing arg => s!"syntax error: expecting ')' after {quoted arg}"
  | .noNumber => "non-integer argument"
  | .divisionByZero => "division by zero"
  | .pattern fault => fault.message

/-- Reading an expression: the argument read last, and those that are left. -/
abbrev Reading := StateT (Bytes × List Bytes) (Except Fault)

/-- Takes an argument if it is one of these. -/
def takeOneOf (wanted : List String) : Reading (Option String) := do
  match (← get).2 with
  | [] => return none
  | arg :: rest =>
    match wanted.find? fun w => w.toList = arg with
    | some w =>
      set (arg, rest)
      return some w
    | none => return none

/-- Takes the next argument. -/
def takeAny : Reading Bytes := do
  match ← get with
  | (last, []) => throw (.missingAfter last)
  | (_, arg :: rest) =>
    set (arg, rest)
    return arg

/-- Whether a value counts as nothing. -/
def isNothing (value : Bytes) : Bool :=
  value.isEmpty || (match value with
    | '-' :: digits => !digits.isEmpty && digits.all (· == '0')
    | digits => digits.all (· == '0'))

/-- The number of a value. -/
def numberOf (value : Bytes) : Reading Int :=
  match value with
  | '+' :: _ => throw .noNumber
  | _ =>
    match intOf? value with
    | some n => return n
    | none => throw .noNumber

/-- What a pattern at the start of a text finds: what its group fitted, or how much it fits. -/
def fitted (text pattern : Bytes) : Reading Bytes := do
  match Pattern.read {} pattern with
  | .error fault => throw (.pattern fault)
  | .ok p =>
    match p.at? true text 0 none text with
    | none => return if p.groups > 0 then [] else ['0']
    | some m =>
      if p.groups > 0 then
        match m.groups.find? fun g => g.1 == 1 with
        | some (_, start, stop) => return (text.drop start).take (stop - start)
        | none => return []
      else return digitsOf m.stop

/-- The value of one argument or of a function, given how whole expressions are read. -/
def simple (whole : Reading Bytes) : Nat → Reading Bytes
  | 0 => return []
  | steps + 1 => do
    let arg ← takeAny
    match String.ofList arg with
    | "(" =>
      let value ← whole
      match (← get).2 with
      | [')'] :: rest =>
        set (([')'] : Bytes), rest)
        return value
      | [] => throw (.expectedClosing (← get).1)
      | _ => throw (.expectedClosing (← get).1)
    | ")" => throw (.unexpected arg)
    | "+" => takeAny
    | "length" => return digitsOf (← simple whole steps).length
    | "match" =>
      let text ← simple whole steps
      let pattern ← simple whole steps
      fitted text pattern
    | "index" =>
      let text ← simple whole steps
      let wanted ← simple whole steps
      return digitsOf (match text.findIdx? wanted.contains with
        | some n => n + 1
        | none => 0)
    | "substr" =>
      let text ← simple whole steps
      let start ← simple whole steps
      let length ← simple whole steps
      match intOf? start, intOf? length with
      | some start, some length =>
        if start ≤ 0 || length ≤ 0 then return []
        else return (text.drop (start - 1).toNat).take length.toNat
      | _, _ => return []
    | _ => return arg

/-- The operators of a level, and what becomes of their operands. -/
structure Level where
  /-- The operators. -/
  operators : List String
  /-- What becomes of two values. -/
  apply : String → Bytes → Bytes → Reading Bytes

/-- The values of a level one after the other, in at most so many steps. -/
def leftward (l : Level) (next : Reading Bytes) : Nat → Bytes → Reading Bytes
  | 0, value => return value
  | steps + 1, value => do
    match ← takeOneOf l.operators with
    | none => return value
    | some op =>
      let right ← next
      leftward l next steps (← l.apply op value right)

/-- A truth as a value. -/
def truth (b : Bool) : Bytes := if b then ['1'] else ['0']

/-- The levels, the one that binds most closely first. -/
def levels : List Level :=
  [⟨[":"], fun _ a b => fitted a b⟩,
    ⟨["*", "/", "%"], fun op a b => do
      let x ← numberOf a
      let y ← numberOf b
      if op = "*" then return integerText (x * y)
      else if y = 0 then throw .divisionByZero
      else return integerText (if op = "/" then Int.tdiv x y else Int.tmod x y)⟩,
    ⟨["+", "-"], fun op a b => do
      let x ← numberOf a
      let y ← numberOf b
      return integerText (if op = "+" then x + y else x - y)⟩,
    ⟨["<", "<=", "=", "==", "!=", ">=", ">"], fun op a b => do
      let plainNumber (v : Bytes) : Option Int := if v.head? = some '+' then none else intOf? v
      let order : Ordering := match plainNumber a, plainNumber b with
        | some x, some y => compareOfLessAndEq x y
        | _, _ => if a = b then .eq else if bytesBefore a b then .lt else .gt
      return truth (match op with
        | "<" => order == .lt
        | "<=" => order != .gt
        | ">" => order == .gt
        | ">=" => order != .lt
        | "!=" => order != .eq
        | _ => order == .eq)⟩,
    ⟨["&"], fun _ a b => return if isNothing a || isNothing b then ['0'] else a⟩,
    ⟨["|"], fun _ a b => return if isNothing a then (if isNothing b then ['0'] else b) else a⟩]

/-- A whole expression, parentheses nested up to so deep. -/
def whole : Nat → Reading Bytes
  | 0 => return []
  | depth + 1 =>
    let steps := depth + 1
    levels.foldl (fun next level => do leftward level next steps (← next))
      (simple (whole depth) steps)

end Expr

/-- Writes the value of an expression. -/
def expr : Program := fun j => do
  let args := if j.args.head? = some ['-', '-'] then j.args.drop 1 else j.args
  if args.isEmpty then j.misused 2 "missing operand"
  else
    match (Expr.whole (args.length + 1)).run ([], args) with
    | .error (.pattern fault) => j.fail 2 (Expr.Fault.pattern fault).message
    | .error fault => j.fail 2 fault.message
    | .ok (_, _, extra :: _) => j.fail 2 (Expr.Fault.unexpected extra).message
    | .ok (value, _, []) =>
      Running.writeLine value
      return .code (if Expr.isNothing value then 1 else 0)

/-! ## Time and endings -/

/-- The milliseconds that a text such as `5`, `0.25` or `2m` means. -/
def duration? (text : Bytes) : Option Nat :=
  let (digits, unit) :=
    match text.getLast? with
    | some 's' => (text.dropLast, 1)
    | some 'm' => (text.dropLast, 60)
    | some 'h' => (text.dropLast, 3600)
    | some 'd' => (text.dropLast, 86400)
    | _ => (text, 1)
  if digits = "inf".toList || digits = "infinity".toList then some 1000000000000
  else
    match readDecimal? digits with
    | some (n, exponent, []) =>
      let (num, den) := scaled n exponent
      some (num * 1000 * unit / den)
    | _ => none

/-- Lets time pass. -/
def sleep : Program := fun j =>
  j.withOptions 1 { letters := "" } fun _ operands => do
    if operands.isEmpty then j.misused 1 "missing operand"
    else
      match operands.filter fun arg => (duration? arg).isNone with
      | [] =>
        Running.sleep ((operands.filterMap duration?).foldl (· + ·) 0)
        return success
      | wrong =>
        for arg in wrong do
          j.complain s!"invalid time interval {quoted arg}"
        Running.complain j.hint
        return .code 1

/-- Does nothing, and says that all is well. -/
def succeed : Program := fun _ => return success

/-- Does nothing, and says that something is wrong. -/
def fail : Program := fun _ => return .code 1

/-- Writes the directory that it works in, whatever else it is told. -/
def pwd : Program := fun j =>
  j.withOptions 1 { letters := "LP", words := [("logical", 'L'), ("physical", 'P')] } fun _ operands => do
    if !operands.isEmpty then j.complain "ignoring non-option arguments"
    Running.writeLine (bytesOf j.cwd.text)
    return success

/-- Writes variables and their values. -/
def printenv : Program := fun j => do
  if j.args.isEmpty then
    for (name, value) in j.vars do
      Running.writeLine (name ++ '=' :: value)
    return success
  else
    let found := j.args.map j.setting?
    for value in found.filterMap id do
      Running.writeLine value
    return statusOf (found.all Option.isSome)

/-- Writes a fixed line. Besides the options of the rules it is told nothing. -/
def saying (text : String) (rules : OptionRules) : Program := fun j =>
  j.withOptions 1 rules fun _ operands => do
    match operands with
    | extra :: _ => j.misused 1 s!"extra operand {quoted extra}"
    | [] =>
      Running.writeLine (bytesOf text)
      return success

end FormatChain.Tools
