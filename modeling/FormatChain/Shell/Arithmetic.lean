import FormatChain.Process.Formatted
import FormatChain.Shell.Syntax

/-!
# Sums

A sum is written with numbers, names and signs.  Its numbers have 64 binary digits and a sign, and
what goes beyond that wraps around.

* `Sum`, `Sum.read` : a sum and how it is read.
* `Sum.value` : the value of a sum.
* `SumFault`, `SumFault.message` : why there is none.
-/

namespace FormatChain.Shell

open FormatChain.Process

/-- Why a text is no sum, or a sum has no value. In the rich language the token is known that was read
last, with all that follows it. -/
inductive SumFault where
  /-- A number, a name or a parenthesis is missing. -/
  | expectingPrimary (token : Bytes)
  /-- The sum should be at its end. -/
  | expectingEnd (token : Bytes)
  /-- A sign means nothing. -/
  | badSign (token : Bytes)
  /-- A colon is missing. -/
  | expectingColon (token : Bytes)
  /-- A sum is missing. -/
  | expectingSum (token : Bytes)
  /-- A parenthesis is not closed. -/
  | expectingClosing (token : Bytes)
  /-- Something is divided by zero. -/
  | divisionByZero (token : Bytes)
  /-- A power is below zero. -/
  | negativePower (token : Bytes)
  /-- A value is given to something that is no name. -/
  | noName (token : Bytes)
  /-- Something is counted that is no name. -/
  | noCounter (token : Bytes)
  /-- The brackets after a name are not closed. -/
  | badIndex (token : Bytes)
  /-- A number is none, for a reason; how many bytes follow it. -/
  | badNumber (words : String) (token : Bytes) (left : Nat)
  deriving Repr

/-- The wording of a fault of a sum in the common language. -/
def SumFault.message (text : Bytes) (fault : SumFault) : String :=
  let words := match fault with
    | .expectingPrimary _ => "expecting primary"
    | .expectingColon _ => "expecting ':'"
    | .expectingClosing _ => "expecting ')'"
    | .divisionByZero _ => "division by zero"
    | _ => "expecting EOF"
  s!"arithmetic expression: {words}: \"{textOf text}\""

/-- The wording of a fault of a sum in the rich language. -/
def SumFault.richMessage (text : Bytes) (fault : SumFault) : Bytes :=
  let (words, token, left) := match fault with
    | .expectingPrimary token => ("syntax error: operand expected", token, 0)
    | .expectingEnd token => ("syntax error in expression", token, 0)
    | .badSign token => ("syntax error: invalid arithmetic operator", token, 0)
    | .expectingColon token => ("\x60:' expected for conditional expression", token, 0)
    | .expectingSum token => ("expression expected", token, 0)
    | .expectingClosing token => ("missing \x60)'", token, 0)
    | .divisionByZero token => ("division by 0", token, 0)
    | .negativePower token => ("exponent less than 0", token, 0)
    | .noName token => ("attempted assignment to non-variable", token, 0)
    | .noCounter token =>
      (if token.head? = some '-' then "--: assignment requires lvalue"
        else "++: assignment requires lvalue", token, 0)
    | .badIndex token => ("bad array subscript", token, 0)
    | .badNumber words token left => (words, token, left)
  (text.take (text.length - left)).dropWhile isSpaceByte ++ bytesOf s!": {words} (error token is \""
    ++ token ++ ['"', ')']

/-- What is made of one number. -/
inductive SumSign where
  /-- The number with the other sign. -/
  | minus
  /-- Whether it is zero. -/
  | not
  /-- The number with the other binary digits. -/
  | complement
  deriving Repr, DecidableEq

/-- What is made of two numbers. -/
inductive SumOperator where
  /-- The product. -/
  | times
  /-- The quotient, toward zero. -/
  | over
  /-- What is left of a division. -/
  | rest
  /-- The power. -/
  | power
  /-- The sum. -/
  | plus
  /-- The difference. -/
  | minus
  /-- Binary digits to the left. -/
  | shiftLeft
  /-- Binary digits to the right. -/
  | shiftRight
  /-- Whether the first one is less. -/
  | less
  /-- Whether the first one is not greater. -/
  | lessOrEqual
  /-- Whether the first one is greater. -/
  | greater
  /-- Whether the first one is not less. -/
  | greaterOrEqual
  /-- Whether they are the same. -/
  | equal
  /-- Whether they are not the same. -/
  | unequal
  /-- The binary digits of both. -/
  | bitAnd
  /-- The binary digits of one of them. -/
  | bitXor
  /-- The binary digits of at least one. -/
  | bitOr
  deriving Repr, DecidableEq

/-- A sum. -/
inductive Sum where
  /-- A number. -/
  | number (n : Int)
  /-- The value of a name, or of an element of an array. -/
  | named (name : Bytes) (index : Bytes)
  /-- What a sign makes of a sum. -/
  | signed (sign : SumSign) (a : Sum)
  /-- What an operator makes of two sums; what was left of the text after it. -/
  | binary (op : SumOperator) (a b : Sum) (rest : Bytes)
  /-- Whether both are other than zero. -/
  | and (a b : Sum)
  /-- Whether one is other than zero. -/
  | or (a b : Sum)
  /-- One sum or another. -/
  | choose (condition yes no : Sum)
  /-- A name gets a value, which an operator may make of its own. -/
  | assign (name index : Bytes) (op : Option SumOperator) (a : Sum) (rest : Bytes)
  /-- A name gets its value and a number; its value before it or after. -/
  | count (name index : Bytes) (by_ : Int) (before : Bool)
  /-- One sum after another. -/
  | sequence (a b : Sum)
  deriving Repr, Inhabited

/-- A number with a sign that has the same 64 binary digits at its end. -/
def wrapped (n : Int) : Int := (n + 2 ^ 63) % 2 ^ 64 - 2 ^ 63

/-! ## Reading -/

/-- What is left of a sum. -/
structure SumText where
  /-- The language. -/
  dialect : Dialect
  /-- The bytes that are left. -/
  rest : Bytes
  /-- The token that was looked at last, with all that follows it. -/
  last : Bytes
  /-- Whether a number or a name came last. -/
  afterOperand : Bool := false

/-- Reading a part of a sum. -/
abbrev Summing := StateT SumText (Except SumFault)

/-- The bytes that signs are made of. -/
def sumSigns : List Char :=
  ['=', '<', '>', '+', '-', '*', '/', '%', '!', '(', ')', '&', '|', '^', '~', '?', ':', ',']

/-- Leaves out white space, and looks at the next token. In the rich language a byte that means nothing
is a fault at once. -/
def look : Summing Bytes := do
  let t ← get
  let rest := t.rest.dropWhile isSpaceByte
  match rest with
  | [] =>
    set { t with rest }
    return rest
  | c :: _ =>
    set { t with rest, last := rest }
    if t.dialect = .rich && !isNameByte c && !sumSigns.contains c then
      throw (if t.afterOperand then .badSign rest else .expectingPrimary rest)
    return rest

/-- Goes on after a number or a name. -/
def passOperand (rest : Bytes) : Summing Unit := modify fun t => { t with rest, afterOperand := true }

/-- Goes on after a sign. -/
def passSign (rest : Bytes) : Summing Unit := modify fun t => { t with rest, afterOperand := false }

/-- The digit of a large base that a byte is. -/
def largeDigit? (base : Nat) (c : Char) : Option Nat :=
  let value :=
    if c.isDigit then some (c.toNat - 48)
    else if c.isLower then some (c.toNat - 87)
    else if c.isUpper then some (if base ≤ 36 then c.toNat - 55 else c.toNat - 29)
    else if c = '@' then some 62
    else if c = '_' then some 63
    else none
  value.filter (· < base)

/-- The largest number that is read. -/
def largest : Nat := 2 ^ 63 - 1

/-- The number that a word of digits is in the rich language, or what is wrong with it. -/
def richNumber (word : Bytes) : Except String Int :=
  let base := word.takeWhile (· ≠ '#')
  if base.length < word.length then
    let digits := word.drop (base.length + 1)
    let (n, _, rest) := readLiteral base
    if !rest.isEmpty then .error "value too great for base"
    else if n < 2 || 64 < n then .error "invalid arithmetic base"
    else if digits.isEmpty then .error "invalid integer constant"
    else
      match readDigits (largeDigit? n) n digits.length 0 0 digits with
      | (value, _, []) => .ok (wrapped value)
      | (_, _, '#' :: _) => .error "invalid number"
      | _ => .error "value too great for base"
  else
    match word with
    | ['0', 'x'] => .ok 0
    | ['0', 'X'] => .ok 0
    | _ =>
      match readLiteral word with
      | (n, _, []) => .ok (wrapped n)
      | _ => .error "value too great for base"

/-- A number. -/
def readNumber : Summing Sum := do
  let t ← get
  match t.dialect with
  | .common =>
    let (n, _, rest) := readLiteral t.rest
    passOperand rest
    return .number (min n largest)
  | .rich =>
    let word := t.rest.takeWhile fun c => isNameByte c || c = '#' || c = '@'
    let rest := t.rest.drop word.length
    match richNumber word with
    | .ok n =>
      passOperand rest
      return .number n
    | .error words => throw (.badNumber words word rest.length)

/-- The text in brackets up to the one that closes them, given what was read before, last first, and
how many other ones are open. -/
def indexText (done : Bytes) : Nat → Bytes → Option (Bytes × Bytes)
  | _, [] => none
  | opened, c :: rest =>
    if c = ']' then
      match opened with
      | 0 => some (done.reverse, rest)
      | n + 1 => indexText (c :: done) n rest
    else indexText (c :: done) (if c = '[' then opened + 1 else opened) rest

/-- A name, with the text in brackets after it if there are arrays. -/
def readNamed : Summing (Bytes × Bytes) := do
  let t ← get
  let name := t.rest.takeWhile isNameByte
  let rest := t.rest.drop name.length
  match t.dialect, rest with
  | .rich, '[' :: more =>
    match indexText [] 0 more with
    | some (index, after) =>
      passOperand after
      return (name, index)
    | none => throw (.badIndex t.rest)
  | _, _ =>
    passOperand rest
    return (name, [])

/-- The operators by their signs, the longest first, with the strength with which they bind. -/
def operatorSigns : List (String × SumOperator × Nat) :=
  [("<<", .shiftLeft, 7), (">>", .shiftRight, 7), ("<=", .lessOrEqual, 6), (">=", .greaterOrEqual, 6),
    ("==", .equal, 5), ("!=", .unequal, 5), ("*", .times, 9), ("/", .over, 9), ("%", .rest, 9),
    ("+", .plus, 8), ("-", .minus, 8), ("<", .less, 6), (">", .greater, 6), ("&", .bitAnd, 4),
    ("^", .bitXor, 3), ("|", .bitOr, 2)]

/-- The operator at the start of a text, with its strength and what follows it. Signs that give
values, and those that put conditions together, are none. -/
def operatorAt? (bytes : Bytes) : Option (SumOperator × Nat × Bytes) :=
  match operatorSigns.find? fun entry => entry.1.toList.isPrefixOf bytes with
  | none => none
  | some (sign, op, strength) =>
    let rest := bytes.drop sign.length
    let comparison := [SumOperator.less, .lessOrEqual, .greater, .greaterOrEqual, .equal,
      .unequal].contains op
    if rest.head? = some '=' && !comparison then none
    else if (op = .bitAnd && rest.head? = some '&') || (op = .bitOr && rest.head? = some '|') then none
    else some (op, strength, rest)

/-- The sign that gives a value at the start of a text, and what follows it. -/
def assignmentAt? (bytes : Bytes) : Option (Option SumOperator × Bytes) :=
  match bytes with
  | '=' :: '=' :: _ => none
  | '=' :: rest => some (none, rest)
  | _ =>
    match operatorSigns.find? fun entry => (entry.1 ++ "=").toList.isPrefixOf bytes with
    | some (sign, op, strength) =>
      if strength = 6 || strength = 5 then none else some (some op, bytes.drop (sign.length + 1))
    | none => none

/-- The parts of sums that need each other. -/
structure SumGrammar where
  /-- A sum that stands in parentheses or in a choice. -/
  whole : Unit → Summing Sum
  /-- A sum that may give a value. -/
  assignment : Unit → Summing Sum
  /-- A number, a name, or a sum in parentheses, with signs before it. -/
  primary : Unit → Summing Sum
  /-- A choice. -/
  choice : Unit → Summing Sum

/-- A sum up to a parenthesis. -/
def readParenthesized (g : SumGrammar) : Summing Sum := do
  let a ← g.whole ()
  match ← look with
  | ')' :: rest =>
    passSign rest
    return a
  | _ => throw (.expectingClosing (← get).last)

/-- What stands after a name. -/
def readAfterName (name index : Bytes) : Summing Sum := do
  match (← get).dialect with
  | .common => return .named name index
  | .rich =>
    match ← look with
    | '+' :: '+' :: rest =>
      passSign rest
      return .count name index 1 false
    | '-' :: '-' :: rest =>
      passSign rest
      return .count name index (-1) false
    | _ => return .named name index

/-- A name that is counted before its value is taken. -/
def readCounted (step : Int) (rest : Bytes) : Summing Sum := do
  passSign rest
  let _ ← look
  let (name, index) ← readNamed
  match ← look with
  | '+' :: '+' :: more => throw (.noCounter ('+' :: '+' :: more))
  | '-' :: '-' :: more => throw (.noCounter ('-' :: '-' :: more))
  | _ => return .count name index step true

/-- A number, a name, or a sum in parentheses, with signs before it. -/
def readPrimary (g : SumGrammar) : Summing Sum := do
  let rich : Bool := (← get).dialect = .rich
  let found ← look
  let isCounted (rest : Bytes) : Bool :=
    rich && ((rest.dropWhile isSpaceByte).head?.any isNameStart)
  let signed (sign : SumSign) (rest : Bytes) : Summing Sum := do
    passSign rest
    return .signed sign (← g.primary ())
  match found with
  | '(' :: rest =>
    passSign rest
    readParenthesized g
  | '+' :: rest =>
    match rest with
    | '+' :: more =>
      if isCounted more then readCounted 1 more
      else
        passSign rest
        g.primary ()
    | _ =>
      passSign rest
      g.primary ()
  | '-' :: rest =>
    match rest with
    | '-' :: more => if isCounted more then readCounted (-1) more else signed .minus rest
    | _ => signed .minus rest
  | '!' :: rest => signed .not rest
  | '~' :: rest => signed .complement rest
  | c :: _ =>
    if c.isDigit then readNumber
    else if isNameStart c then
      let (name, index) ← readNamed
      readAfterName name index
    else throw (.expectingPrimary (← get).last)
  | [] => throw (.expectingPrimary (← get).last)

/-- A primary, raised to others if there are powers. -/
def readPower (g : SumGrammar) : Nat → Summing Sum
  | 0 => throw (.expectingPrimary [])
  | steps + 1 => do
    let a ← readPrimary g
    match (← get).dialect, ← look with
    | .rich, '*' :: '*' :: rest =>
      if rest.head? = some '=' then return a
      passSign rest
      let b ← readPower g steps
      let _ ← look
      return .binary .power a b (← get).last
    | _, _ => return a

/-- Goes on with operators that bind at least so strong, in at most so many steps. -/
def readBinary (g : SumGrammar) : Nat → Nat → Sum → Summing Sum
  | 0, _, a => return a
  | steps + 1, least, a => do
    match operatorAt? (← look) with
    | some (op, strength, rest) =>
      if strength < least then return a
      passSign rest
      let b ← readPower g steps
      let b ← readBinary g steps (strength + 1) b
      readBinary g steps least (.binary op a b (rest.dropWhile isSpaceByte))
    | none => return a

/-- Sums all of which are to be other than zero, in at most so many steps. -/
def readAnd (g : SumGrammar) : Nat → Summing Sum
  | 0 => throw (.expectingPrimary [])
  | steps + 1 => do
    let a ← readBinary g steps 2 (← readPower g steps)
    match ← look with
    | '&' :: '&' :: rest =>
      passSign rest
      return .and a (← readAnd g steps)
    | _ => return a

/-- Sums one of which is to be other than zero, in at most so many steps. -/
def readOr (g : SumGrammar) : Nat → Summing Sum
  | 0 => throw (.expectingPrimary [])
  | steps + 1 => do
    let a ← readAnd g steps
    match ← look with
    | '|' :: '|' :: rest =>
      passSign rest
      return .or a (← readOr g steps)
    | _ => return a

/-- In the rich language a sum has to follow, at which a sign alone is none. -/
def demandSum (refusesColon : Bool) : Summing Unit := do
  if (← get).dialect = .rich then
    match ← look with
    | [] => throw (.expectingSum (← get).last)
    | ':' :: _ => if refusesColon then throw (.expectingSum (← get).last)
    | _ => pure ()

/-- A choice. -/
def readChoice (g : SumGrammar) (steps : Nat) : Summing Sum := do
  let a ← readOr g steps
  match ← look with
  | '?' :: rest =>
    passSign rest
    demandSum true
    let yes ← g.whole ()
    match ← look with
    | ':' :: rest =>
      passSign rest
      demandSum false
      return .choose a yes (← g.choice ())
    | _ => throw (.expectingColon (← get).last)
  | _ => return a

/-- A sum that may give a value. -/
def readAssignment (g : SumGrammar) (steps : Nat) : Summing Sum := do
  match ← look with
  | c :: _ =>
    let before ← get
    if isNameStart c then
      let (name, index) ← readNamed
      match assignmentAt? (← look) with
      | some (op, rest) =>
        passSign rest
        let a ← g.assignment ()
        let _ ← look
        return .assign name index op a (← get).last
      | none =>
        set before
        readChoice g steps
    else
      let a ← readChoice g steps
      if before.dialect = .rich && (assignmentAt? (← look)).isSome then throw (.noName (← get).last)
      return a
  | [] => readChoice g steps

/-- Sums one after another, in at most so many steps. -/
def readSequence (g : SumGrammar) : Nat → Summing Sum
  | 0 => throw (.expectingPrimary [])
  | steps + 1 => do
    let a ← g.assignment ()
    match ← look with
    | ',' :: rest =>
      passSign rest
      return .sequence a (← readSequence g steps)
    | _ => return a

/-- The parts of sums nested up to so deep. -/
def SumGrammar.upTo (dialect : Dialect) : Nat → SumGrammar
  | 0 =>
    let none : Unit → Summing Sum := fun _ => throw (.expectingPrimary [])
    ⟨none, none, none, none⟩
  | depth + 1 =>
    { whole := fun _ => match dialect with
        | .common => readAssignment (upTo dialect depth) (depth + 1)
        | .rich => readSequence (upTo dialect depth) (depth + 1)
      assignment := fun _ => readAssignment (upTo dialect depth) (depth + 1)
      primary := fun _ => readPrimary (upTo dialect depth)
      choice := fun _ => readChoice (upTo dialect depth) (depth + 1) }

/-- The sum that a text is. In the rich language nothing at all is zero. -/
def Sum.read (dialect : Dialect) (text : Bytes) : Except SumFault Sum := do
  if dialect = .rich && text.all isSpaceByte then return .number 0
  let g := SumGrammar.upTo dialect (text.length + 3)
  let whole : Summing Sum := do
    let a ← g.whole ()
    match ← look with
    | [] => return a
    | rest =>
      if (assignmentAt? rest).isSome && dialect = .rich then throw (.noName rest)
      else throw (.expectingEnd rest)
  let (a, _) ← whole.run { dialect, rest := text, last := [] }
  return a

/-! ## Values -/

/-- The names in sums. -/
structure Names (m : Type → Type) where
  /-- The value of a name, or of an element of an array. -/
  get : Bytes → Bytes → m Int
  /-- Gives a value. -/
  set : Bytes → Bytes → Int → m Unit
  /-- Finds that there is no value. -/
  refuse : SumFault → m Int

/-- What a truth is as a number. -/
def truth (b : Bool) : Int := if b then 1 else 0

/-- What is made of the 64 binary digits of two numbers. -/
def bitwise (f : Nat → Nat → Nat) (a b : Int) : Int :=
  wrapped (f (a % 2 ^ 64).toNat (b % 2 ^ 64).toNat)

/-- What an operator makes of two numbers; none if there is nothing. -/
def SumOperator.apply? (op : SumOperator) (a b : Int) : Option Int :=
  match op with
  | .times => some (wrapped (a * b))
  | .over => if b = 0 then none else some (wrapped (a.tdiv b))
  | .rest => if b = 0 then none else some (wrapped (a.tmod b))
  | .power => if b < 0 then none else some (wrapped (a ^ (min b 4096).toNat))
  | .plus => some (wrapped (a + b))
  | .minus => some (wrapped (a - b))
  | .shiftLeft => some (wrapped (a * 2 ^ (b % 64).toNat))
  | .shiftRight => some (a.fdiv (2 ^ (b % 64).toNat))
  | .less => some (truth (decide (a < b)))
  | .lessOrEqual => some (truth (decide (a ≤ b)))
  | .greater => some (truth (decide (b < a)))
  | .greaterOrEqual => some (truth (decide (b ≤ a)))
  | .equal => some (truth (a == b))
  | .unequal => some (truth (a != b))
  | .bitAnd => some (bitwise Nat.land a b)
  | .bitXor => some (bitwise Nat.xor a b)
  | .bitOr => some (bitwise Nat.lor a b)

/-- The value of a sum. -/
def Sum.value {m : Type → Type} [Monad m] (names : Names m) : Sum → m Int
  | .number n => pure n
  | .named name index => names.get name index
  | .signed sign a => do
    let n ← a.value names
    return match sign with
      | .minus => wrapped (-n)
      | .not => truth (n == 0)
      | .complement => -n - 1
  | .binary op a b rest => do
    let x ← a.value names
    let y ← b.value names
    match op.apply? x y with
    | some n => return n
    | none => names.refuse (if op = .power then .negativePower rest else .divisionByZero rest)
  | .and a b => do
    if (← a.value names) = 0 then return 0
    return truth ((← b.value names) != 0)
  | .or a b => do
    if (← a.value names) ≠ 0 then return 1
    return truth ((← b.value names) != 0)
  | .choose c yes no => do
    if (← c.value names) ≠ 0 then yes.value names else no.value names
  | .assign name index op a rest => do
    let x ← a.value names
    match op with
    | none =>
      names.set name index x
      return x
    | some op =>
      let before ← names.get name index
      match op.apply? before x with
      | some n =>
        names.set name index n
        return n
      | none => names.refuse (.divisionByZero rest)
  | .count name index step first => do
    let n ← names.get name index
    names.set name index (wrapped (n + step))
    return if first then wrapped (n + step) else n
  | .sequence a b => do
    let _ ← a.value names
    b.value names

end FormatChain.Shell
