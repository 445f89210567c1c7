import FormatChain.Tools.Awk.Syntax
import FormatChain.Tools.Awk.Token

/-!
# Written programs for records

Operators bind in levels.  Terms are joined by arithmetic; texts one after the other are joined by
nothing; then come comparisons, patterns, members, choices and assignments.  When a word is misplaced,
the rest of the statement is skipped, and what follows is still read for what else is wrong with it.

* `Grammar` : the parts of a program that need each other.
* `readTerm`, `readExpression` : terms and expressions.
* `readStatement` : statements.
* `Script.read` : the program that bytes write, or what is wrong with them.
-/

namespace FormatChain.Tools.Awk

open FormatChain.Process

/-- The parts of a program that need each other. -/
structure Grammar where
  /-- A term with operators that bind at least so closely. -/
  term : Nat → Reading Expr
  /-- An expression with operators that bind at least so closely; its start may have been read. -/
  expression : Option Expr → Nat → Reading Expr
  /-- A statement. -/
  statement : Unit → Reading Statement

/-! ## Names -/

/-- The name of a kind. -/
def Kind.shown (here : Bool) : Kind → String
  | .array => if here then "local array" else "array"
  | .function => "function"
  | _ => if here then "local variable" else "variable"

/-- Takes a name as one of a kind, and complains if it is one of another kind. -/
def settle (name : Bytes) (kind : Kind) : Reading Unit := do
  let s ← get
  let here := s.locals.any fun entry => entry.1 = name
  let table := if here then s.locals else s.kinds
  let found : Kind := ((table.find? fun entry => entry.1 = name).map (·.2)).getD .unknown
  let changed := (name, kind) :: table.filter fun entry => entry.1 != name
  if found = .unknown then
    set (if here then { s with locals := s.locals.map fun entry => if entry.1 = name then (name, kind) else entry }
      else { s with kinds := changed })
  else if found != kind then
    object s!"illegal reference to {found.shown here} {textOf name}"

/-- The compiled pattern of a written one. -/
def compile (bytes : Bytes) : Reading Pattern := do
  match readPattern bytes with
  | .ok p => return p
  | .error fault =>
    object s!"regular expression compile failed ({fault.message})\n{textOf bytes}"
    return { regex := .empty }

/-! ## Terms -/

/-- Whether an expression can get a value. -/
def isTarget : Expr → Bool
  | .variable _ => true
  | .field _ => true
  | .element _ _ => true
  | .several [.field _] => true
  | _ => false

/-- Expressions with commas between them, at most so many; `done` were read before, last first. -/
def readList (g : Grammar) : Nat → List Expr → Reading (List Expr)
  | 0, done => return done.reverse
  | steps + 1, done => do
    let e ← g.expression none 0
    if ← takeMark "," then readList g steps (e :: done) else return (e :: done).reverse

/-- Expressions with commas between them. -/
def readItems (g : Grammar) : Reading (List Expr) := do readList g ((← get).rest.length + 2) []

/-- Expressions in parentheses, of which the first one is next.  If a word is misplaced in them, all is
skipped up to the end. -/
def readParenthesized (g : Grammar) : Reading (List Expr) :=
  recovering (do
    expect "("
    let items ← readItems g
    expect ")"
    return items) fun token =>
      match token with
      | .closeParen => some (do
        advance
        return [.number 0])
      | _ => none

/-- The variable or the element of a name that was read. -/
def readNamed (g : Grammar) (name : Bytes) : Reading Expr := do
  match ← upcoming with
  | .openBracket =>
    settle name .array
    advance
    let keys ← readItems g
    expect "]"
    return .element (String.ofList name) keys
  | _ => return .variable (String.ofList name)

/-- Notes that a variable is one. -/
def settled (e : Expr) : Reading Expr := do
  match e with
  | .variable name =>
    settle name.toList .variable
    return e
  | e => return e

/-- How often a term is counted up or down after its value is taken. -/
def readCounted (e : Expr) : Reading Expr := do
  match ← upcoming with
  | .count up =>
    if isTarget e then
      advance
      return .count e (if up then 1 else -1) true
    else return e
  | _ => return e

/-- What stands after a dollar sign. -/
def readPlace (g : Grammar) : Reading Expr := do
  match ← upcoming with
  | .fieldName name =>
    advance
    return .field (← settled (← readNamed g name))
  | .mark "-" =>
    advance
    return .field (.minus (← g.term 13))
  | .mark "+" =>
    advance
    return .field (.plus (← g.term 13))
  | .mark "!" =>
    advance
    return .field (.not (← g.term 13))
  | _ => return .field (← g.term 15)

/-- A variable, a field or an element, if one is next. -/
def readTarget? (g : Grammar) : Reading (Option Expr) := do
  match ← upcoming with
  | .name name =>
    advance
    return some (← settled (← readNamed g name))
  | .field n =>
    advance
    return some (.field (.number (Float.ofNat n)))
  | .fieldCount =>
    advance
    return some (.variable "NF")
  | .dollar =>
    advance
    return some (← readPlace g)
  | _ => return none

/-- What a function is given: names alone are not settled, at most so many. -/
def readGiven (g : Grammar) : Nat → List (Expr × Option Bytes) → Reading (List (Expr × Option Bytes))
  | 0, done => return done.reverse
  | steps + 1, done => do
    let given ← do
      match ← upcoming with
      | .name name =>
        advance
        match ← upcoming with
        | .mark "," => pure (Expr.variable (String.ofList name), some name)
        | .closeParen => pure (Expr.variable (String.ofList name), some name)
        | _ =>
          putBack (.name name)
          pure (← g.expression none 0, none)
      | _ => pure (← g.expression none 0, none)
    if ← takeMark "," then readGiven g steps (given :: done) else return (given :: done).reverse

/-- What stands in the parentheses of a call, perhaps nothing. -/
def readCallArguments (g : Grammar) : Reading (List (Expr × Option Bytes)) := do
  expect "("
  match ← upcoming with
  | .closeParen =>
    advance
    return []
  | _ =>
    let given ← readGiven g ((← get).rest.length + 2) []
    expect ")"
    return given

/-- What stands in the parentheses of a call that is given one thing at most. -/
def readOnly (g : Grammar) : Reading (List (Expr × Option Bytes)) := do
  expect "("
  match ← upcoming with
  | .closeParen =>
    advance
    return []
  | .name name =>
    advance
    let next ← upcoming
    let isAlone := (next matches .closeParen) || (next matches .mark ",")
    if !isAlone then putBack (.name name)
    let e ← if isAlone then pure (Expr.variable (String.ofList name)) else g.expression none 0
    expect ")"
    return [(e, none)]
  | _ =>
    let e ← g.expression none 0
    expect ")"
    return [(e, none)]

/-- A call of a function of the language. -/
def readBuiltin (g : Grammar) (name : String) : Reading Expr := do
  let given ← if name = "length" then readOnly g else readCallArguments g
  if name != "length" then
    for (e, _) in given do
      let _ ← settled e
  let fits := match builtins.find? fun entry => entry.1 = name with
    | some (_, least, most) => least ≤ given.length && given.length ≤ most
    | none => true
  if !fits then object s!"wrong number of arguments in call to {name}"
  return .builtin name (given.map (·.1))

/-- A call of a function that has its own way of being given something. -/
def readSpecial (g : Grammar) (word : String) : Reading Expr := do
  expect "("
  let first ← g.expression none 0
  expect ","
  if word = "split" then
    match ← upcoming with
    | .name array =>
      advance
      settle array .array
      let into := Expr.variable (String.ofList array)
      if ← takeMark "," then
        let separator ← g.expression none 0
        expect ")"
        return .builtin word [first, into, separator]
      else
        expect ")"
        return .builtin word [first, into]
    | _ => misplaced
  else if word = "match" then
    let second ← g.expression none 0
    expect ")"
    return .builtin word [first, second]
  else
    let second ← g.expression none 0
    if ← takeMark "," then
      match ← readTarget? g with
      | some target =>
        expect ")"
        return .builtin word [first, second, target]
      | none => misplaced
    else
      expect ")"
      return .builtin word [first, second]

/-- A line that is read. -/
def readGetting (g : Grammar) : Reading Expr := do
  modify fun s => { s with getting := true }
  let target ← readTarget? g
  match ← upcoming with
  | .source =>
    advance
    return .readFile (← g.term 14) target
  | _ =>
    modify fun s => { s with getting := false }
    return .readMain target

/-- An array after the word for members. -/
def readArray : Reading String := do
  match ← upcoming with
  | .name name =>
    advance
    settle name .array
    return String.ofList name
  | _ => misplaced

/-- A term without operators, except those that bind more closely than all others. -/
def readPrimary (g : Grammar) : Reading Expr := do
  match ← upcoming with
  | .number x _ =>
    advance
    return .number x
  | .text bytes _ =>
    advance
    return .text bytes
  | .pattern bytes =>
    let p ← compile bytes
    advance
    return .pattern p
  | .openParen =>
    match ← readParenthesized g with
    | [e] => readCounted (.several [e])
    | items =>
      if ← takeKeyword "in" then return .member items (← readArray) else misplaced
  | .name name =>
    advance
    readCounted (← settled (← readNamed g name))
  | .field n =>
    advance
    readCounted (.field (.number (Float.ofNat n)))
  | .fieldCount =>
    advance
    readCounted (.variable "NF")
  | .dollar =>
    advance
    readCounted (← readPlace g)
  | .count up =>
    advance
    match ← readTarget? g with
    | some e => return .count e (if up then 1 else -1) false
    | none => misplaced
  | .function name =>
    advance
    let given ← readCallArguments g
    let s ← get
    match s.defined.find? fun entry => entry.1 = name with
    | some (_, most) =>
      if most < given.length then object s!"too many arguments in call to {textOf name}"
    | none => pure ()
    modify fun s => { s with calls := ⟨name, given.map (·.2)⟩ :: s.calls }
    return .call (String.ofList name) (given.map (·.1))
  | .builtin name =>
    advance
    readBuiltin g name
  | .bareLength =>
    advance
    return .builtin "length" []
  | .keyword word =>
    if word = "getline" then
      modify fun s => { s with getting := true }
      advance
      readGetting g
    else if ["split", "match", "sub", "gsub"].contains word then
      advance
      readSpecial g word
    else misplaced
  | _ => misplaced

/-- The operator of arithmetic that a mark is, with how closely it binds. -/
def arithmetic? (mark : String) : Option (Operator × Nat) :=
  match mark with
  | "+" => some (.add, 10)
  | "-" => some (.subtract, 10)
  | "*" => some (.multiply, 11)
  | "/" => some (.divide, 11)
  | "%" => some (.remainder, 11)
  | "^" => some (.power, 14)
  | _ => none

/-- A term that goes on after its start with operators that bind at least so closely, in at most so
many steps. -/
def continueTerm (g : Grammar) (least : Nat) : Nat → Expr → Reading Expr
  | 0, e => return e
  | steps + 1, e => do
    match ← upcoming with
    | .mark "|" =>
      if least ≤ 13 then
        advance
        if ← takeKeyword "getline" then
          continueTerm g least steps (.readCommand e (← readTarget? g))
        else misplaced
      else return e
    | .mark text =>
      match arithmetic? text with
      | some (op, level) =>
        if least ≤ level then
          advance
          let right ← g.term (if op = .power then level else level + 1)
          continueTerm g least steps (.binary op e right)
        else return e
      | none => return e
    | _ => return e

/-- A term with operators that bind at least so closely; its start may have been read. -/
def readTerm (g : Grammar) (start : Option Expr) (least : Nat) : Reading Expr := do
  let e ← match start with
    | some e => pure e
    | none =>
      match ← upcoming with
      | .mark "!" => do
        advance
        pure (.not (← g.term 13))
      | .mark "-" => do
        advance
        pure (.minus (← g.term 13))
      | .mark "+" => do
        advance
        pure (.plus (← g.term 13))
      | _ => readPrimary g
  continueTerm g least ((← get).rest.length + 4) e

/-! ## Expressions -/

/-- Whether a token can start a term after another one. -/
def Token.startsTerm : Token → Bool
  | .number _ _ => true
  | .text _ _ => true
  | .pattern _ => true
  | .openParen => true
  | .name _ => true
  | .field _ => true
  | .fieldCount => true
  | .dollar => true
  | .count _ => true
  | .function _ => true
  | .builtin _ => true
  | .bareLength => true
  | .mark written => written = "!"
  | .keyword word => ["getline", "split", "match", "sub", "gsub"].contains word
  | _ => false

/-- Terms one after the other, in at most so many steps. -/
def joinTerms (g : Grammar) : Nat → Expr → Reading Expr
  | 0, e => return e
  | steps + 1, e => do
    if (← upcoming).startsTerm then joinTerms g steps (.binary .concatenate e (← g.term 10))
    else return e

/-- The operator with which a mark changes a value. -/
def updateOperator? (mark : String) : Option Operator :=
  match mark with
  | "+=" => some .add
  | "-=" => some .subtract
  | "*=" => some .multiply
  | "/=" => some .divide
  | "%=" => some .remainder
  | "^=" => some .power
  | _ => none

/-- The comparison that a mark is. -/
def comparison? (mark : String) : Option Operator :=
  match mark with
  | "==" => some .equal
  | "!=" => some .notEqual
  | "<" => some .less
  | "<=" => some .lessOrEqual
  | ">" => some .greater
  | ">=" => some .greaterOrEqual
  | _ => none

/-- An expression that goes on after its start with operators that bind at least so closely, in at
most so many steps. -/
def continueExpression (g : Grammar) (least : Nat) : Nat → Expr → Reading Expr
  | 0, e => return e
  | steps + 1, e => do
    match ← upcoming with
    | .fits wanted =>
      if least ≤ 6 then
        advance
        let pattern ← g.expression none 7
        let found := Expr.fits e pattern
        continueExpression g least steps (if wanted then found else .not found)
      else return e
    | .keyword "in" =>
      if least ≤ 5 then
        advance
        continueExpression g least steps (.member [e] (← readArray))
      else return e
    | .mark "?" =>
      if least ≤ 2 then
        advance
        let yes ← g.expression none 0
        expect ":"
        return .choose e yes (← g.expression none 2)
      else return e
    | .mark "||" =>
      if least ≤ 3 then
        advance
        continueExpression g least steps (.or e (← g.expression none 4))
      else return e
    | .mark "&&" =>
      if least ≤ 4 then
        advance
        continueExpression g least steps (.and e (← g.expression none 5))
      else return e
    | .mark text =>
      match comparison? text with
      | some op =>
        if least ≤ 7 then
          advance
          continueExpression g least steps (.binary op e (← g.expression none 8))
        else return e
      | none => return e
    | _ => return e

/-- An expression with operators that bind at least so closely; its start may have been read. -/
def readExpression (g : Grammar) (start : Option Expr) (least : Nat) : Reading Expr := do
  let first ← readTerm g start 10
  let assigned ← do
    match isTarget first, ← upcoming with
    | true, .mark text =>
      if text = "=" then
        advance
        pure (some (Expr.assign first (← g.expression none 0)))
      else
        match updateOperator? text with
        | some op => do
          advance
          pure (some (Expr.update op first (← g.expression none 0)))
        | none => pure none
    | _, _ => pure none
  match assigned with
  | some e => return e
  | none =>
    let steps := (← get).rest.length + 4
    continueExpression g least steps (← joinTerms g steps first)

/-! ## Statements -/

/-- Ends a simple statement. -/
def endStatement : Reading Unit := do
  match ← upcoming with
  | .semicolon _ => advance
  | .newline => advance
  | _ => misplaced

/-- Where something is written. -/
def readSink (g : Grammar) : Reading Sink := do
  match ← upcoming with
  | .sink mark =>
    advance
    let e ← g.expression none 0
    return match mark with
      | ">>" => .append e
      | ">" => .file e
      | _ => .command e
  | _ => return .output

/-- What a statement writes, and where. -/
def readPrinted (g : Grammar) : Reading (List Expr × Sink) := do
  modify fun s => { s with printing := true }
  let onward (first : Expr) : Reading (List Expr) := do
    if ← takeMark "," then readList g ((← get).rest.length + 2) [first] else return [first]
  let items ← do
    match ← upcoming with
    | .semicolon _ => pure []
    | .newline => pure []
    | .sink _ => pure []
    | .openParen =>
      advance
      match ← upcoming with
      | .closeParen =>
        advance
        pure []
      | _ =>
        putBack .openParen
        match ← readParenthesized g with
        | [e] => onward (← g.expression (some (← readCounted (.several [e]))) 0)
        | items =>
          if ← takeKeyword "in" then
            let member := Expr.member items (← readArray)
            onward (← g.expression (some member) 0)
          else pure items
    | _ => readItems g
  let sink ← readSink g
  modify fun s => { s with printing := false }
  return (items, sink)

/-- Statements up to a closing brace, in at most so many steps. -/
def readBlock (g : Grammar) : Nat → List Statement → Reading Statement
  | 0, done => return .block done.reverse
  | steps + 1, done => do
    match done, ← upcoming with
    | _ :: _, .closeBrace =>
      advance
      return .block done.reverse
    | _, _ => readBlock g steps ((← g.statement ()) :: done)

/-- The condition of a statement, in parentheses. -/
def readCondition (g : Grammar) : Reading Expr := do
  expect "("
  let e ← g.expression none 0
  expect ")"
  return e

/-- The body of a loop. -/
def readBody (g : Grammar) : Reading Statement := do
  modify fun s => { s with loops := s.loops + 1 }
  let body ← g.statement ()
  modify fun s => { s with loops := s.loops - 1 }
  return body

/-- A loop after its word. -/
def readFor (g : Grammar) : Reading Statement := do
  expect "("
  let named ← do
    match ← upcoming with
    | .name name =>
      advance
      match ← upcoming with
      | .keyword "in" =>
        advance
        pure (some name)
      | _ =>
        putBack (.name name)
        pure none
    | _ => pure none
  match named with
  | some name =>
    settle name .variable
    let array ← readArray
    expect ")"
    skipLines
    return .forKeys (String.ofList name) array (← readBody g)
  | none =>
    let part (ending : String) : Reading (Option Expr) := do
      if (← upcoming).shown? = some ending then
        advance
        return none
      else
        let e ← g.expression none 0
        expect ending
        return some e
    let first ← part ";"
    let condition ← part ";"
    let step ← part ")"
    skipLines
    return .forLoop (first.map .evaluate) condition (step.map .evaluate) (← readBody g)

/-- A value after a word, if there is one, and the end of the statement. -/
def optionalValue (g : Grammar) : Reading (Option Expr) := do
  match ← upcoming with
  | .semicolon _ =>
    advance
    return none
  | .newline =>
    advance
    return none
  | _ =>
    let e ← g.expression none 0
    endStatement
    return some e

/-- Complains of a word that has no business where statements stand. -/
def needScope (scope : Scope) (text : String) : Reading Unit := do
  if (← get).scope != scope then object text

/-- Complains of a word that belongs into a loop. -/
def needLoop (word : String) : Reading Unit := do
  if (← get).loops = 0 then object s!"{word} statement outside of loop"

/-- A statement that begins with a word of its own. -/
def readWorded (g : Grammar) (word : String) : Reading Statement := do
  match word with
  | "print" =>
    modify fun s => { s with printing := true }
    advance
    let (items, sink) ← readPrinted g
    endStatement
    return .print items sink
  | "printf" =>
    modify fun s => { s with printing := true }
    advance
    let (items, sink) ← readPrinted g
    if items.isEmpty then object "no arguments in call to printf"
    endStatement
    return .printf items sink
  | "delete" =>
    advance
    match ← upcoming with
    | .name name =>
      advance
      settle name .array
      match ← upcoming with
      | .openBracket =>
        advance
        let keys ← readItems g
        expect "]"
        endStatement
        return .delete (String.ofList name) keys
      | _ =>
        endStatement
        return .deleteAll (String.ofList name)
    | _ => misplaced
  | "if" =>
    advance
    let c ← readCondition g
    skipLines
    let yes ← g.statement ()
    match ← upcoming with
    | .keyword "else" =>
      advance
      skipLines
      return .choose c yes (some (← g.statement ()))
    | _ => return .choose c yes none
  | "while" =>
    advance
    let c ← readCondition g
    skipLines
    return .whileLoop c (← readBody g)
  | "do" =>
    advance
    skipLines
    let body ← readBody g
    if ← takeKeyword "while" then
      let c ← readCondition g
      endStatement
      return .doLoop body c
    else misplaced
  | "for" =>
    advance
    readFor g
  | "break" =>
    advance
    endStatement
    needLoop word
    return .leave
  | "continue" =>
    advance
    endStatement
    needLoop word
    return .again
  | "nextfile" =>
    advance
    endStatement
    needScope .main "improper use of nextfile"
    return .nextFile
  | "next" =>
    advance
    endStatement
    needScope .main "improper use of next"
    return .next
  | "exit" =>
    advance
    return .exit (← optionalValue g)
  | "return" =>
    advance
    let value ← optionalValue g
    needScope .function "return outside function body"
    return .return value
  | _ =>
    let e ← g.expression none 0
    endStatement
    return .evaluate e

/-- A statement; if a word in it is misplaced, the rest of it is skipped. -/
def readStatement (g : Grammar) : Reading Statement :=
  recovering (do
    match ← upcoming with
    | .openBrace =>
      advance
      readBlock g ((← get).rest.length + 2) []
    | .semicolon _ =>
      advance
      return .block []
    | .newline =>
      advance
      return .block []
    | .keyword word => readWorded g word
    | _ => readWorded g "") fun token =>
      if token.endsStatement then
        match token with
        | .closeBrace => none
        | _ => some (do
          advance
          modify fun s => { s with printing := false, getting := false, parens := 0, quiet := 0 }
          return .block [])
      else none

/-- The parts of a program, nested up to so deep. -/
def grammar : Nat → Grammar
  | 0 => ⟨fun _ => misplaced, fun _ _ => misplaced, fun _ => misplaced⟩
  | depth + 1 =>
    ⟨fun least => readTerm (grammar depth) none least,
      fun start least => readExpression (grammar depth) start least,
      fun _ => readStatement (grammar depth)⟩

/-! ## Programs -/

/-- An action in braces. -/
def readAction (g : Grammar) (scope : Scope) : Reading Statement := do
  modify fun s => { s with scope }
  match ← upcoming with
  | .openBrace =>
    advance
    readBlock g ((← get).rest.length + 2) []
  | _ => misplaced

/-- The action after a condition, or the end of the line. -/
def readAction? (g : Grammar) : Reading (Option Statement) := do
  match ← upcoming with
  | .openBrace => return some (← readAction g .main)
  | _ =>
    endStatement
    return none

/-- The names of what a function is given, in at most so many steps. -/
def readParameters : Nat → List Bytes → Reading (List Bytes)
  | 0, done => return done.reverse
  | steps + 1, done => do
    match ← upcoming with
    | .name name =>
      advance
      if done.contains name then object s!"{textOf name} is duplicated in argument list"
      else modify fun s => { s with locals := s.locals ++ [(name, .unknown)] }
      if ← takeMark "," then readParameters steps (name :: done) else return (name :: done).reverse
    | _ => misplaced

/-- A function after its word. -/
def readFunction (g : Grammar) : Reading Function := do
  let name ← match ← upcoming with
    | .function name => do
      advance
      if (← get).defined.any fun entry => entry.1 = name then object s!"redefinition of {textOf name}"
      pure name
    | .name name => do
      advance
      settle name .function
      pure name
    | _ => misplaced
  expect "("
  let parameters ← match ← upcoming with
    | .closeParen => pure []
    | _ => do readParameters ((← get).rest.length + 1) []
  expect ")"
  skipLines
  modify fun s => { s with defined := (name, parameters.length) :: s.defined }
  let body ← readAction g .function
  modify fun s => { s with locals := [], scope := .main }
  return ⟨String.ofList name, parameters.map String.ofList, body⟩

/-- A rule. -/
def readRule (g : Grammar) : Reading Rule := do
  match ← upcoming with
  | .keyword "BEGIN" =>
    advance
    return ⟨.start, some (← readAction g .apart)⟩
  | .keyword "END" =>
    advance
    return ⟨.finish, some (← readAction g .apart)⟩
  | .openBrace => return ⟨.always, some (← readAction g .main)⟩
  | _ =>
    modify fun s => { s with scope := .main }
    let first ← g.expression none 0
    if ← takeMark "," then
      let last ← g.expression none 0
      return ⟨.between first last, ← readAction? g⟩
    else return ⟨.holds first, ← readAction? g⟩

/-- All rules and functions, in at most so many steps; if a word between them is misplaced, all is
skipped up to the next action. -/
def readScript (g : Grammar) : Nat → Script → Reading Script
  | 0, s => return s
  | steps + 1, s => do
    match ← upcoming with
    | .finish => return { rules := s.rules.reverse, functions := s.functions.reverse }
    | _ =>
      let next ← recovering (do
        if ← takeKeyword "function" then
          return { s with functions := (← readFunction g) :: s.functions }
        else return { s with rules := (← readRule g) :: s.rules }) fun token =>
          match token with
          | .openBrace => some (do
            let _ ← readAction g .main
            modify fun s => { s with locals := [] }
            return s)
          | _ => none
      readScript g steps next

/-- Complains of functions that are called and not there. -/
def checkCalls : Reading Unit := do
  let s ← get
  let calls := if s.complaints.isEmpty then s.calls else []
  for call in calls do
    match s.defined.find? fun entry => entry.1 = call.name with
    | none => object s!"function {textOf call.name} never defined"
    | some (_, most) =>
      if most < call.args.length && !s.complaints.any fun text => text.endsWith s!"in call to {textOf call.name}" then
        object s!"too many arguments in call to {textOf call.name}"

/-- The program that bytes write, or all that is wrong with them. -/
def Script.read (bytes : Bytes) : Except (List String) Script :=
  let whole : Reading Script := do
    skipLines
    let script ← readScript (grammar (2 * bytes.length + 20)) (bytes.length + 2) ⟨[], []⟩
    checkCalls
    return script
  let (result, s) := (whole.run).run { rest := bytes ++ ['\n'] }
  match result with
  | .ok script => if s.complaints.isEmpty then .ok script else .error s.complaints.reverse
  | .error _ => .error s.complaints.reverse

end FormatChain.Tools.Awk
