import FormatChain.Json.Token
import FormatChain.Json.Value

/-!
# Reading a settings text

A text holds at most one value.  Commas between members and elements may be left out, and one may
stand before the end of a mapping or a sequence; a name may be quoted, a bare word or a number.
When a name stands twice, the last value counts, at the first one's place.

The reader goes over the tokens once.  It keeps the mappings and sequences that are still open, and
what it expects next.

* `read` : the value of a text, none if there is nothing but white space and comments.
* `ReadFailure` : why there is none; a number too large for a double counts only when nothing else
  is wrong with the text.
-/

namespace FormatChain.Json

/-- A mapping or a sequence that is still open, with the index of its start. -/
inductive Open where
  /-- A mapping: the fields read, and the name whose value is being read. -/
  | object (start : Nat) (fields : List (String × Value)) (name : String)
  /-- A sequence: the elements read, last first. -/
  | array (start : Nat) (items : List Value)

/-- The index at which it starts. -/
def Open.start : Open → Nat
  | .object start _ _ => start
  | .array start _ => start

/-- What may come next. -/
inductive Expectation where
  /-- The value of the text. -/
  | root
  /-- A member of the innermost mapping, or its end. -/
  | member
  /-- The same, or a comma before it. -/
  | commaOrMember
  /-- The colon after a name. -/
  | colon
  /-- The value after a colon. -/
  | fieldValue
  /-- An element of the innermost sequence, or its end. -/
  | element
  /-- The same, or a comma before it. -/
  | commaOrElement
  /-- Nothing: the value is complete. -/
  | nothing (value : Value)

/-- Why a text has no value that can be kept. -/
inductive ReadFailure where
  /-- The text is malformed. -/
  | malformed (error : ReadError)
  /-- A number is too large for a double. -/
  | numberTooLarge
  deriving Repr, DecidableEq

/-- What the reader has read: what is open, innermost first, what comes next, and whether some
number was too large. -/
structure Reading where
  /-- The open mappings and sequences, innermost first. -/
  stack : List Open
  /-- What may come next. -/
  expected : Expectation
  /-- Whether a number was too large for a double. -/
  tooLarge : Bool

/-- Reading after a complete value. -/
def Reading.complete (r : Reading) (value : Value) : Reading :=
  match r.stack with
  | [] => { r with expected := .nothing value }
  | .object start fields name :: outer =>
    { r with stack := .object start (Entries.set name value fields) "" :: outer,
             expected := .commaOrMember }
  | .array start items :: outer =>
    { r with stack := .array start (value :: items) :: outer, expected := .commaOrElement }

/-- Reading after a token where a value should stand. -/
def Reading.value (r : Reading) (token : Token) (index : Nat) : Except Fault Reading :=
  match token with
  | .openBrace => .ok { r with stack := .object index [] "" :: r.stack, expected := .member }
  | .openBracket => .ok { r with stack := .array index [] :: r.stack, expected := .element }
  | .string text => .ok (r.complete (.string text))
  | .bool value => .ok (r.complete (.bool value))
  | .null => .ok (r.complete .null)
  | .number numeral =>
    match numeral.value with
    | some number => .ok (r.complete (.number number))
    | none => .ok { r.complete .null with tooLarge := true }
  | .closeBrace => .error .unexpectedCloseBrace
  | .closeBracket => .error .unexpectedCloseBracket
  | .comma => .error .unexpectedComma
  | .colon => .error .unexpectedColon
  | .word _ => .error .unexpectedWord

/-- Reading after the name of a member. -/
def Reading.name (r : Reading) (name : String) : Reading :=
  match r.stack with
  | .object start fields _ :: outer =>
    { r with stack := .object start fields name :: outer, expected := .colon }
  | _ => r

/-- Reading after the end of the innermost mapping or sequence. -/
def Reading.close (r : Reading) : Reading :=
  match r.stack with
  | .object _ fields _ :: outer => { r with stack := outer }.complete (.object fields)
  | .array _ items :: outer => { r with stack := outer }.complete (.array items.reverse)
  | [] => r

/-- Reading after a token where a member or the end of a mapping should stand. -/
def Reading.member (r : Reading) (token : Token) : Except Fault Reading :=
  match token with
  | .closeBrace => .ok r.close
  | .string text => .ok (r.name text)
  | .word text => .ok (r.name text)
  | .number numeral => .ok (r.name numeral.text)
  | _ => .error .unexpectedTokenInObject

/-- Reading after a token where an element or the end of a sequence should stand. -/
def Reading.element (r : Reading) (token : Token) (index : Nat) : Except Fault Reading :=
  match token with
  | .closeBracket => .ok r.close
  | _ => r.value token index

/-- Reading after one more token. -/
def Reading.next (r : Reading) (token : Token) (index : Nat) : Except Fault Reading :=
  match r.expected with
  | .root | .fieldValue => r.value token index
  | .member => r.member token
  | .commaOrMember =>
    match token with
    | .comma => .ok { r with expected := .member }
    | _ => r.member token
  | .colon =>
    match token with
    | .colon => .ok { r with expected := .fieldValue }
    | _ => .error .expectedColon
  | .element => r.element token index
  | .commaOrElement =>
    match token with
    | .comma => .ok { r with expected := .element }
    | _ => r.element token index
  | .nothing _ => .error .moreThanOneValue

/-- The index at which the innermost open mapping or sequence starts. -/
def Reading.openStart (r : Reading) : Nat :=
  match r.stack with
  | inner :: _ => inner.start
  | [] => 0

/-- The value when the text ends, or the fault of its ending at this index. -/
def Reading.finish (r : Reading) (index : Nat) : Except (Fault × Nat) (Option Value) :=
  match r.expected with
  | .root => .ok none
  | .nothing value => .ok (some value)
  | .member | .commaOrMember => .error (.unterminatedObject, r.openStart)
  | .element | .commaOrElement => .error (.unterminatedArray, r.openStart)
  | .colon => .error (.expectedColon, index)
  | .fieldValue => .error (.expectedFieldValue, index)

/-- Reads the tokens one after the other: the value, and whether some number was too large. -/
def readTokens (r : Reading) : Tokens → Except (Fault × Nat) (Option Value × Bool)
  | .finish index => (r.finish index).map fun value => (value, r.tooLarge)
  | .fault fault index => .error (fault, index)
  | .token token index rest =>
    match r.next token index with
    | .ok after => readTokens after rest
    | .error fault => .error (fault, index)

/-- The value of a text, if there is one. -/
def read (text : String) : Except ReadFailure (Option Value) :=
  let chars := text.toList
  match readTokens ⟨[], .root, false⟩ (tokens chars) with
  | .ok (_, true) => .error .numberTooLarge
  | .ok (value, false) => .ok value
  | .error (fault, index) => .error (.malformed ⟨fault, Place.ofIndex chars index⟩)

end FormatChain.Json
