import FormatChain.Json.Number
import FormatChain.OrderedMap
import FormatChain.Text.Quoted

/-!
# Values of settings

A setting has a value, which can be shown as a compact text.

A value is null, a truth value, a number, a text, a sequence or a mapping.  The entries of a mapping
stand in the order in which they were written.

* `Value` : the values.
* `Value.same` : equality, for which the order of a mapping's entries does not count.
* `Value.text` : the text of a value.
-/

namespace FormatChain.Json

/-- A value of the settings. -/
inductive Value where
  /-- No value. -/
  | null
  /-- A truth value. -/
  | bool (value : Bool)
  /-- A number. -/
  | number (value : Number)
  /-- A text. -/
  | string (value : String)
  /-- Values in order. -/
  | array (items : List Value)
  /-- Named values in order; no name stands twice. -/
  | object (fields : List (String × Value))
  deriving Repr, Inhabited

mutual

/-- Equality of values. Two mappings are equal if they have the same names with equal values,
in whatever order; two numbers are equal if their values are. -/
def Value.same : Value → Value → Bool
  | .null, .null => true
  | .bool a, .bool b => a == b
  | .number a, .number b => a.same b
  | .string a, .string b => a == b
  | .array as, .array bs => sameItems as bs
  | .object as, .object bs => as.length == bs.length && sameFields as bs
  | _, _ => false

/-- Equality of values in order. -/
def sameItems : List Value → List Value → Bool
  | [], [] => true
  | a :: as, b :: bs => a.same b && sameItems as bs
  | _, _ => false

/-- Whether each field stands among the others with an equal value. -/
def sameFields : List (String × Value) → List (String × Value) → Bool
  | [], _ => true
  | (name, a) :: as, bs =>
    (match Entries.get? name bs with
      | some b => a.same b
      | none => false) && sameFields as bs

end

end FormatChain.Json

/-!
## The compact text of a value

No spaces, fields in their order, and in texts a backslash only before a quote, a backslash and
the control characters below the space.
-/

namespace FormatChain.Json

open FormatChain.Text

/-- Four digits in base sixteen. -/
def fourHexDigits (n : Nat) : String :=
  let digits := Nat.toDigits 16 n
  String.ofList (List.replicate (4 - digits.length) '0' ++ digits)

/-- How a character stands in the text of a string. -/
def escapedChar (c : Char) : String :=
  if c = '"' then "\\\""
  else if c = '\\' then "\\\\"
  else if c = '\n' then "\\n"
  else if c = '\r' then "\\r"
  else if c = '\t' then "\\t"
  else if c.toNat = 8 then "\\b"
  else if c.toNat = 12 then "\\f"
  else if c.toNat < 32 then "\\u" ++ fourHexDigits c.toNat
  else c.toString

/-- The text of a string, with its quotes. -/
def stringText (s : String) : String :=
  "\"" ++ String.join (s.toList.map escapedChar) ++ "\""

mutual

/-- The compact text of a value. -/
def Value.text : Value → String
  | .null => "null"
  | .bool true => "true"
  | .bool false => "false"
  | .number n => n.text
  | .string s => stringText s
  | .array items => "[" ++ itemsText items ++ "]"
  | .object fields => "\x7b" ++ fieldsText fields ++ "\x7d"

/-- The texts of values, with commas between them. -/
def itemsText : List Value → String
  | [] => ""
  | [item] => item.text
  | item :: rest => item.text ++ "," ++ itemsText rest

/-- The texts of named values, with commas between them. -/
def fieldsText : List (String × Value) → String
  | [] => ""
  | [(name, value)] => stringText name ++ ":" ++ value.text
  | (name, value) :: rest => stringText name ++ ":" ++ value.text ++ "," ++ fieldsText rest

end

end FormatChain.Json
