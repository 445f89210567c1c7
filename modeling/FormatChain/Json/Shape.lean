import FormatChain.Json.Value
import FormatChain.Number.Binary64
import FormatChain.OrderedMap

/-!
# Reading a value as something

Settings are read as a truth value, a number, a text, texts in order or texts by name.  A value of
another shape is refused with the first mismatch met.

* `Mismatch` : why a value is refused, with its wording.
* `Decoder` : a way to read values.
* `decodeBool`, `decodeWord`, `decodeString`, `decodeStrings`, `decodeStringMap` : the ways.
-/

namespace FormatChain.Json

open FormatChain.Text

/-- Why a value is refused. -/
inductive Mismatch where
  /-- The value is of another type than the expected one. -/
  | wrongType (found : Value) (expected : String)
  /-- The value is of the right type but out of range. -/
  | outOfRange (found : Value) (expected : String)
  /-- A sequence has not as many elements as expected. -/
  | wrongLength (length : Nat) (expected : String)
  /-- A field is missing. -/
  | missingField (name : String)

/-- How a message names a value. -/
def Value.describe : Value → String
  | .null => "null"
  | .bool value => "boolean `" ++ (Value.bool value).text ++ "`"
  | .number (.whole n) => "integer `" ++ (Number.whole n).text ++ "`"
  | .number (.double x) => "floating point `" ++ (Number.double x).text ++ "`"
  | .string text => "string " ++ quoted text
  | .array _ => "sequence"
  | .object _ => "map"

/-- The wording of a mismatch. -/
def Mismatch.message : Mismatch → String
  | .wrongType found expected => s!"invalid type: {found.describe}, expected {expected}"
  | .outOfRange found expected => s!"invalid value: {found.describe}, expected {expected}"
  | .wrongLength length expected => s!"invalid length {length}, expected {expected}"
  | .missingField name => "missing field `" ++ name ++ "`"

/-- A way to read values. -/
abbrev Decoder (α : Type) := Value → Except Mismatch α

/-- Reads a truth value. -/
def decodeBool : Decoder Bool
  | .bool value => .ok value
  | found => .error (.wrongType found "a boolean")

/-- Reads a whole number of so many bits, none of them a sign. -/
def decodeWord (bits : Nat) : Decoder Nat
  | .number (.whole n) =>
    if 0 ≤ n ∧ n < 2 ^ bits then .ok n.toNat
    else .error (.outOfRange (.number (.whole n)) s!"u{bits}")
  | found => .error (.wrongType found s!"u{bits}")

/-- Reads a text. -/
def decodeString : Decoder String
  | .string text => .ok text
  | found => .error (.wrongType found "a string")

/-- Reads texts in order. -/
def decodeStrings : Decoder (List String)
  | .array items => items.mapM decodeString
  | found => .error (.wrongType found "a sequence")

/-- Reads the named values of a mapping, each in the same way, in order. -/
def decodeFields {α : Type} (decode : Decoder α) : List (String × Value) →
    Except Mismatch (List (String × α))
  | [] => .ok []
  | (name, value) :: rest => do
    let first ← decode value
    let others ← decodeFields decode rest
    return (name, first) :: others

/-- Reads a mapping whose values are all read in the same way. -/
def decodeMap {α : Type} (decode : Decoder α) : Decoder (OrderedMap α)
  | .object fields => (decodeFields decode fields).map OrderedMap.ofEntries
  | found => .error (.wrongType found "a map")

/-- Reads texts by name. -/
def decodeStringMap : Decoder (OrderedMap String) :=
  decodeMap decodeString

end FormatChain.Json
