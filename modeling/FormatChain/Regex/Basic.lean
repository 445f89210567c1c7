/-!
# Patterns of texts

A pattern says which texts it fits.  Its parts are bytes and sets of bytes, places such as the start
of a line, groups that are remembered by their number, and repetitions.

* `ByteRange`, `Regex` : patterns.
* `Regex.nameSet?` : the sets that have a name.
* `Regex.refersBack` : whether a pattern asks for what a group fitted.
-/

namespace FormatChain

/-- Bytes in a row, the first and the last one. -/
structure ByteRange where
  /-- The first byte. -/
  low : Char
  /-- The last byte. -/
  high : Char
  deriving Repr, DecidableEq, Inhabited

/-- Whether a byte is in the range. -/
def ByteRange.holds (r : ByteRange) (c : Char) : Bool := r.low ≤ c && c ≤ r.high

/-- A place between two bytes. -/
inductive Edge where
  /-- The start of a line. -/
  | lineStart
  /-- The end of a line. -/
  | lineEnd
  /-- The start of everything. -/
  | textStart
  /-- The end of everything. -/
  | textEnd
  /-- The start of a word. -/
  | wordStart
  /-- The end of a word. -/
  | wordEnd
  /-- The start or the end of a word. -/
  | wordEdge
  /-- Neither the start nor the end of a word. -/
  | noWordEdge
  deriving Repr, DecidableEq

/-- A pattern. -/
inductive Regex where
  /-- Nothing at all. -/
  | empty
  /-- Any byte. -/
  | any
  /-- A byte in one of the ranges, or in none of them. -/
  | oneOf (ranges : List ByteRange) (inside : Bool)
  /-- A place. -/
  | edge (e : Edge)
  /-- What fits is remembered under a number. -/
  | group (n : Nat) (r : Regex)
  /-- What a group fitted, once more. -/
  | again (n : Nat)
  /-- One pattern after the other. -/
  | seq (first second : Regex)
  /-- One of two patterns. -/
  | either (first second : Regex)
  /-- A pattern repeated at least so often, and at most so often. -/
  | repeated (r : Regex) (least : Nat) (most : Option Nat)
  deriving Repr, DecidableEq, Inhabited

namespace Regex

/-- A byte as a pattern. -/
def byte (c : Char) : Regex := .oneOf [⟨c, c⟩] true

/-- The ranges of a set that has a name. -/
def nameSet? (name : String) : Option (List ByteRange) :=
  let lower : ByteRange := ⟨'a', 'z'⟩
  let upper : ByteRange := ⟨'A', 'Z'⟩
  let digit : ByteRange := ⟨'0', '9'⟩
  match name with
  | "alpha" => some [upper, lower]
  | "digit" => some [digit]
  | "alnum" => some [digit, upper, lower]
  | "upper" => some [upper]
  | "lower" => some [lower]
  | "space" => some [⟨'\t', '\r'⟩, ⟨' ', ' '⟩]
  | "blank" => some [⟨'\t', '\t'⟩, ⟨' ', ' '⟩]
  | "punct" => some [⟨'!', '/'⟩, ⟨':', '@'⟩, ⟨'[', '\x60'⟩, ⟨'\x7b', '~'⟩]
  | "print" => some [⟨' ', '~'⟩]
  | "graph" => some [⟨'!', '~'⟩]
  | "cntrl" => some [⟨'\x00', '\x1f'⟩, ⟨'\x7f', '\x7f'⟩]
  | "xdigit" => some [digit, ⟨'A', 'F'⟩, ⟨'a', 'f'⟩]
  | _ => none

/-- The bytes of words. -/
def wordSet : List ByteRange := [⟨'0', '9'⟩, ⟨'A', 'Z'⟩, ⟨'_', '_'⟩, ⟨'a', 'z'⟩]

/-- The bytes of white space. -/
def spaceSet : List ByteRange := [⟨'\t', '\r'⟩, ⟨' ', ' '⟩]

/-- Whether a byte belongs to a word. -/
def isWordByte (c : Char) : Bool := wordSet.any (·.holds c)

/-- The letters of a range in the other size. -/
def otherCase (r : ByteRange) : List ByteRange :=
  let shifted (low high : Char) (change : Char → Char) : List ByteRange :=
    let first := if r.low < low then low else r.low
    let last := if high < r.high then high else r.high
    if first ≤ last then [⟨change first, change last⟩] else []
  shifted 'a' 'z' Char.toUpper ++ shifted 'A' 'Z' Char.toLower

/-- The pattern that takes capital and small letters for the same. -/
def ignoringCase : Regex → Regex
  | .oneOf ranges inside => .oneOf (ranges ++ ranges.flatMap otherCase) inside
  | .group n r => .group n r.ignoringCase
  | .seq a b => .seq a.ignoringCase b.ignoringCase
  | .either a b => .either a.ignoringCase b.ignoringCase
  | .repeated r least most => .repeated r.ignoringCase least most
  | r => r

/-- Whether the pattern asks for what a group fitted. -/
def refersBack : Regex → Bool
  | .again _ => true
  | .group _ r => r.refersBack
  | .seq a b => a.refersBack || b.refersBack
  | .either a b => a.refersBack || b.refersBack
  | .repeated r _ _ => r.refersBack
  | _ => false

/-- Patterns one after the other. -/
def sequence : List Regex → Regex
  | [] => .empty
  | [r] => r
  | r :: rest => .seq r (sequence rest)

end Regex

end FormatChain
