/-!
# Bytes that are text

Reading bytes as UTF-8, strictly or with a mark for what is not text.

* `Utf8Error` : where bytes stop being text, with the message for it.
* `decodeUtf8` : the text, or the first fault.
* `decodeLossy` : the text with the replacement character for every faulty sequence.
-/

namespace FormatChain.Text

/-- The first fault in bytes read as UTF-8. -/
inductive Utf8Error where
  /-- A sequence of this many bytes, at this index, starts no character. -/
  | invalid (length index : Nat)
  /-- The bytes from this index on start a character but end before it does. -/
  | incomplete (index : Nat)
  deriving Repr, DecidableEq

/-- The message for a fault. -/
def Utf8Error.message : Utf8Error → String
  | .invalid length index =>
    s!"invalid utf-8 sequence of {length} bytes from index {index}"
  | .incomplete index => s!"incomplete utf-8 byte sequence from index {index}"

/-- What the bytes at some place start with. -/
inductive Utf8Step where
  /-- A whole character of this many bytes. -/
  | char (code length : Nat)
  /-- Bytes that start no character; this many of them belong together. -/
  | invalid (length : Nat)
  /-- The start of a character that is not there in full; all that is left. -/
  | incomplete (length : Nat)

/-- Whether a byte continues a character. -/
def isContinuation (b : UInt8) : Bool :=
  0x80 ≤ b && b ≤ 0xBF

/-- The range that the second byte must lie in after this first byte of two or more. -/
def secondByteRange (first : UInt8) : UInt8 × UInt8 :=
  if first = 0xE0 then (0xA0, 0xBF)
  else if first = 0xED then (0x80, 0x9F)
  else if first = 0xF0 then (0x90, 0xBF)
  else if first = 0xF4 then (0x80, 0x8F)
  else (0x80, 0xBF)

/-- How many bytes a character has that starts with this byte; zero if none does. -/
def sequenceLength (first : UInt8) : Nat :=
  if first < 0x80 then 1
  else if 0xC2 ≤ first && first ≤ 0xDF then 2
  else if 0xE0 ≤ first && first ≤ 0xEF then 3
  else if 0xF0 ≤ first && first ≤ 0xF4 then 4
  else 0

/-- Reads the bytes after the second one: `code` so far, `done` bytes read, `wanted` in all. -/
def continueSequence (code done wanted : Nat) : List UInt8 → Utf8Step
  | [] => if done = wanted then .char code done else .incomplete done
  | b :: rest =>
    if done = wanted then .char code done
    else if isContinuation b then
      continueSequence (code * 64 + (b.toNat - 0x80)) (done + 1) wanted rest
    else .invalid done

/-- What the bytes start with. -/
def utf8Step (first : UInt8) (rest : List UInt8) : Utf8Step :=
  match sequenceLength first, rest with
  | 0, _ => .invalid 1
  | 1, _ => .char first.toNat 1
  | _, [] => .incomplete 1
  | wanted, second :: more =>
    let (low, high) := secondByteRange first
    if low ≤ second && second ≤ high then
      let lead := first.toNat % (if wanted = 2 then 32 else if wanted = 3 then 16 else 8)
      continueSequence (lead * 64 + (second.toNat - 0x80)) 2 wanted more
    else .invalid 1

/-- The characters of the bytes with a replacement character for each fault, last first, and the
first fault. `skip` bytes belong to what was read before. -/
def decodeFrom (index skip : Nat) (chars : List Char) (fault : Option Utf8Error) :
    List UInt8 → List Char × Option Utf8Error
  | [] => (chars, fault)
  | b :: rest =>
    if skip > 0 then decodeFrom (index + 1) (skip - 1) chars fault rest
    else
      match utf8Step b rest with
      | .char code length => decodeFrom (index + 1) (length - 1) (Char.ofNat code :: chars) fault rest
      | .invalid length =>
        decodeFrom (index + 1) (length - 1) (Char.ofNat 0xFFFD :: chars)
          (fault <|> some (.invalid length index)) rest
      | .incomplete length =>
        decodeFrom (index + 1) (length - 1) (Char.ofNat 0xFFFD :: chars)
          (fault <|> some (.incomplete index)) rest

/-- The text of the bytes, or the first fault in them. -/
def decodeUtf8 (bytes : List UInt8) : Except Utf8Error String :=
  match decodeFrom 0 0 [] none bytes with
  | (chars, none) => .ok (String.ofList chars.reverse)
  | (_, some fault) => .error fault

/-- The text of the bytes with the replacement character for each faulty sequence. -/
def decodeLossy (bytes : List UInt8) : String :=
  String.ofList (decodeFrom 0 0 [] none bytes).1.reverse

/-- The bytes of a text. -/
def encodeUtf8 (text : String) : List UInt8 :=
  text.toUTF8.toList

end FormatChain.Text
