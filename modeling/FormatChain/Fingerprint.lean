import FormatChain.Text.Utf8

/-!
# Fingerprints

The fingerprint of a text is the 64-bit xxHash of its bytes with seed zero.  It tells whether a text
has changed, and is shown as sixteen digits of base sixteen.

* `Fingerprint.of` : the fingerprint of a text.
* `Fingerprint.text` : how it is shown.
-/

namespace FormatChain

/-- A fingerprint. -/
structure Fingerprint where
  /-- The hash. -/
  hash : UInt64
  deriving Repr, DecidableEq

namespace Fingerprint

/-! ## The hash -/

/-- The first multiplier. -/
def prime1 : UInt64 := 11400714785074694791
/-- The second multiplier. -/
def prime2 : UInt64 := 14029467366897019727
/-- The third multiplier. -/
def prime3 : UInt64 := 1609587929392839161
/-- The fourth multiplier. -/
def prime4 : UInt64 := 9650029242287828579
/-- The fifth multiplier. -/
def prime5 : UInt64 := 2870177450012600261

/-- The bits moved up by so many places, those that leave at the top entering at the bottom. -/
def rotateLeft (x : UInt64) (places : UInt64) : UInt64 :=
  (x <<< places) ||| (x >>> (64 - places))

/-- One word mixed into a lane. -/
def mixLane (lane word : UInt64) : UInt64 :=
  rotateLeft (lane + word * prime2) 31 * prime1

/-- The four lanes that take turns in reading words. -/
structure Lanes where
  /-- The first lane. -/
  a : UInt64
  /-- The second lane. -/
  b : UInt64
  /-- The third lane. -/
  c : UInt64
  /-- The fourth lane. -/
  d : UInt64

/-- The lanes at the start. -/
def Lanes.start : Lanes := ⟨prime1 + prime2, prime2, 0, 0 - prime1⟩

/-- The lanes after all full groups of four words, and the words left over. -/
def Lanes.readWords (lanes : Lanes) : List UInt64 → Lanes × List UInt64
  | w :: x :: y :: z :: rest =>
    Lanes.readWords
      ⟨mixLane lanes.a w, mixLane lanes.b x, mixLane lanes.c y, mixLane lanes.d z⟩ rest
  | rest => (lanes, rest)

/-- A lane mixed into the hash. -/
def mergeLane (hash lane : UInt64) : UInt64 :=
  (hash ^^^ mixLane 0 lane) * prime1 + prime4

/-- The hash of the four lanes. -/
def Lanes.merge (lanes : Lanes) : UInt64 :=
  let hash := rotateLeft lanes.a 1 + rotateLeft lanes.b 7 + rotateLeft lanes.c 12
    + rotateLeft lanes.d 18
  mergeLane (mergeLane (mergeLane (mergeLane hash lanes.a) lanes.b) lanes.c) lanes.d

/-- A word left over mixed into the hash. -/
def mixWord (hash word : UInt64) : UInt64 :=
  rotateLeft (hash ^^^ mixLane 0 word) 27 * prime1 + prime4

/-- A half word left over mixed into the hash. -/
def mixHalfWord (hash word : UInt64) : UInt64 :=
  rotateLeft (hash ^^^ word * prime1) 23 * prime2 + prime3

/-- A byte left over mixed into the hash. -/
def mixByte (hash : UInt64) (byte : UInt8) : UInt64 :=
  rotateLeft (hash ^^^ byte.toUInt64 * prime5) 11 * prime1

/-- The last mixing. -/
def finish (hash : UInt64) : UInt64 :=
  let hash := (hash ^^^ hash >>> 33) * prime2
  let hash := (hash ^^^ hash >>> 29) * prime3
  hash ^^^ hash >>> 32

/-- The number that bytes stand for, the lowest first. -/
def littleEndian (bytes : List UInt8) : UInt64 :=
  bytes.foldr (fun byte n => n * 256 + byte.toUInt64) 0

/-- The words of eight bytes, last first, and the bytes left over. -/
def wordsFrom (words : List UInt64) : List UInt8 → List UInt64 × List UInt8
  | a :: b :: c :: d :: e :: f :: g :: h :: rest =>
    wordsFrom (littleEndian [a, b, c, d, e, f, g, h] :: words) rest
  | rest => (words, rest)

/-- The last bytes, fewer than eight, mixed into the hash. -/
def mixRest (hash : UInt64) : List UInt8 → UInt64
  | a :: b :: c :: d :: rest => rest.foldl mixByte (mixHalfWord hash (littleEndian [a, b, c, d]))
  | rest => rest.foldl mixByte hash

/-- The hash of bytes. -/
def hashBytes (bytes : List UInt8) : UInt64 :=
  let (reversed, rest) := wordsFrom [] bytes
  let (lanes, words) := Lanes.start.readWords reversed.reverse
  let hash := if bytes.length < 32 then prime5 else lanes.merge
  let hash := hash + bytes.length.toUInt64
  finish (mixRest (words.foldl mixWord hash) rest)

/-! ## Texts -/

/-- The fingerprint of a text. -/
def of (text : String) : Fingerprint :=
  ⟨hashBytes (Text.encodeUtf8 text)⟩

/-- Sixteen digits of base sixteen. -/
def text (f : Fingerprint) : String :=
  let digits := Nat.toDigits 16 f.hash.toNat
  String.ofList (List.replicate (16 - digits.length) '0' ++ digits)

end Fingerprint

end FormatChain
