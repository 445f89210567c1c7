import FormatChain.Process.Bytes

/-!
# Sums of bytes

Numbers that tell whether two texts are the same.  The long ones go over the bytes in blocks; the
constants of their rounds are the first binary digits of roots of the prime numbers.

* `cyclicSum`, `turnedSum`, `plainSum` : short sums.
* `md5`, `sha1`, `sha224`, `sha256`, `sha384`, `sha512` : longer ones.
* `blake2b` : one of any length.
-/

namespace FormatChain.Tools

open FormatChain.Process

/-! ## Short sums -/

/-- The number of 32 binary digits after one more byte. -/
def cyclicStep (crc : UInt32) (byte : UInt8) : UInt32 :=
  (List.range 8).foldl
    (fun crc _ => if crc >>> 31 = 1 then (crc <<< 1) ^^^ 0x04c11db7 else crc <<< 1)
    (crc ^^^ (byte.toUInt32 <<< 24))

/-- The bytes of a number, the least first, without zeros at its end. -/
def lengthBytes : Nat → Nat → List UInt8
  | 0, _ => []
  | steps + 1, n => if n = 0 then [] else n.toUInt8 :: lengthBytes steps (n / 256)

/-- The remainder of bytes and of their number. -/
def cyclicSum (bytes : List UInt8) : UInt32 :=
  ~~~((bytes ++ lengthBytes 16 bytes.length).foldl cyclicStep 0)

/-- The sum of 16 binary digits that is turned before each byte. -/
def turnedSum (bytes : List UInt8) : Nat :=
  bytes.foldl (fun sum byte => ((sum / 2) + (sum % 2) * 32768 + byte.toNat) % 65536) 0

/-- The sum of 16 binary digits of the bytes. -/
def plainSum (bytes : List UInt8) : Nat :=
  let sum := bytes.foldl (fun sum byte => sum + byte.toNat) 0 % 2 ^ 32
  let folded := sum % 65536 + sum / 65536
  folded % 65536 + folded / 65536

/-! ## Blocks -/

/-- The bytes with a mark, zeros and their number, which takes an eighth of a block, so that blocks of a
size come out. -/
def paddedBlocks (size : Nat) (bigEnd : Bool) (bytes : List UInt8) : List UInt8 :=
  let tail := size / 8
  let zeros := (2 * size - tail - 1 - bytes.length % size) % size
  let length := 8 * bytes.length
  let number := (List.range tail).map fun i => (length / 256 ^ i).toUInt8
  bytes ++ 0x80 :: List.replicate zeros 0 ++ (if bigEnd then number.reverse else number)

/-- The words of 32 binary digits of bytes, in at most so many steps. -/
def wordsOfBlock (bigEnd : Bool) : Nat → List UInt8 → List UInt32
  | steps + 1, a :: b :: c :: d :: rest =>
    let word (a b c d : UInt8) : UInt32 :=
      (a.toUInt32 <<< 24) ||| (b.toUInt32 <<< 16) ||| (c.toUInt32 <<< 8) ||| d.toUInt32
    (if bigEnd then word a b c d else word d c b a) :: wordsOfBlock bigEnd steps rest
  | _, _ => []

/-- A state after all blocks of bytes, in at most so many steps. -/
def overBlocks {α : Type} (bigEnd : Bool) (block : α → Array UInt32 → α) : Nat → α → List UInt8 → α
  | 0, state, _ => state
  | _, state, [] => state
  | steps + 1, state, bytes =>
    overBlocks bigEnd block steps (block state (wordsOfBlock bigEnd 16 (bytes.take 64)).toArray)
      (bytes.drop 64)

/-- A word turned to the left. -/
def turnLeft (x : UInt32) (n : UInt32) : UInt32 := (x <<< n) ||| (x >>> (32 - n))

/-- A word turned to the right. -/
def turnRight (x : UInt32) (n : UInt32) : UInt32 := (x >>> n) ||| (x <<< (32 - n))

/-- A word in base sixteen. -/
def wordText (x : UInt32) : Bytes := padZeros 8 (hexText x.toNat)

/-- The word with its bytes the other way round. -/
def swapped (x : UInt32) : UInt32 :=
  (x <<< 24) ||| ((x <<< 8) &&& (0xff0000 : UInt32)) ||| ((x >>> 8) &&& (0xff00 : UInt32)) ||| (x >>> 24)

/-- The words that are added in the rounds of the sum of 128 binary digits: the fractions of
sines. -/
def sineWords : Array UInt32 :=
  #[0xd76aa478, 0xe8c7b756, 0x242070db, 0xc1bdceee, 0xf57c0faf, 0x4787c62a, 0xa8304613, 0xfd469501,
    0x698098d8, 0x8b44f7af, 0xffff5bb1, 0x895cd7be, 0x6b901122, 0xfd987193, 0xa679438e, 0x49b40821,
    0xf61e2562, 0xc040b340, 0x265e5a51, 0xe9b6c7aa, 0xd62f105d, 0x02441453, 0xd8a1e681, 0xe7d3fbc8,
    0x21e1cde6, 0xc33707d6, 0xf4d50d87, 0x455a14ed, 0xa9e3e905, 0xfcefa3f8, 0x676f02d9, 0x8d2a4c8a,
    0xfffa3942, 0x8771f681, 0x6d9d6122, 0xfde5380c, 0xa4beea44, 0x4bdecfa9, 0xf6bb4b60, 0xbebfbc70,
    0x289b7ec6, 0xeaa127fa, 0xd4ef3085, 0x04881d05, 0xd9d4d039, 0xe6db99e5, 0x1fa27cf8, 0xc4ac5665,
    0xf4292244, 0x432aff97, 0xab9423a7, 0xfc93a039, 0x655b59c3, 0x8f0ccc92, 0xffeff47d, 0x85845dd1,
    0x6fa87e4f, 0xfe2ce6e0, 0xa3014314, 0x4e0811a1, 0xf7537e82, 0xbd3af235, 0x2ad7d2bb, 0xeb86d391]

/-- How far the words are turned in the rounds of the sum of 128 binary digits. -/
def sineTurns : Array UInt32 :=
  #[7, 12, 17, 22, 5, 9, 14, 20, 4, 11, 16, 23, 6, 10, 15, 21]

/-- The sum of 128 binary digits. -/
def md5 (bytes : List UInt8) : Bytes :=
  let block (state : List UInt32) (m : Array UInt32) : List UInt32 :=
    let round (s : UInt32 × UInt32 × UInt32 × UInt32) (i : Nat) :=
      let (a, b, c, d) := s
      let (f, g) :=
        if i < 16 then ((b &&& c) ||| (~~~b &&& d), i)
        else if i < 32 then ((d &&& b) ||| (~~~d &&& c), (5 * i + 1) % 16)
        else if i < 48 then (b ^^^ c ^^^ d, (3 * i + 5) % 16)
        else (c ^^^ (b ||| ~~~d), 7 * i % 16)
      let turned := turnLeft (f + a + sineWords.getD i 0 + m.getD g 0)
        (sineTurns.getD (i / 16 * 4 + i % 4) 0)
      (d, b + turned, b, c)
    match state with
    | [a, b, c, d] =>
      let (a', b', c', d') := (List.range 64).foldl round (a, b, c, d)
      [a + a', b + b', c + c', d + d']
    | other => other
  let padded := paddedBlocks 64 false bytes
  (overBlocks false block (padded.length + 1) [0x67452301, 0xefcdab89, 0x98badcfe, 0x10325476]
    padded).flatMap fun word => wordText (swapped word)

/-- The words of the rounds of the sum of 160 binary digits. -/
def extended160 (m : Array UInt32) : Array UInt32 :=
  (List.range 64).foldl
    (fun w i =>
      w.push (turnLeft (w.getD (i + 13) 0 ^^^ w.getD (i + 8) 0 ^^^ w.getD (i + 2) 0 ^^^ w.getD i 0) 1))
    m

/-- The sum of 160 binary digits. -/
def sha1 (bytes : List UInt8) : Bytes :=
  let block (state : List UInt32) (m : Array UInt32) : List UInt32 :=
    let w := extended160 m
    let round (s : UInt32 × UInt32 × UInt32 × UInt32 × UInt32) (i : Nat) :=
      let (a, b, c, d, e) := s
      let (f, k) :=
        if i < 20 then ((b &&& c) ||| (~~~b &&& d), 0x5a827999)
        else if i < 40 then (b ^^^ c ^^^ d, 0x6ed9eba1)
        else if i < 60 then ((b &&& c) ||| (b &&& d) ||| (c &&& d), 0x8f1bbcdc)
        else (b ^^^ c ^^^ d, 0xca62c1d6)
      (turnLeft a 5 + f + e + k + w.getD i 0, a, turnLeft b 30, c, d)
    match state with
    | [a, b, c, d, e] =>
      let (a', b', c', d', e') := (List.range 80).foldl round (a, b, c, d, e)
      [a + a', b + b', c + c', d + d', e + e']
    | other => other
  let padded := paddedBlocks 64 true bytes
  (overBlocks true block (padded.length + 1)
    [0x67452301, 0xefcdab89, 0x98badcfe, 0x10325476, 0xc3d2e1f0] padded).flatMap wordText

/-! ## Roots -/

/-- The prime numbers below a limit. -/
def primesBelow (limit : Nat) : List Nat :=
  (List.range limit).filter fun n => 2 ≤ n && (List.range n).all fun d => d < 2 || n % d != 0

/-- The greatest number between zero and a limit whose power is not above a value, in at most so many
halvings of the distance. -/
def rootBelow (power value : Nat) : Nat → Nat → Nat → Nat
  | 0, low, _ => low
  | steps + 1, low, high =>
    if high ≤ low + 1 then low
    else
      let middle := (low + high) / 2
      if middle ^ power ≤ value then rootBelow power value steps middle high
      else rootBelow power value steps low middle

/-- The first 64 binary digits of the fraction of a root of a number. -/
def rootFraction (power n : Nat) : UInt64 :=
  (rootBelow power (n * 2 ^ (64 * power)) 80 0 (2 ^ 72)).toUInt64

/-- The words that are added in rounds: the fractions of cube roots. -/
def cubeRoots : Array UInt64 := ((primesBelow 410).take 80).map (rootFraction 3) |>.toArray

/-- The first half of a word. -/
def upperHalf (x : UInt64) : UInt32 := (x >>> 32).toUInt32

/-- The fractions of the square roots of the first eight prime numbers. -/
def firstSquareRoots : List UInt64 := ((primesBelow 20).take 8).map (rootFraction 2)

/-- The fractions of the square roots of the next eight prime numbers. -/
def nextSquareRoots : List UInt64 := (((primesBelow 54).drop 8).take 8).map (rootFraction 2)

/-! ## Words of 32 binary digits -/

/-- The words that are added in rounds. -/
def shortRoots : Array UInt32 := cubeRoots.map upperHalf

/-- The words of the rounds for a block. -/
def extended256 (m : Array UInt32) : Array UInt32 :=
  (List.range 48).foldl
    (fun w i =>
      let x := w.getD (i + 1) 0
      let y := w.getD (i + 14) 0
      let s := turnRight x 7 ^^^ turnRight x 18 ^^^ (x >>> 3)
      let t := turnRight y 17 ^^^ turnRight y 19 ^^^ (y >>> 10)
      w.push (w.getD i 0 + s + w.getD (i + 9) 0 + t))
    m

/-- A round. -/
def round256 (w : Array UInt32) (s : List UInt32) (i : Nat) : List UInt32 :=
  match s with
  | [a, b, c, d, e, f, g, h] =>
    let s1 := turnRight e 6 ^^^ turnRight e 11 ^^^ turnRight e 25
    let t1 := h + s1 + ((e &&& f) ^^^ (~~~e &&& g)) + shortRoots.getD i 0 + w.getD i 0
    let s0 := turnRight a 2 ^^^ turnRight a 13 ^^^ turnRight a 22
    let t2 := s0 + ((a &&& b) ^^^ (a &&& c) ^^^ (b &&& c))
    [t1 + t2, a, b, c, d + t1, e, f, g]
  | other => other

/-- The words of the sum that begins with some words. -/
def shortSum (start : List UInt32) (bytes : List UInt8) : List UInt32 :=
  let block (state : List UInt32) (m : Array UInt32) : List UInt32 :=
    let w := extended256 m
    List.zipWith (· + ·) state ((List.range 64).foldl (round256 w) state)
  let padded := paddedBlocks 64 true bytes
  overBlocks true block (padded.length + 1) start padded

/-- The sum of 256 binary digits. -/
def sha256 (bytes : List UInt8) : Bytes :=
  (shortSum (firstSquareRoots.map upperHalf) bytes).flatMap wordText

/-- The sum of 224 binary digits. -/
def sha224 (bytes : List UInt8) : Bytes :=
  ((shortSum (nextSquareRoots.map UInt64.toUInt32) bytes).take 7).flatMap wordText

/-! ## Words of 64 binary digits -/

/-- The words of 64 binary digits of bytes, in at most so many steps. -/
def longWords (bigEnd : Bool) : Nat → List UInt8 → List UInt64
  | 0, _ => []
  | _, [] => []
  | steps + 1, bytes =>
    let first := bytes.take 8
    let ordered := if bigEnd then first else first.reverse
    ordered.foldl (fun word byte => (word <<< 8) ||| byte.toUInt64) 0 :: longWords bigEnd steps (bytes.drop 8)

/-- A word turned to the right. -/
def turnLong (x : UInt64) (n : UInt64) : UInt64 := (x >>> n) ||| (x <<< (64 - n))

/-- A word in base sixteen. -/
def longText (x : UInt64) : Bytes := padZeros 16 (hexText x.toNat)

/-- The words of the rounds for a block. -/
def extended512 (m : Array UInt64) : Array UInt64 :=
  (List.range 64).foldl
    (fun w i =>
      let x := w.getD (i + 1) 0
      let y := w.getD (i + 14) 0
      let s := turnLong x 1 ^^^ turnLong x 8 ^^^ (x >>> 7)
      let t := turnLong y 19 ^^^ turnLong y 61 ^^^ (y >>> 6)
      w.push (w.getD i 0 + s + w.getD (i + 9) 0 + t))
    m

/-- A round. -/
def round512 (w : Array UInt64) (s : List UInt64) (i : Nat) : List UInt64 :=
  match s with
  | [a, b, c, d, e, f, g, h] =>
    let s1 := turnLong e 14 ^^^ turnLong e 18 ^^^ turnLong e 41
    let t1 := h + s1 + ((e &&& f) ^^^ (~~~e &&& g)) + cubeRoots.getD i 0 + w.getD i 0
    let s0 := turnLong a 28 ^^^ turnLong a 34 ^^^ turnLong a 39
    let t2 := s0 + ((a &&& b) ^^^ (a &&& c) ^^^ (b &&& c))
    [t1 + t2, a, b, c, d + t1, e, f, g]
  | other => other

/-- The words after all blocks of bytes, in at most so many steps. -/
def longSumFrom : Nat → List UInt64 → List UInt8 → List UInt64
  | 0, state, _ => state
  | _, state, [] => state
  | steps + 1, state, bytes =>
    let w := extended512 (longWords true 17 (bytes.take 128)).toArray
    let next := List.zipWith (· + ·) state ((List.range 80).foldl (round512 w) state)
    longSumFrom steps next (bytes.drop 128)

/-- The words of the sum that begins with some words. -/
def longSum (start : List UInt64) (bytes : List UInt8) : List UInt64 :=
  let padded := paddedBlocks 128 true bytes
  longSumFrom (padded.length + 1) start padded

/-- The sum of 512 binary digits. -/
def sha512 (bytes : List UInt8) : Bytes := (longSum firstSquareRoots bytes).flatMap longText

/-- The sum of 384 binary digits. -/
def sha384 (bytes : List UInt8) : Bytes := ((longSum nextSquareRoots bytes).take 6).flatMap longText

/-! ## Sums of any length -/

/-- The order in which the words of a block are taken in each round. -/
def blakeOrders : Array (Array Nat) :=
  #[#[0, 1, 2, 3, 4, 5, 6, 7, 8, 9, 10, 11, 12, 13, 14, 15],
    #[14, 10, 4, 8, 9, 15, 13, 6, 1, 12, 0, 2, 11, 7, 5, 3],
    #[11, 8, 12, 0, 5, 2, 15, 13, 10, 14, 3, 6, 7, 1, 9, 4],
    #[7, 9, 3, 1, 13, 12, 11, 14, 2, 6, 5, 10, 4, 0, 15, 8],
    #[9, 0, 5, 7, 2, 4, 10, 15, 14, 1, 11, 12, 6, 8, 3, 13],
    #[2, 12, 6, 10, 0, 11, 8, 3, 4, 13, 7, 5, 15, 14, 1, 9],
    #[12, 5, 1, 15, 14, 13, 4, 10, 0, 7, 6, 3, 9, 2, 8, 11],
    #[13, 11, 7, 14, 12, 1, 3, 9, 5, 0, 15, 4, 8, 6, 2, 10],
    #[6, 15, 14, 9, 11, 3, 0, 8, 12, 2, 13, 7, 1, 4, 10, 5],
    #[10, 2, 8, 4, 7, 6, 1, 5, 15, 11, 9, 14, 3, 12, 13, 0]]

/-- The places of the words that are mixed in one step of a round. -/
def blakeSteps : List (Nat × Nat × Nat × Nat) :=
  [(0, 4, 8, 12), (1, 5, 9, 13), (2, 6, 10, 14), (3, 7, 11, 15), (0, 5, 10, 15), (1, 6, 11, 12),
    (2, 7, 8, 13), (3, 4, 9, 14)]

/-- Mixes four words with two words of a block. -/
def blakeMix (v : Array UInt64) (places : Nat × Nat × Nat × Nat) (x y : UInt64) : Array UInt64 :=
  let (i, k, l, n) := places
  let a := v.getD i 0 + v.getD k 0 + x
  let d := turnLong (v.getD n 0 ^^^ a) 32
  let c := v.getD l 0 + d
  let b := turnLong (v.getD k 0 ^^^ c) 24
  let a := a + b + y
  let d := turnLong (d ^^^ a) 16
  let c := c + d
  let b := turnLong (b ^^^ c) 63
  (((v.setIfInBounds i a).setIfInBounds k b).setIfInBounds l c).setIfInBounds n d

/-- The words after a block, given how many bytes there are up to its end and whether it is the last
one. -/
def blakeBlock (h : List UInt64) (block : List UInt8) (count : Nat) (last : Bool) : List UInt64 :=
  let m := (longWords false 17 (block ++ List.replicate (128 - block.length) 0)).toArray
  let v := (h ++ firstSquareRoots).toArray
  let v := v.modify 12 (· ^^^ count.toUInt64)
  let v := if last then v.modify 14 (fun x => ~~~x) else v
  let round (v : Array UInt64) (r : Nat) : Array UInt64 :=
    let order := blakeOrders.getD (r % 10) #[]
    blakeSteps.zipIdx.foldl (fun v (places, i) =>
      blakeMix v places (m.getD (order.getD (2 * i) 0) 0) (m.getD (order.getD (2 * i + 1) 0) 0)) v
  let v := (List.range 12).foldl round v
  h.zipIdx.map fun (x, i) => x ^^^ v.getD i 0 ^^^ v.getD (i + 8) 0

/-- The words after all blocks of bytes, of which some were read before, in at most so many steps. -/
def blakeFrom : Nat → List UInt64 → Nat → List UInt8 → List UInt64
  | 0, h, _, _ => h
  | steps + 1, h, count, bytes =>
    if bytes.length ≤ 128 then blakeBlock h bytes (count + bytes.length) true
    else blakeFrom steps (blakeBlock h (bytes.take 128) (count + 128) false) (count + 128) (bytes.drop 128)

/-- The sum of so many bytes. -/
def blake2b (length : Nat) (bytes : List UInt8) : Bytes :=
  let first : UInt64 := 0x01010000 ^^^ length.toUInt64
  let start := firstSquareRoots.zipIdx.map fun (x, i) => if i = 0 then x ^^^ first else x
  let words := blakeFrom (bytes.length + 2) start 0 bytes
  let numbers := words.flatMap fun x => (List.range 8).map fun i => (x >>> (8 * i).toUInt64).toUInt8
  (numbers.take length).flatMap fun byte => padZeros 2 (hexText byte.toNat)

end FormatChain.Tools
