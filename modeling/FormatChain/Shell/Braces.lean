import FormatChain.Shell.Syntax

/-!
# Words in braces

Braces with commas, or with two dots between a start and an end, stand for several words.

* `braced` : the words that a word with braces stands for.
-/

namespace FormatChain.Shell

open FormatChain.Process

/-- A piece of a word: a byte in no quotes, or a part. -/
inductive BracePiece where
  /-- A byte. -/
  | byte (c : Char)
  /-- A part. -/
  | part (part : Part)
  deriving Inhabited

/-- The pieces of a word. -/
def bracePieces (word : Word) : List BracePiece :=
  word.flatMap fun part =>
    match part with
    | .text bytes => bytes.map .byte
    | other => [.part other]

/-- The word of pieces, given the bytes that were read before, last first. -/
def wordOfPieces (current : Bytes) : List BracePiece → Word
  | [] => if current.isEmpty then [] else [.text current.reverse]
  | .byte c :: rest => wordOfPieces (c :: current) rest
  | .part p :: rest =>
    if current.isEmpty then p :: wordOfPieces [] rest
    else .text current.reverse :: p :: wordOfPieces [] rest

/-- The pieces between the commas up to the brace that closes them, and those after it; `depth` counts
the braces that are open, and what was read before stands last first. -/
def bracedChoices (depth : Nat) (done : List (List BracePiece)) (current : List BracePiece) :
    List BracePiece → Option (List (List BracePiece) × List BracePiece)
  | [] => none
  | .byte c :: rest =>
    if c = '\x7d' then
      if depth = 0 then some ((current.reverse :: done).reverse, rest)
      else bracedChoices (depth - 1) done (.byte c :: current) rest
    else if c = ',' && depth = 0 then bracedChoices depth (current.reverse :: done) [] rest
    else if c = '\x7b' then bracedChoices (depth + 1) done (.byte c :: current) rest
    else bracedChoices depth done (.byte c :: current) rest
  | piece :: rest => bracedChoices depth done (piece :: current) rest

/-- The bytes of pieces that are all bytes. -/
def bytesOfPieces? (pieces : List BracePiece) : Option Bytes :=
  pieces.mapM fun piece =>
    match piece with
    | .byte c => some c
    | .part _ => none

/-- The texts before dots, between them and after them. -/
def splitAtDots (current : Bytes) : Bytes → List Bytes
  | '.' :: '.' :: rest => current.reverse :: splitAtDots [] rest
  | c :: rest => splitAtDots (c :: current) rest
  | [] => [current.reverse]

/-- The numbers from one to another. -/
def numbersBetween (first last step : Int) : List Int :=
  let step := if step = 0 then 1 else step.natAbs
  let count := (last - first).natAbs / step + 1
  (List.range count).map fun i =>
    if first ≤ last then first + (i * step : Nat) else first - (i * step : Nat)

/-- Whether a number is written with zeros before it. -/
def hasLeadingZero (bytes : Bytes) : Bool :=
  match bytes with
  | '0' :: _ :: _ => true
  | '-' :: '0' :: _ :: _ => true
  | _ => false

/-- The texts that a row stands for. -/
def bracedRow? (bytes : Bytes) : Option (List Bytes) :=
  let made (first last : Bytes) (step : Int) : Option (List Bytes) :=
    match intOf? first, intOf? last, first, last with
    | some a, some b, _, _ =>
      let width := if hasLeadingZero first || hasLeadingZero last then
        max first.length last.length else 0
      some ((numbersBetween a b step).map fun n =>
        if n < 0 then '-' :: padZeros (width - 1) (digitsOf n.natAbs)
        else padZeros width (digitsOf n.natAbs))
    | _, _, [a], [b] =>
      if a.isAlpha && b.isAlpha then
        some ((numbersBetween a.toNat b.toNat step).map fun n => [Char.ofNat n.toNat])
      else none
    | _, _, _, _ => none
  match splitAtDots [] bytes with
  | [first, last] => made first last 1
  | [first, last, step] => (intOf? step).bind (made first last)
  | _ => none

/-- The pieces that pieces with braces stand for, in at most so many steps. -/
def bracedUpTo : Nat → List BracePiece → List (List BracePiece)
  | 0, pieces => [pieces]
  | _, [] => [[]]
  | steps + 1, .byte c :: rest =>
    let plain : List (List BracePiece) := (bracedUpTo steps rest).map (.byte c :: ·)
    if c = '\x7b' then
      match bracedChoices 0 [] [] rest with
      | some ([single], after) =>
        match (bytesOfPieces? single).bind bracedRow? with
        | some row =>
          let others := bracedUpTo steps after
          row.flatMap fun bytes => others.map ((bytes.map .byte) ++ ·)
        | none => plain
      | some (choices, after) =>
        let others := bracedUpTo steps after
        (choices.flatMap (bracedUpTo steps)).flatMap fun first => others.map (first ++ ·)
      | none => plain
    else plain
  | steps + 1, piece :: rest => (bracedUpTo steps rest).map (piece :: ·)

/-- The words that a word with braces stands for. -/
def braced (word : Word) : List Word :=
  let hasBrace := word.any fun part =>
    match part with
    | .text bytes => bytes.contains '\x7b'
    | _ => false
  if hasBrace then
    let pieces := bracePieces word
    (bracedUpTo (pieces.length + 1) pieces).map (wordOfPieces [])
  else [word]

end FormatChain.Shell
