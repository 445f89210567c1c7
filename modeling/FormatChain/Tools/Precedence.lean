import FormatChain.Process.Options

/-!
# Orders from pairs

Pairs of words say which word comes before which.  All words are put into one order that agrees with
the pairs.  Where the pairs go round in a circle, the circle is told and one of its pairs is left out.

* `PrecedenceItem` : a word with those that come after it.
* `Precedence.released` : the words before which none is left.
* `Precedence.openCircle` : a circle, without one of its pairs.
* `tsort` : the command.
-/

namespace FormatChain.Tools

open FormatChain.Process

/-- A word with those that come after it. -/
structure PrecedenceItem where
  /-- The word. -/
  word : Bytes
  /-- How many pairs are left in which it comes after another one. -/
  count : Nat := 0
  /-- The places of the words that come after it, the pair read last first. -/
  later : List Nat := []
  /-- Whether it is written already. -/
  written : Bool := false
  /-- The place of the next word of the circle that is looked for. -/
  link : Option Nat := none
  deriving Inhabited

/-- Words in order, by their places. -/
abbrev Precedence := Array PrecedenceItem

namespace Precedence

/-- The place of a word. -/
def placeOf (words : Array Bytes) (word : Bytes) : Nat := (words.findIdx? (· == word)).getD 0

/-- The words with what pairs say of them. -/
def ofPairs (pairs : List (Bytes × Bytes)) : Precedence :=
  let all := pairs.flatMap fun (a, b) => [a, b]
  let words := (all.mergeSort bytesBefore).eraseReps.toArray
  let items : Precedence := words.map fun word => { word }
  pairs.foldl (fun items (a, b) =>
    if a = b then items
    else
      let i := placeOf words a
      let k := placeOf words b
      (items.modify i fun x => { x with later := k :: x.later }).modify k fun x =>
        { x with count := x.count + 1 }) items

/-- The places of the words before which none is left and that are not written. -/
def free (items : Precedence) : List Nat :=
  (List.range items.size).filter fun i => (items[i]?).any fun x => x.count = 0 && !x.written

/-- Writes the words of a queue, and those that become free thereby, in at most so many steps; with
those written, the latest first. -/
def released : Nat → List Nat → Precedence → List Bytes → Precedence × List Bytes
  | 0, _, items, done => (items, done)
  | _, [], items, done => (items, done)
  | steps + 1, i :: queue, items, done =>
    match items[i]? with
    | none => released steps queue items done
    | some x =>
      let items := items.modify i fun x => { x with written := true, later := [] }
      let (items, freed) := x.later.foldl (fun (items, freed) k =>
        let count := ((items[k]?).map (·.count)).getD 0 - 1
        let items := items.modify k fun y => { y with count }
        (items, if count = 0 then freed ++ [k] else freed)) (items, [])
      released steps (queue ++ freed) items (x.word :: done)

/-- The words of a circle from one on up to another one, and the place of the last one; the links of
those passed are taken away. -/
def retrace (stop : Nat) : Nat → Nat → Precedence → List Bytes → Precedence × List Bytes
  | 0, _, items, done => (items, done.reverse)
  | steps + 1, i, items, done =>
    match items[i]? with
    | none => (items, done.reverse)
    | some x =>
      if i = stop then (items, (x.word :: done).reverse)
      else
        let items := items.modify i fun x => { x with link := none }
        match x.link with
        | some next => retrace stop steps next items (x.word :: done)
        | none => (items, (x.word :: done).reverse)

/-- What is known of the circle that is looked for. -/
structure Search where
  /-- The words. -/
  items : Precedence
  /-- The place that was reached. -/
  reached : Option Nat := none
  /-- The words of the circle, if it was found. -/
  circle : Option (List Bytes) := none

/-- Goes on with the search at a word. -/
def Search.visit (s : Search) (k : Nat) : Search :=
  if s.circle.isSome then s
  else
    match s.items[k]? with
    | none => s
    | some x =>
      if x.count = 0 then s
      else
        match s.reached with
        | none => { s with reached := some k }
        | some goal =>
          if !x.later.contains goal then s
          else if x.link.isNone then
            { s with items := s.items.modify k (fun x => { x with link := some goal }), reached := some k }
          else
            let (items, words) := retrace k (s.items.size + 1) goal s.items []
            let items := (items.modify goal fun x => { x with count := x.count - 1 }).map fun x =>
              { x with link := none }
            let items := items.modify k fun x => { x with later := x.later.erase goal }
            { items, reached := none, circle := some words }

/-- A circle, and the words without one of its pairs, found by passing over all words at most so
often. -/
def openCircle : Nat → Search → Option (List Bytes × Precedence)
  | 0, _ => none
  | steps + 1, s =>
    let s := (List.range s.items.size).foldl Search.visit s
    match s.circle with
    | some words => some (words, s.items)
    | none => openCircle steps s

end Precedence

/-- The words of a text. -/
def precedenceWords (bytes : Bytes) : List Bytes :=
  (splitAtByte ' ' (bytes.map fun c => if c = '\t' || c = '\n' then ' ' else c)).filter (!·.isEmpty)

/-- Words in pairs; none if one is left over. -/
def inPairs? : List Bytes → Option (List (Bytes × Bytes))
  | [] => some []
  | a :: b :: rest => (inPairs? rest).map ((a, b) :: ·)
  | [_] => none

/-- Writes words in an order, and tells the circles, in at most so many steps; whether there was none. -/
def writeInOrder (j : Job) (name : Bytes) (well : Bool) : Nat → Precedence → Running Bool
  | 0, _ => return well
  | steps + 1, items => do
    let (items, done) := Precedence.released (items.size + 1) items.free items []
    done.reverse.forM Running.writeLine
    if items.all (·.written) then return well
    else
      j.complain s!"{nameShown name}: input contains a loop:"
      match Precedence.openCircle (2 * items.size + 2) { items } with
      | some (words, items) =>
        words.forM fun word => j.complain (textOf word)
        writeInOrder j name false steps items
      | none => return false

/-- Writes words in an order that agrees with pairs. -/
def tsort : Program := fun j =>
  j.withOptions 1 { letters := "" } fun _ operands => do
    match operands with
    | _ :: extra :: _ => j.misused 1 s!"extra operand {quoted extra}"
    | _ =>
      let name := operands.headD ['-']
      match ← j.readOperand name with
      | none => return .code 1
      | some bytes =>
        match inPairs? (precedenceWords bytes) with
        | none => j.fail 1 s!"{nameShown name}: input contains an odd number of tokens"
        | some pairs =>
          let well ← writeInOrder j name true (pairs.length + 1) (Precedence.ofPairs pairs)
          return statusOf well

end FormatChain.Tools
