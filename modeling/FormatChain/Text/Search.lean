/-!
# Searching and cutting texts

The few ways in which the program looks into a text.

* `replaceAll` : every occurrence of one text by another, from left to right.
* `cutAtFirst` : what stands before and after the first occurrence of a character.
* `afterLast?` : what stands after the last occurrence of a text.
* `lines` : the lines of a text, without their ends.
* `joined` : texts with a separator between them.
* `padEnd` : a text filled up to a width.
-/

namespace FormatChain.Text

/-- Replaces the occurrences of a non-empty text; `skip` characters of the current occurrence are
still to be passed over. -/
def replaceFrom (old new : List Char) : Nat → List Char → List Char
  | _, [] => []
  | skip + 1, _ :: rest => replaceFrom old new skip rest
  | 0, c :: rest =>
    if old.isPrefixOf (c :: rest) then new ++ replaceFrom old new (old.length - 1) rest
    else c :: replaceFrom old new 0 rest

/-- Replaces every occurrence of `old` by `new`, from left to right and without overlap. The empty
text occurs before every character and at the end. -/
def replaceAll (text old new : String) : String :=
  if old.isEmpty then
    String.ofList (new.toList ++ text.toList.flatMap fun c => c :: new.toList)
  else
    String.ofList (replaceFrom old.toList new.toList 0 text.toList)

/-- What stands before and after the first occurrence of the character. -/
def cutAtFirst (mark : Char) : List Char → Option (List Char × List Char)
  | [] => none
  | c :: rest =>
    if c = mark then some ([], rest)
    else (cutAtFirst mark rest).map fun (before, after) => (c :: before, after)

/-- What stands after the last occurrence of the mark. -/
def afterLast? (mark : List Char) : List Char → Option (List Char)
  | [] => none
  | c :: rest =>
    match afterLast? mark rest with
    | some after => some after
    | none => if mark.isPrefixOf (c :: rest) then some ((c :: rest).drop mark.length) else none

/-- The lines of the characters, the current line given last character first. -/
def linesFrom (current : List Char) : List Char → List (List Char)
  | [] => if current.isEmpty then [] else [current.reverse]
  | c :: rest =>
    if c = '\n' then
      let line := match current with
        | '\r' :: before => before
        | all => all
      line.reverse :: linesFrom [] rest
    else linesFrom (c :: current) rest

/-- The lines of a text: each ends at a line feed, or a carriage return and a line feed, that
does not belong to it, and nothing follows the last line end. -/
def lines (text : String) : List String :=
  (linesFrom [] text.toList).map String.ofList

/-- The texts in order with the separator between each two. -/
def joined (separator : String) : List String → String
  | [] => ""
  | [text] => text
  | text :: rest => text ++ separator ++ joined separator rest

/-- The text followed by as many spaces as it is short of the width, in characters. -/
def padEnd (width : Nat) (text : String) : String :=
  text ++ String.ofList (List.replicate (width - text.length) ' ')

end FormatChain.Text
