/-!
# What the operating system says

The reasons for which the operating system refuses something, with the words that it has for them.

* `SystemError`, `SystemError.message` : a reason and its wording.
-/

namespace FormatChain

/-- Why the operating system refuses something. -/
inductive SystemError where
  /-- Nothing is there. -/
  | notFound
  /-- It is not allowed. -/
  | permissionDenied
  /-- A directory is needed, and something else is there. -/
  | notADirectory
  /-- A directory is there, and something else is needed. -/
  | isADirectory
  /-- Nobody reads from the other end of a pipe. -/
  | brokenPipe
  /-- The bytes of a file are no text. -/
  | notText
  /-- A text has a character that ends texts for the system. -/
  | nulInText
  /-- A path has a character that ends texts for the system. -/
  | nulInPath
  /-- A name, or a path as a whole, has too many bytes. -/
  | nameTooLong
  /-- Links lead to links again and again. -/
  | tooManyLinks
  /-- Something is there already. -/
  | alreadyThere
  /-- A directory has something in it. -/
  | notEmpty
  /-- There is no room left. -/
  | noSpace
  /-- Nothing is at the other end of a device. -/
  | noDevice
  /-- A file that may be run is no program. -/
  | noProgram
  /-- A stream leads nowhere. -/
  | badStream
  deriving Repr, DecidableEq

/-- The reason in the words of the system, which has a number for most of them. -/
def SystemError.entry : SystemError → String × Option Nat
  | .notFound => ("No such file or directory", some 2)
  | .noDevice => ("No such device or address", some 6)
  | .noProgram => ("Exec format error", some 8)
  | .badStream => ("Bad file descriptor", some 9)
  | .permissionDenied => ("Permission denied", some 13)
  | .alreadyThere => ("File exists", some 17)
  | .notADirectory => ("Not a directory", some 20)
  | .isADirectory => ("Is a directory", some 21)
  | .noSpace => ("No space left on device", some 28)
  | .brokenPipe => ("Broken pipe", some 32)
  | .nameTooLong => ("File name too long", some 36)
  | .notEmpty => ("Directory not empty", some 39)
  | .tooManyLinks => ("Too many levels of symbolic links", some 40)
  | .notText => ("stream did not contain valid UTF-8", none)
  | .nulInText => ("nul byte found in provided data", none)
  | .nulInPath => ("file name contained an unexpected NUL byte", none)

/-- The wording of a reason without its number. -/
def SystemError.words (e : SystemError) : String := e.entry.1

/-- The wording of a reason. -/
def SystemError.message (e : SystemError) : String :=
  match e.entry with
  | (words, some n) => s!"{words} (os error {n})"
  | (words, none) => words

end FormatChain
