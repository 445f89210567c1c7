import FormatChain.Path

/-!
# Documents

A document is the text of a file while it is edited.  It remembers what was saved last and counts
the changes of its text, in 32 bits.

* `Document` : the text of a file.
* `Document.setText`, `Document.markSaved` : the two ways in which it changes.
* `Document.isDirty` : whether the text differs from what was saved last.
-/

namespace FormatChain

/-- Where saving puts the text. -/
inductive SaveTarget where
  /-- Saving writes the file. -/
  | disk
  /-- Saving only remembers the text. -/
  | memory
  deriving Repr, DecidableEq

/-- A version is a number. -/
scoped instance coeVersion : CoeOut UInt32 Nat := ⟨UInt32.toNat⟩

/-- The text of a file while it is edited. -/
structure Document where
  /-- The path of the file. -/
  path : Path
  /-- The language of the file. -/
  language : String
  /-- The text. -/
  text : String
  /-- What was saved last, if anything was. -/
  saved : Option String
  /-- Where saving puts the text. -/
  target : SaveTarget
  /-- One more than the number of changes of the text. After the last number comes zero. -/
  version : UInt32 := 1
  deriving Repr, DecidableEq

instance : Inhabited Document := ⟨⟨⟨""⟩, "", "", none, .memory, 1⟩⟩

namespace Document

/-- The document with another text. The same text is no change. -/
def setText (d : Document) (text : String) : Document :=
  if d.text = text then d else { d with text := text, version := d.version + 1 }

/-- The document after its text was saved. -/
def markSaved (d : Document) : Document :=
  { d with saved := some d.text }

/-- Whether the text differs from what was saved last. A document that was never saved is dirty. -/
def isDirty (d : Document) : Bool :=
  d.saved != some d.text

@[simp]
theorem text_setText (d : Document) (text : String) : (d.setText text).text = text := by
  unfold setText
  split <;> simp_all

@[simp]
theorem saved_setText (d : Document) (text : String) : (d.setText text).saved = d.saved := by
  unfold setText
  split <;> rfl

@[simp]
theorem path_setText (d : Document) (text : String) : (d.setText text).path = d.path := by
  unfold setText
  split
  · rfl
  · rfl

@[simp]
theorem language_setText (d : Document) (text : String) :
    (d.setText text).language = d.language := by
  unfold setText
  split
  · rfl
  · rfl

@[simp]
theorem target_setText (d : Document) (text : String) : (d.setText text).target = d.target := by
  unfold setText
  split
  · rfl
  · rfl

@[simp]
theorem language_markSaved (d : Document) : d.markSaved.language = d.language := rfl

@[simp]
theorem isDirty_markSaved (d : Document) : d.markSaved.isDirty = false := by
  simp [markSaved, isDirty]

end Document

end FormatChain
