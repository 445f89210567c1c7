import FormatChain.Proofs.Run.Editor

/-!
# The file of a document

A document knows what was saved last, but not what its file holds.  The two are in step if the file
holds what was saved last, or the text from the start if nothing was saved.  Whatever an editor does
to a document keeps them in step.

* `Session.InStep` : the file holds what the document takes it to hold.
* `Host.Saved.inStep` : a document that was saved is in step with its file, which holds its text.
-/

namespace FormatChain

open FormatChain.Session (WithEvents)

namespace Document

/-- A clean document is one whose text was saved last. -/
theorem saved_of_clean {d : Document} (h : d.isDirty = false) : d.saved = some d.text := by
  simpa [isDirty] using h

end Document

namespace Session

variable {s s' : Session} {n : Nat} {p : Path} {original : String}

/-- The file under a path is that of the document of a number, and holds what was saved last, or the
original text if nothing was saved. -/
structure InStep (s : Session) (n : Nat) (p : Path) (original : String) : Prop where
  path : (s.document n).path = p
  target : (s.document n).target = .disk
  holdsTexts : s.HoldsTexts p
  read : s.read p = .ok ((s.document n).saved.getD original)

theorem document_putDocument_self (s : Session) (n : Nat) (d : Document) :
    (s.putDocument n d).document n = d := by
  rw [document_putDocument, if_pos rfl]

theorem InStep.withEvents (h : s.InStep n p original) (hsaid : WithEvents s s') :
    s'.InStep n p original := by
  obtain ⟨events, rfl⟩ := hsaid
  exact ⟨h.path, h.target, h.holdsTexts, h.read⟩

theorem InStep.withApp (h : s.InStep n p original) (app : App) :
    { s with app }.InStep n p original :=
  ⟨h.path, h.target, h.holdsTexts, h.read⟩

/-- Another text of the document changes neither what was saved nor the file. -/
theorem InStep.setText (h : s.InStep n p original) (text : String) :
    (s.putDocument n ((s.document n).setText text)).InStep n p original := by
  refine ⟨?_, ?_, h.holdsTexts, ?_⟩
  · rw [document_putDocument_self, Document.path_setText, h.path]
  · rw [document_putDocument_self, Document.target_setText, h.target]
  · rw [document_putDocument_self, Document.saved_setText]
    exact h.read

/-- A document that takes over the text of its file is in step with it. -/
theorem inStep_reload {text : String} (hpath : (s.document n).path = p)
    (htarget : (s.document n).target = .disk) (hholds : s.HoldsTexts p)
    (hread : s.read p = .ok text) :
    (s.putDocument n ((s.document n).setText text).markSaved).InStep n p original := by
  refine ⟨?_, ?_, hholds, ?_⟩
  · rw [document_putDocument_self]
    exact (Document.path_setText _ _).trans hpath
  · rw [document_putDocument_self]
    exact (Document.target_setText _ _).trans htarget
  · rw [document_putDocument_self]
    change s.read p = .ok ((s.document n).setText text).text
    rw [Document.text_setText]
    exact hread

/-- The file of a clean document holds its text. -/
theorem InStep.read_of_clean (h : s.InStep n p original)
    (hclean : (s.document n).isDirty = false) : s.read p = .ok (s.document n).text := by
  rw [h.read, Document.saved_of_clean hclean, Option.getD_some]

end Session

namespace Host

variable {s s' : Session} {n : Nat} {p : Path} {original : String}

theorem Saved.clean {n : Nat} (h : Saved n s (.ok ()) s') : (s'.document n).isDirty = false := by
  cases h with
  | remembered _ hsaid =>
    rw [hsaid.document, Session.document_putDocument_self, Document.isDirty_markSaved]
  | written _ _ hsaid =>
    rw [hsaid.document, Session.document_putDocument_self, Document.isDirty_markSaved]

/-- A document that was saved is as it was but for that, and its file has its text. -/
theorem Saved.read (h : Saved n s (.ok ()) s') (hpath : (s.document n).path = p)
    (htarget : (s.document n).target = .disk) (hholds : s.HoldsTexts p) :
    s'.document n = (s.document n).markSaved ∧ s'.HoldsTexts p ∧
      s'.read p = .ok (s.document n).text := by
  cases h with
  | remembered hmemory _ => exact absurd (htarget.symm.trans hmemory) (by simp)
  | @written disk _ _ hwrite hsaid =>
    rw [hpath] at hwrite
    have hread := Session.read_write hholds hwrite
    have hwritten : ({ s with disk }.putDocument n (s.document n).markSaved).HoldsTexts p :=
      hholds.write hwrite
    refine ⟨?_, hsaid.holdsTexts hwritten, ?_⟩
    · rw [hsaid.document, Session.document_putDocument_self]
    · rw [hsaid.read]
      exact hread

/-- **A document that was saved is clean, and in step with its file.** -/
theorem Saved.inStep (h : Saved n s (.ok ()) s') (hin : s.InStep n p original) :
    s'.InStep n p original ∧ s'.document n = (s.document n).markSaved := by
  obtain ⟨hdocument, hholds, hread⟩ := h.read hin.path hin.target hin.holdsTexts
  refine ⟨⟨?_, ?_, hholds, ?_⟩, hdocument⟩
  · rw [hdocument]
    exact hin.path
  · rw [hdocument]
    exact hin.target
  · rw [hdocument]
    exact hread

/-- A document that was not saved is as it was. -/
theorem Saved.refused_withEvents {e : Failure} (h : Saved n s (.error e) s') :
    WithEvents s s' := by
  cases h with
  | refused _ _ hsaid => exact hsaid

theorem SavedIf.refused_withEvents {wanted : Prop} {cause : Failure}
    (h : SavedIf n wanted s (some cause) s') : WithEvents s s' := by
  cases h with
  | refused _ hsave hsaid => exact IsTrans.trans _ _ _ hsave.refused_withEvents hsaid

/-- Where a document is only saved when it is dirty, it is clean after it or it was not to be
saved. -/
theorem SavedIf.inStep {wanted : Prop} (h : SavedIf n wanted s none s')
    (hin : s.InStep n p original) :
    s'.InStep n p original ∧ (s'.document n).text = (s.document n).text ∧
      ((s'.document n).isDirty = false ∨ ¬ wanted ∧ s' = s) := by
  cases h with
  | unwanted h => exact ⟨hin, rfl, .inr ⟨h, rfl⟩⟩
  | saved _ hsave =>
    obtain ⟨hin', hdocument⟩ := hsave.inStep hin
    rw [hdocument]
    exact ⟨hin', rfl, .inl (Document.isDirty_markSaved _)⟩

end Host

end FormatChain
