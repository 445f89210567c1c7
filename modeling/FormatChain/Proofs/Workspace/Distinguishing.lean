import FormatChain.Proofs.Workspace.Loading

/-!
# Which changes the watched text shows

The text that is watched holds the texts of the settings files one after the other, each behind the
name of its scope, with marks between them.  A file's text may hold such a mark itself, and then the
name of the next scope: it reads as if the next file had begun.  So a part of one text can move into
the next file, or out of it, without a trace in the watched text.

* `LooksChanged` : what is read of a file differs, something unreadable counting as empty.
* `Settings.append_mark_eq_iff` : two texts that are marked and continued alike.
* `Settings.Spells` : a text reads as if a file of the scope began in it.
* `Session.RunsOver` : a text of one session runs over into the next file of the other one.
* `Session.watchedFrom_eq_iff` : the watched texts are equal if no text changed, or one runs over.
* `Workspace.filesFingerprint_tells_files` : which changes the text under the fingerprint shows.
-/

namespace FormatChain

open Settings (Places Scope watchedText)

/-- What is read of a file differs: another text, or some text in place of none. -/
def LooksChanged : Except Failure String → Except Failure String → Prop
  | .ok before, .ok after => before ≠ after
  | .ok before, .error _ => before ≠ ""
  | .error _, .ok after => after ≠ ""
  | .error _, .error _ => False

theorem looksChanged_iff {before after : Except Failure String} :
    LooksChanged before after ↔ after.toOption.getD "" ≠ before.toOption.getD "" := by
  cases before <;> cases after <;> simp [LooksChanged, Except.toOption, eq_comm]

/-! ## Texts with a mark behind them -/

namespace Settings

theorem toList_append_mark (text rest : String) :
    (text ++ "\x00" ++ rest).toList = text.toList ++ '\x00' :: rest.toList := by
  rw [String.toList_append, String.toList_append, List.append_assoc]
  rfl

/-- Two texts, each with a mark and something behind it, are equal if they have the same parts, or
if one of them goes on where the other one has its mark. -/
theorem append_mark_eq_iff {text text' rest rest' : String} :
    text ++ "\x00" ++ rest = text' ++ "\x00" ++ rest' ↔
      (text = text' ∧ rest = rest') ∨
        (∃ moved, text' = text ++ "\x00" ++ moved ∧ rest = moved ++ "\x00" ++ rest') ∨
          ∃ moved, text = text' ++ "\x00" ++ moved ∧ rest' = moved ++ "\x00" ++ rest := by
  simp only [← String.toList_inj, toList_append_mark, append_cons_eq_iff]
  refine or_congr_right (or_congr ?_ ?_)
  · exact ⟨fun ⟨moved, h⟩ => ⟨String.ofList moved, by simpa using h⟩,
      fun ⟨moved, h⟩ => ⟨moved.toList, h⟩⟩
  · exact ⟨fun ⟨moved, h⟩ => ⟨String.ofList moved, by simpa using h⟩,
      fun ⟨moved, h⟩ => ⟨moved.toList, h⟩⟩

/-- Behind one of its marks the text has the name of the scope, and then a mark or its end: it reads
as if a file of the scope began there. -/
def Spells (text : String) (scope : Scope) : Prop :=
  ∃ before after, text ++ "\x00" = before ++ "\x00" ++ (scope.name ++ "\x00" ++ after)

theorem not_mem_name (scope : Scope) : '\x00' ∉ scope.name.toList := by
  cases scope <;> decide

end Settings

/-! ## Texts of files -/

namespace Session

open Settings (Spells append_mark_eq_iff not_mem_name)

variable {s s' : Session} {file : Scope × Path} {files rest : List (Scope × Path)}

/-- **A text runs over** into the files behind it: the second session has it where the first one has
less of it, and what is missing there stands in front of what the files behind it have. -/
inductive RunsOver (s s' : Session) : List (Scope × Path) → Prop where
  /-- The text of the first file goes on with a mark and what is moved. -/
  | here {file : Scope × Path} {rest : List (Scope × Path)} (moved : String)
      (htext : s'.look file = s.look file ++ "\x00" ++ moved)
      (hrest : s.watchedFrom rest = moved ++ "\x00" ++ s'.watchedFrom rest) :
      RunsOver s s' (file :: rest)
  /-- The text of the first file is the same, and one behind it runs over. -/
  | later {file : Scope × Path} {rest : List (Scope × Path)} (hsame : s'.look file = s.look file)
      (h : RunsOver s s' rest) : RunsOver s s' (file :: rest)

theorem runsOver_cons_of_same (hsame : s'.look file = s.look file) :
    RunsOver s s' (file :: rest) ↔ RunsOver s s' rest := by
  constructor
  · intro h
    cases h with
    | later _ hrest => exact hrest
    | here moved htext =>
      have hlength := congrArg String.length (hsame.symm.trans htext)
      have hmark : "\x00".length = 1 := rfl
      rw [String.length_append, String.length_append, hmark] at hlength
      omega
  · exact .later hsame

theorem runsOver_cons_of_ne (hne : s'.look file ≠ s.look file) :
    RunsOver s s' (file :: rest) ↔
      ∃ moved, s'.look file = s.look file ++ "\x00" ++ moved ∧
        s.watchedFrom rest = moved ++ "\x00" ++ s'.watchedFrom rest := by
  constructor
  · intro h
    cases h with
    | here moved htext hrest => exact ⟨moved, htext, hrest⟩
    | later hsame => exact absurd hsame hne
  · rintro ⟨moved, htext, hrest⟩
    exact .here moved htext hrest

/-- **The watched texts are equal** if all texts are the same, or one runs over. -/
theorem watchedFrom_eq_iff :
    s.watchedFrom files = s'.watchedFrom files ↔
      (∀ file ∈ files, s'.look file = s.look file) ∨ RunsOver s s' files ∨
        RunsOver s' s files := by
  induction files with
  | nil => exact iff_of_true rfl (.inl fun _ h => absurd h List.not_mem_nil)
  | cons file rest ih =>
    have hcancel : s.watchedFrom (file :: rest) = s'.watchedFrom (file :: rest) ↔
        s.look file ++ "\x00" ++ s.watchedFrom rest =
          s'.look file ++ "\x00" ++ s'.watchedFrom rest := by
      rw [watchedFrom_cons, watchedFrom_cons]
      exact ⟨fun h => String.append_right_inj _ |>.1 h, congrArg _⟩
    rw [hcancel, List.forall_mem_cons]
    by_cases hsame : s'.look file = s.look file
    · rw [runsOver_cons_of_same hsame, runsOver_cons_of_same hsame.symm, hsame]
      simp only [true_and]
      rw [← ih]
      exact ⟨fun h => String.append_right_inj _ |>.1 h, congrArg _⟩
    · rw [runsOver_cons_of_ne hsame, runsOver_cons_of_ne (Ne.symm hsame), append_mark_eq_iff]
      simp only [Ne.symm hsame, hsame, false_and, false_or]

/-- What is moved by a text that runs over begins with the name of the scope behind it. -/
theorem RunsOver.spells (h : RunsOver s s' files) :
    ∃ file next, [file, next] <:+: files ∧ Spells (s'.look file) next.1 := by
  induction h with
  | later _ _ ih =>
    obtain ⟨file, next, hinfix, hspells⟩ := ih
    exact ⟨file, next, hinfix.trans (List.suffix_cons _ _).isInfix, hspells⟩
  | @here file rest moved htext hrest =>
    cases rest with
    | nil =>
      -- Nothing stands behind the last file.
      have hlength := congrArg String.length hrest
      have hmark : "\x00".length = 1 := rfl
      have hempty : (s.watchedFrom []).length = 0 := rfl
      rw [String.length_append, String.length_append, hmark, hempty] at hlength
      omega
    | cons next others =>
      refine ⟨file, next, ⟨[], others, rfl⟩, s.look file, ?_⟩
      rw [watchedFrom_cons, append_mark_eq_iff] at hrest
      rcases hrest with ⟨rfl, -⟩ | ⟨further, rfl, -⟩ | ⟨further, hname, -⟩
      · exact ⟨"", by rw [htext, String.append_empty, String.append_assoc]⟩
      · exact ⟨further ++ "\x00", by simp only [htext, String.append_assoc]⟩
      · refine absurd ?_ (not_mem_name next.1)
        rw [hname, Settings.toList_append_mark]
        simp

end Session

namespace Workspace

open Session (RunsOver)
open Settings (Spells)

/-- What is read of a file has changed if the text of it that is watched has. -/
theorem looksChanged_read_iff {s s' : Session} {file : Scope × Path} :
    LooksChanged (s.read file.2) (s'.read file.2) ↔ s'.look file ≠ s.look file := by
  rw [looksChanged_iff, Session.look, Session.look, Session.watched_fileState,
    Session.watched_fileState]

/-- **What the fingerprint tells.**  It is that of a text which is the same for two sessions if in
none of the files anything has changed that can be read, or if a text runs over into the files
behind it.  That cannot be if no text reads as if the file behind it began in it; then every change
shows. -/
theorem filesFingerprint_tells_files (places : Places) (s s' : Session) :
    let files := places.toList
    let hashed (s : Session) := watchedText (readFiles files s).1
    (∀ s, (filesFingerprint places s).1 = .of (hashed s)) ∧
      (hashed s = hashed s' ↔
        (∀ file ∈ files, ¬ LooksChanged (s.read file.2) (s'.read file.2)) ∨
          RunsOver s s' files ∨ RunsOver s' s files) ∧
      ((∀ file next, [file, next] <:+: files →
          ¬ Spells (s.look file) next.1 ∧ ¬ Spells (s'.look file) next.1) →
        (∃ file ∈ files, LooksChanged (s.read file.2) (s'.read file.2)) →
          hashed s ≠ hashed s') := by
  intro files hashed
  have hequal : hashed s = hashed s' ↔
      (∀ file ∈ files, ¬ LooksChanged (s.read file.2) (s'.read file.2)) ∨
        RunsOver s s' files ∨ RunsOver s' s files := by
    change watchedText _ = watchedText _ ↔ _
    rw [(run_readFiles files s).1, (run_readFiles files s').1, Session.watchedFrom_eq_iff]
    simp only [looksChanged_read_iff, not_not]
  refine ⟨fun _ => rfl, hequal, fun hplain hchanged heq => ?_⟩
  obtain ⟨changed, hmem, hchanged⟩ := hchanged
  rcases hequal.1 heq with hsame | hover | hover
  · exact hsame changed hmem hchanged
  · obtain ⟨file, next, hinfix, hspells⟩ := hover.spells
    exact (hplain file next hinfix).2 hspells
  · obtain ⟨file, next, hinfix, hspells⟩ := hover.spells
    exact (hplain file next hinfix).1 hspells

/-- The end of the global settings moves into those of the workspace, from where it counts; the text
under the fingerprint stays the same, and with it the fingerprint. -/
theorem filesFingerprint_overlooks_moved_text :
    let place : Path := ⟨"/config/settings.json"⟩
    let places : Places := ⟨some place, ⟨"/project/.chainfmt/settings.json"⟩, none⟩
    let setting := "\x7b\"a\": 1\x7d//"
    let start := "\x00workspace\x00"
    let nothing := "\x7b\x7d"
    let s : Session :=
      { disk := .ofFiles [(place, nothing ++ "//" ++ start ++ setting), (places.workspace, nothing)]
        outside := some {} }
    let s' : Session :=
      { disk := .ofFiles [(place, nothing ++ "//"), (places.workspace, setting ++ start ++ nothing)]
        outside := some {} }
    (∀ file ∈ places.toList, LooksChanged (s.read file.2) (s'.read file.2)) ∧
      (s.layer? places.workspace).map (·.general.names) = some [] ∧
      (s'.layer? places.workspace).map (·.general.names) = some ["a"] ∧
      RunsOver s' s places.toList ∧
      watchedText (readFiles places.toList s).1 = watchedText (readFiles places.toList s').1 ∧
      (filesFingerprint places s).1 = (filesFingerprint places s').1 := by
  intro place places setting start nothing s s'
  have hchanged : ∀ file ∈ places.toList, LooksChanged (s.read file.2) (s'.read file.2) := by
    intro file hmem
    rw [looksChanged_iff]
    revert file
    decide +kernel
  have hover : RunsOver s' s places.toList :=
    .here ("workspace\x00" ++ setting) (by decide +kernel) (by decide +kernel)
  obtain ⟨hfingerprint, hequal, -⟩ := filesFingerprint_tells_files places s s'
  have hhashed := hequal.2 (.inr (.inr hover))
  refine ⟨hchanged, by decide +kernel, by decide +kernel, hover, hhashed, ?_⟩
  rw [hfingerprint, hfingerprint, hhashed]

end Workspace

end FormatChain
