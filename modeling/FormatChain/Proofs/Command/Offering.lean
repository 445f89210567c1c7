import FormatChain.Command.RunCommand
import FormatChain.Proofs.Chain.Resolving
import Mathlib.Data.List.Nodup

/-!
# The commands that are offered

The editor has one command for each language that chains are set up for: the languages that are
listed, and then those that have formatters of their own.  White space around the name of a language
does not count for its command, and blank names have none.  But chains run for a listed language
only under the very name in the list.

* `namesOf` : the names that some texts have without the white space around them, each once.
* `foldl_addLanguage` : the commands of some languages.
* `Settings.HasFormatters` : the language has formatters of its own.
* `EditorCommand.id_injective`, `EditorCommand.find?_eq_some_iff` : a command is found by its id.
* `EditorCommand.offered_exact` : the commands, and how they are found.
* `IsSkipped` : no chain runs for a language because it is not listed.
* `EditorCommand.offered_runs_iff` : when the command of a listed language runs its chain.
-/

namespace FormatChain

open FormatChain.Json FormatChain.Text

/-! ## Names -/

/-- The texts without the white space around them, in the order in which they are first met.  Blank
texts are left out. -/
def namesOf (texts : List String) : List String := ((texts.map trim).filter (· ≠ "")).eraseDups

theorem mem_namesOf {name : String} {texts : List String} :
    name ∈ namesOf texts ↔ name ≠ "" ∧ ∃ text ∈ texts, trim text = name := by
  rw [namesOf, List.mem_eraseDups, List.mem_filter, List.mem_map, decide_eq_true_iff, and_comm]

theorem nodup_namesOf (texts : List String) : (namesOf texts).Nodup := nodup_eraseDups _

theorem namesOf_append (texts others : List String) :
    namesOf (texts ++ others) = namesOf texts ++ (namesOf others).filter (· ∉ namesOf texts) := by
  rw [namesOf, List.map_append, List.filter_append, eraseDups_append_filter]
  rfl

theorem namesOf_concat (texts : List String) (text : String) :
    namesOf (texts ++ [text]) =
      if trim text = "" ∨ trim text ∈ namesOf texts then namesOf texts
      else namesOf texts ++ [trim text] := by
  have hone : namesOf [text] = if trim text = "" then [] else [trim text] := by
    by_cases hblank : trim text = ""
    · simp [namesOf, hblank]
    · simp [namesOf, hblank, List.eraseDups_cons]
  rw [namesOf_append, hone]
  by_cases hblank : trim text = ""
  · simp [hblank]
  · by_cases hmem : trim text ∈ namesOf texts
    · simp [hblank, hmem]
    · simp [hblank, hmem]

/-- Leaving out texts whose names are not wanted makes no difference. -/
theorem filter_namesOf_filter {keep wanted : String → Bool}
    (h : ∀ text, trim text ≠ "" → wanted (trim text) = true → keep text = true)
    (texts : List String) :
    (namesOf (texts.filter keep)).filter wanted = (namesOf texts).filter wanted := by
  simp only [namesOf, ← eraseDups_filter, List.filter_map, List.filter_filter]
  congr 2
  refine List.filter_congr fun text _ => ?_
  cases hwanted : wanted (trim text) with
  | false => simp [hwanted]
  | true =>
    by_cases hname : trim text = ""
    · simp [hname]
    · simp [hname, h text hname hwanted]

/-! ## Languages with formatters -/

/-- The language has formatters of its own: its block has them at some scope. -/
def Settings.HasFormatters (s : Settings) (language : String) : Prop :=
  ∃ scope, (s.raw? scope Settings.Key.formatters (some language)).isSome = true

theorem Settings.isSome_languageValue?_iff (s : Settings) (key language : String) :
    (Settings.languageValue? (s.inspect key (some language))).isSome = true ↔
      ∃ scope, (s.raw? scope key (some language)).isSome = true := by
  rw [Settings.languageValue?_inspect, Option.bind_some, Settings.narrowest?,
    List.findSome?_isSome_iff]
  constructor
  · rintro ⟨scope, -, hvalue⟩
    exact ⟨scope, hvalue⟩
  · rintro ⟨scope, hvalue⟩
    exact ⟨scope, by cases scope <;> decide, hvalue⟩

instance (s : Settings) (language : String) : Decidable (s.HasFormatters language) :=
  decidable_of_iff _ (s.isSome_languageValue?_iff Settings.Key.formatters language)

/-- A language with formatters has a block. -/
theorem Settings.mem_languageIds_of_hasFormatters {s : Settings} {language : String}
    (h : s.HasFormatters language) : language ∈ s.languageIds := by
  obtain ⟨scope, hsome⟩ := h
  obtain ⟨value, hvalue⟩ := Option.isSome_iff_exists.1 hsome
  obtain ⟨layer, hlayer, hget⟩ := Option.bind_eq_some_iff.1 hvalue
  obtain ⟨block, hblock, -⟩ := Option.bind_eq_some_iff.1 hget
  rw [Settings.languageIds_eq, List.mem_eraseDups, List.mem_flatMap]
  exact ⟨(scope, layer), Settings.PerScope.mem_toList.2 hlayer,
    OrderedMap.mem_names_iff.2 ⟨block, hblock⟩⟩

namespace EditorCommand

theorem languagesWithFormatters_eq (s : Settings) :
    languagesWithFormatters s = s.languageIds.filter (s.HasFormatters ·) := by
  refine List.filter_congr fun language _ => ?_
  rw [Bool.eq_iff_iff, Settings.isSome_languageValue?_iff, decide_eq_true_iff]
  rfl

theorem mem_languagesWithFormatters {s : Settings} {language : String} :
    language ∈ languagesWithFormatters s ↔ s.HasFormatters language := by
  rw [languagesWithFormatters_eq, List.mem_filter, decide_eq_true_iff, and_iff_right_iff_imp]
  exact Settings.mem_languageIds_of_hasFormatters

/-! ## Commands of languages -/

/-- The commands that are there in any case, and those of some languages. -/
def formattingCommands (languages : List String) : List EditorCommand :=
  [.formatDocument, .formatSelection] ++ languages.map .formatDocumentAs

theorem mem_formattingCommands {language : String} {languages : List String} :
    .formatDocumentAs language ∈ formattingCommands languages ↔ language ∈ languages := by
  simp [formattingCommands]

theorem nodup_commands {languages : List String} (h : languages.Nodup) :
    (formattingCommands languages ++ [toggleDebugMode]).Nodup := by
  have hlanguages : (languages.map EditorCommand.formatDocumentAs).Nodup :=
    h.map fun _ _ heq => formatDocumentAs.inj heq
  simp [formattingCommands, List.nodup_append, hlanguages]

theorem addLanguage_formattingCommands (languages : List String) (text : String) :
    addLanguage (formattingCommands languages) text =
      formattingCommands (if trim text = "" ∨ trim text ∈ languages then languages
        else languages ++ [trim text]) := by
  simp only [addLanguage, Bool.or_eq_true, String.isEmpty_iff, List.contains_iff_mem,
    mem_formattingCommands]
  split
  · rfl
  · simp [formattingCommands]

/-- **The commands of some languages** are those of their names. -/
theorem foldl_addLanguage (texts : List String) :
    texts.foldl addLanguage (formattingCommands []) = formattingCommands (namesOf texts) := by
  induction texts using List.reverseRecOn with
  | nil => rfl
  | append_singleton texts text ih =>
    rw [List.foldl_append, ih, List.foldl_cons, List.foldl_nil, addLanguage_formattingCommands,
      namesOf_concat]

/-! ## Ids -/

/-- **Commands with the same id are the same.** -/
theorem id_injective : Function.Injective EditorCommand.id := by
  intro command other h
  have hchars := congrArg String.toList h
  clear h
  cases command <;> cases other
  case formatDocumentAs.formatDocumentAs language language' =>
    have hsame : language.toList = language'.toList := by
      simpa [EditorCommand.id, Settings.programName] using hchars
    rw [String.toList_inj.1 hsame]
  -- ids of different kinds already differ in what does not depend on a language
  all_goals simp [EditorCommand.id, Settings.programName] at hchars ⊢

theorem find?_eq_some_iff {commands : List EditorCommand} {id : String} {command : EditorCommand} :
    find? commands id = some command ↔ command ∈ commands ∧ command.id = id := by
  constructor
  · intro hfound
    exact ⟨List.mem_of_find?_eq_some hfound, by simpa using List.find?_some hfound⟩
  · rintro ⟨hmem, hid⟩
    cases hfound : find? commands id with
    | none => exact absurd (List.find?_eq_none.1 hfound command hmem) (by simp [hid])
    | some other =>
      have hother : other.id = id := by simpa using List.find?_some hfound
      rw [id_injective (hother.trans hid.symm)]

theorem find?_eq_none_iff {commands : List EditorCommand} {id : String} :
    find? commands id = none ↔ id ∉ commands.map EditorCommand.id := by
  rw [find?, List.find?_eq_none]
  simp

/-! ## The commands that are offered -/

/-- The languages that have commands: those that are listed, and then those with formatters, under
their names and each once. -/
def offeredLanguages (s : Settings) : List String :=
  let listed := namesOf s.allowList
  let others := namesOf (s.languageIds.filter (s.HasFormatters ·))
  listed ++ others.filter (· ∉ listed)

theorem nodup_offeredLanguages (s : Settings) : (offeredLanguages s).Nodup := by
  refine List.nodup_append.2 ⟨nodup_namesOf _, (nodup_namesOf _).filter _, ?_⟩
  rintro name hlisted other hother rfl
  exact of_decide_eq_true (List.mem_filter.1 hother).2 hlisted

theorem mem_offeredLanguages {s : Settings} {language : String} :
    language ∈ offeredLanguages s ↔
      language ≠ "" ∧ ∃ entry, trim entry = language ∧
        (entry ∈ s.allowList ∨ s.HasFormatters entry) := by
  have hmem : language ∈ offeredLanguages s ↔ language ∈ namesOf s.allowList ∨
      language ∈ namesOf (languagesWithFormatters s) := by
    rw [offeredLanguages, ← languagesWithFormatters_eq, List.mem_append, List.mem_filter,
      decide_eq_true_iff]
    tauto
  rw [hmem, mem_namesOf, mem_namesOf, ← and_or_left, ← exists_or]
  simp only [mem_languagesWithFormatters, ← or_and_right, and_comm]

/-- **The commands** of the languages stand between those that are there in any case. -/
theorem value_offered (s : Settings) :
    (offered s).value = formattingCommands (offeredLanguages s) ++ [.toggleDebugMode] := by
  -- languages that are listed are left out early, under the names that the settings give them
  have hearly : namesOf (s.allowList ++
      (languagesWithFormatters s).filter fun language => !s.allowList.contains language) =
        offeredLanguages s := by
    rw [namesOf_append, offeredLanguages, ← languagesWithFormatters_eq]
    refine congrArg (namesOf s.allowList ++ ·)
      (filter_namesOf_filter (fun text hname hwanted => ?_) _)
    rw [Bool.not_eq_true', ← Bool.not_eq_true, List.contains_iff_mem]
    intro hlisted
    exact of_decide_eq_true hwanted (mem_namesOf.2 ⟨hname, text, hlisted, rfl⟩)
  rw [offered, Noted.value_bind, Noted.value_pure, value_readOrWarn_languages, ← hearly]
  exact congrArg (· ++ [toggleDebugMode]) (foldl_addLanguage _)

/-- **The commands are exact and found by their ids.**  The commands of the listed languages come
first, in the order of the list, and then those of the languages with formatters, in the order in
which the settings have their blocks, each once.  So a language has a command if and only if it is
what is left of a listed language, or of one with formatters, without the white space around it, and
something is left.  No two commands have the same id, every one is found by its own id, and nothing
is found by any other id. -/
theorem offered_exact (s : Settings) :
    let commands := (offered s).value
    let listed := namesOf s.allowList
    let others := namesOf (s.languageIds.filter (s.HasFormatters ·))
    commands = [.formatDocument, .formatSelection] ++
        (listed ++ others.filter (· ∉ listed)).map .formatDocumentAs ++ [.toggleDebugMode] ∧
      (∀ language, .formatDocumentAs language ∈ commands ↔
        language ≠ "" ∧ ∃ entry, trim entry = language ∧
          (entry ∈ s.allowList ∨ s.HasFormatters entry)) ∧
      (commands.map EditorCommand.id).Nodup ∧
      (∀ id command, find? commands id = some command ↔ command ∈ commands ∧ command.id = id) ∧
      ∀ id, find? commands id = none ↔ id ∉ commands.map EditorCommand.id := by
  intro commands listed others
  have hcommands : commands = formattingCommands (offeredLanguages s) ++ [.toggleDebugMode] :=
    value_offered s
  refine ⟨hcommands, fun language => ?_, ?_, fun id command => find?_eq_some_iff,
    fun id => find?_eq_none_iff⟩
  · rw [← mem_offeredLanguages, hcommands, List.mem_append, mem_formattingCommands]
    simp
  · exact List.Nodup.map id_injective (hcommands ▸ nodup_commands (nodup_offeredLanguages s))

example :
    let s : Settings := { layers := {
      global := some (Settings.Layer.empty.set Settings.Key.languages none
        (some (.array [.string " rust ", .string "", .string "go", .string "rust"])))
      workspace := some (Settings.Layer.empty.set Settings.Key.formatters (some "python")
        (some (.array []))) } }
    (offered s).value.map EditorCommand.id = ["chainfmt.formatDocument", "chainfmt.formatSelection",
      "chainfmt.formatDocument.rust", "chainfmt.formatDocument.go",
      "chainfmt.formatDocument.python", "chainfmt.toggleDebugMode"] := by
  decide +kernel

end EditorCommand

/-! ## Listed languages -/

/-- The chain of the language is left out because it is not among the listed languages. -/
def IsSkipped (s : Settings) (language : String) : Prop :=
  resolveChain s language = ⟨Chain.empty, [.debug
    s!"Language '{language}' is not in {Settings.Key.languages}. Skipping."]⟩

section Listed

variable {s : Settings} {listed : List String} {language : String}

theorem allowList_of_read
    (hread : s.read decodeStrings Settings.Key.languages none = .ok (some listed)) :
    s.allowList = listed := by
  rw [← value_readOrWarn_languages, Settings.readOrWarn_of_read hread, Noted.value_pure,
    Option.getD_some]

/-- A list that is read well is nothing to remark on. -/
theorem isLanguageEnabled_of_read
    (hread : s.read decodeStrings Settings.Key.languages none = .ok (some listed))
    (language : String) :
    isLanguageEnabled s language = pure (listed.isEmpty || listed.contains language) := by
  rw [isLanguageEnabled, Settings.readOrWarn_of_read hread, pure_bind, Option.getD_some]

/-- The last remark on the chain of a language for which chains run shows it. -/
theorem notes_resolveChain_of_allows (h : s.Allows language) :
    (resolveChain s language).notes =
      (isLanguageEnabled s language).notes ++ ((leadingFormatter s language).notes ++
        (listedFormatters s language).notes) ++
          [.debug s!"Resolved chain for '{language}': {(resolveChain s language).value.text}"] := by
  have henabled : (isLanguageEnabled s language).value = true := by
    rw [value_isLanguageEnabled, decide_eq_true h]
  simp only [resolveChain, Noted.notes_bind, Noted.value_bind, henabled, if_true, List.append_assoc]
  rfl

theorem not_isSkipped_of_allows (h : s.Allows language) : ¬ IsSkipped s language := by
  intro hskipped
  have hlast := notes_resolveChain_of_allows h
  rw [hskipped] at hlast
  have hremark := congrArg List.getLast? hlast
  rw [List.getLast?_concat, List.getLast?_singleton] at hremark
  have hchars := congrArg String.toList (Note.debug.inj (Option.some.inj hremark))
  simp [toString] at hchars

theorem isSkipped_of_not_mem
    (hread : s.read decodeStrings Settings.Key.languages none = .ok (some listed))
    (hlisted : listed ≠ []) (h : language ∉ listed) : IsSkipped s language := by
  have hdisabled : (listed.isEmpty || listed.contains language) = false := by simp [h, hlisted]
  rw [IsSkipped, resolveChain, isLanguageEnabled_of_read hread, pure_bind, hdisabled]
  rfl

end Listed

/-- **The command of a listed language runs its chain if the name is listed as it is.**  An entry of
the list that is not blank has a command, which is found by its id and formats documents as if they
were in the language that the entry is without the white space around it.  Chains run for this
language, and its chain is not left out, if and only if the list also has it without white space. -/
theorem EditorCommand.offered_runs_iff {s : Settings} {listed : List String} {entry : String}
    (hread : s.read decodeStrings Settings.Key.languages none = .ok (some listed))
    (hentry : entry ∈ listed) (hname : trim entry ≠ "") :
    let language := trim entry
    let commands := (offered s).value
    formatDocumentAs language ∈ commands ∧
      find? commands (Settings.programName ++ ".formatDocument." ++ language) =
        some (formatDocumentAs language) ∧
      ((isLanguageEnabled s language).value = true ↔ language ∈ listed) ∧
      (¬ IsSkipped s language ↔ language ∈ listed) ∧
      (resolveChain s language).value.ids =
        if language ∈ listed then s.leading language ++ s.listedFor language else [] := by
  intro language commands
  have hallowed : s.allowList = listed := allowList_of_read hread
  have hnonempty : listed ≠ [] := List.ne_nil_of_mem hentry
  have hallows : s.Allows language ↔ language ∈ listed := by
    rw [Settings.Allows, hallowed, or_iff_right hnonempty]
  have hoffered : formatDocumentAs language ∈ commands := by
    have hmem : language ∈ offeredLanguages s :=
      mem_offeredLanguages.2 ⟨hname, entry, rfl, .inl (hallowed ▸ hentry)⟩
    have hcommands : commands = formattingCommands (offeredLanguages s) ++ [.toggleDebugMode] :=
      value_offered s
    rw [hcommands]
    exact List.mem_append_left _ (mem_formattingCommands.2 hmem)
  refine ⟨hoffered, find?_eq_some_iff.2 ⟨hoffered, rfl⟩, ?_, ⟨fun hrun => ?_, fun hmem => ?_⟩, ?_⟩
  · rw [value_isLanguageEnabled, decide_eq_true_iff, hallows]
  · exact Classical.not_not.1 fun hmem => hrun (isSkipped_of_not_mem hread hnonempty hmem)
  · exact not_isSkipped_of_allows (hallows.2 hmem)
  · rw [ids_resolveChain, Settings.chainIds]
    simp only [hallows]

/-- The command of a language that is listed with white space around it is offered, but its chain is
left out although there are formatters. -/
theorem EditorCommand.offered_skips_white_space :
    let s : Settings := { layers := {
      workspace := some ((Settings.Layer.empty.set Settings.Key.languages none
        (some (.array [.string " rust "]))).set Settings.Key.formatters none
          (some (.array [.string "fmtA"]))) } }
    s.read decodeStrings Settings.Key.languages none = .ok (some [" rust "]) ∧
      find? (offered s).value "chainfmt.formatDocument.rust" = some (formatDocumentAs "rust") ∧
      (isLanguageEnabled s "rust").value = false ∧ IsSkipped s "rust" ∧
      s.listedFor "rust" = ["fmtA"] := by
  intro s
  have hread : s.read decodeStrings Settings.Key.languages none = .ok (some [" rust "]) := rfl
  have hlanguage : trim " rust " = "rust" := by decide +kernel
  have hentry : " rust " ∈ [" rust "] := List.mem_cons_self
  have hother : "rust" ∉ [" rust "] := by decide
  obtain ⟨-, hfound, henabled, hruns, -⟩ := offered_runs_iff hread hentry (by decide +kernel)
  rw [hlanguage] at hfound henabled hruns
  refine ⟨hread, hfound, ?_, Classical.not_not.1 fun h => hother (hruns.1 h), by decide +kernel⟩
  exact Bool.eq_false_iff.2 fun h => hother (henabled.1 h)

end FormatChain
