import FormatChain.Proofs.Settings.OverrideKeys

/-!
# The grammar of override keys

Which keys override settings for languages is said here without the loop that reads them: a key is
a row of groups with white space around and between them, and a group is a language in brackets,
with white space around it.  A group ends at its first closing bracket, whatever stands before it.

* `Settings.Trims` : a text is what is left of some characters without the white space around them.
* `Settings.IsGroup`, `Settings.SpellsGroups`, `Settings.SpellsOverride` : the grammar.
* `Settings.overrideLanguages?_eq_some_iff` : a key is read exactly as the grammar has it.
* `Settings.spells_join` : languages written one after the other in brackets.
* `Settings.overrideLanguages?_exact` : all of it.
-/

namespace FormatChain

open FormatChain.Text

/-! ## Trimming -/

namespace Settings

/-- The text is what the characters hold between the white space at their ends. -/
def Trims (text : String) (chars : List Char) : Prop :=
  IsTrimmed text ∧ ∃ left right, (∀ c ∈ left, isBlank c = true) ∧ (∀ c ∈ right, isBlank c = true) ∧
    chars = left ++ text.toList ++ right

theorem trims_ofList_trimChars (chars : List Char) :
    Trims (String.ofList (trimChars chars)) chars := by
  obtain ⟨left, right, hleft, hright, hchars⟩ := exists_around_trimmed chars
  refine ⟨isTrimmed_trimChars chars, left, right, hleft, hright, ?_⟩
  rw [String.toList_ofList]
  exact hchars

/-- There is one way to trim characters. -/
theorem Trims.trimChars_eq {text : String} {chars : List Char} (h : Trims text chars) :
    trimChars chars = text.toList := by
  obtain ⟨⟨hhead, hlast⟩, left, right, hleft, hright, rfl⟩ := h
  exact dropBlankEnd_around hleft hright hhead hlast

/-! ## The grammar -/

/-- The characters are the language in brackets, with white space around it. -/
def IsGroup (language : String) (group : List Char) : Prop :=
  language ≠ "" ∧ ∃ inside, ']' ∉ inside ∧ Trims language inside ∧ group = '[' :: inside ++ [']']

/-- The characters are a group for each of the languages, with white space between the groups. -/
inductive SpellsGroups : List String → List Char → Prop where
  /-- The last language. -/
  | last {language : String} {group : List Char} (h : IsGroup language group) :
    SpellsGroups [language] group
  /-- A language before others. -/
  | more {language : String} {group between groups : List Char} {others : List String}
    (h : IsGroup language group) (hbetween : ∀ c ∈ between, isBlank c = true)
    (hothers : SpellsGroups others groups) :
    SpellsGroups (language :: others) (group ++ between ++ groups)

/-- The key consists of groups for the languages, with white space around them. -/
def SpellsOverride (languages : List String) (key : String) : Prop :=
  ∃ groups, Trims groups key.toList ∧ SpellsGroups languages groups.toList

theorem SpellsGroups.exists_cons {languages : List String} {chars : List Char}
    (h : SpellsGroups languages chars) : ∃ language others, languages = language :: others := by
  cases h with
  | last _ => exact ⟨_, [], rfl⟩
  | more _ _ _ => exact ⟨_, _, rfl⟩

/-- Groups start and end with a bracket. -/
theorem SpellsGroups.ends {languages : List String} {chars : List Char}
    (h : SpellsGroups languages chars) :
    chars.head? = some '[' ∧ chars.getLast? = some ']' := by
  induction h with
  | last h =>
    obtain ⟨-, inside, -, -, rfl⟩ := h
    exact ⟨rfl, List.getLast?_concat ..⟩
  | more h _ _ ih =>
    obtain ⟨-, inside, -, -, rfl⟩ := h
    refine ⟨rfl, ?_⟩
    rw [List.getLast?_append, ih.2]
    rfl

/-! ## Reading the groups -/

/-- The loop reads a group and goes on behind it. -/
theorem bracketedLanguages?_group {language : String} {group after : List Char}
    {others : List String} (h : IsGroup language group)
    (hafter : bracketedLanguages? (after.dropWhile isBlank) = some others) :
    bracketedLanguages? (group ++ after) = some (language :: others) := by
  obtain ⟨hlanguage, inside, hclosing, htrims, rfl⟩ := h
  have hgroup : '[' :: inside ++ [']'] ++ after = '[' :: (inside ++ ']' :: after) := by
    rw [List.append_assoc]
    rfl
  rw [hgroup, bracketedLanguages?_cons_eq_some]
  refine ⟨rfl, inside, after, others, cutAtFirst_eq_some_iff.2 ⟨hclosing, rfl⟩, ?_, hafter, ?_⟩
  · rw [htrims.trimChars_eq]
    exact fun hempty => hlanguage (String.toList_eq_nil_iff.1 hempty)
  · rw [htrims.trimChars_eq, String.ofList_toList]

theorem bracketedLanguages?_of_spellsGroups {languages : List String} {chars : List Char}
    (h : SpellsGroups languages chars) : bracketedLanguages? chars = some languages := by
  induction h with
  | last h =>
    have hend : bracketedLanguages? (([] : List Char).dropWhile isBlank) = some [] := by
      rw [List.dropWhile_nil, bracketedLanguages?]
    have hread := bracketedLanguages?_group h hend
    rw [List.append_nil] at hread
    exact hread
  | more h hbetween hothers ih =>
    rw [List.append_assoc]
    refine bracketedLanguages?_group h ?_
    have hbracket := hothers.ends.1
    rw [List.dropWhile_append_of_pos hbetween, dropWhile_isBlank_of_head?, ih]
    intro c hc
    rw [hbracket] at hc
    obtain rfl := Option.some.inj hc
    decide

/-- The loop reads no languages only where there are no characters. -/
theorem eq_nil_of_bracketedLanguages? {chars : List Char}
    (h : bracketedLanguages? chars = some []) : chars = [] := by
  cases chars with
  | nil => rfl
  | cons c rest =>
    obtain ⟨-, _, _, _, -, -, -, hnil⟩ := bracketedLanguages?_cons_eq_some.1 h
    exact absurd hnil.symm (List.cons_ne_nil _ _)

/-- The first language that the loop reads is that of a group, and the others are read behind
it. -/
theorem exists_group_of_bracketedLanguages? {chars : List Char} {languages : List String}
    (h : bracketedLanguages? chars = some languages) (hne : languages ≠ []) :
    ∃ language group after others, IsGroup language group ∧ chars = group ++ after ∧
      bracketedLanguages? (after.dropWhile isBlank) = some others ∧
      languages = language :: others := by
  cases chars with
  | nil =>
    rw [bracketedLanguages?] at h
    exact absurd (Option.some.inj h).symm hne
  | cons c rest =>
    obtain ⟨rfl, inside, after, others, hcut, hinside, hothers, rfl⟩ :=
      bracketedLanguages?_cons_eq_some.1 h
    obtain ⟨hclosing, rfl⟩ := cutAtFirst_eq_some_iff.1 hcut
    have hlanguage : String.ofList (trimChars inside) ≠ "" := by
      intro hempty
      rw [← String.toList_eq_nil_iff, String.toList_ofList] at hempty
      exact hinside hempty
    refine ⟨_, '[' :: inside ++ [']'], after, others,
      ⟨hlanguage, inside, hclosing, trims_ofList_trimChars inside, rfl⟩, ?_, hothers, rfl⟩
    rw [List.append_assoc]
    rfl

/-- What the loop reads, if it starts from characters without white space at their end, is spelled
by them. -/
theorem spellsGroups_of_bracketedLanguages? {chars : List Char} {languages : List String}
    (hlast : ∀ c, chars.getLast? = some c → isBlank c = false)
    (h : bracketedLanguages? chars = some languages) (hne : languages ≠ []) :
    SpellsGroups languages chars := by
  -- Each group leaves a shorter rest, and the end of the rest is the end of the whole.
  induction hn : chars.length using Nat.strongRecOn generalizing chars languages with
  | _ n ih =>
    obtain ⟨language, group, after, others, hgroup, rfl, hothers, rfl⟩ :=
      exists_group_of_bracketedLanguages? h hne
    have hafter := isBlank_getLast?_of_append hlast
    cases others with
    | nil =>
      -- There is no group behind this one, and so there is nothing at all.
      obtain rfl := eq_nil_of_dropWhile_isBlank hafter (eq_nil_of_bracketedLanguages? hothers)
      rw [List.append_nil]
      exact .last hgroup
    | cons other others =>
      have hparts : after.takeWhile isBlank ++ after.dropWhile isBlank = after :=
        List.takeWhile_append_dropWhile
      have hshorter : (after.dropWhile isBlank).length < n := by
        have hdropLength := length_dropWhile_le isBlank after
        have hgroupLength : 0 < group.length := by
          obtain ⟨-, inside, -, -, rfl⟩ := hgroup
          exact Nat.zero_lt_succ _
        rw [List.length_append] at hn
        omega
      have hrest : ∀ c, (after.dropWhile isBlank).getLast? = some c → isBlank c = false := by
        rw [← hparts] at hafter
        exact isBlank_getLast?_of_append hafter
      have hspelled := ih _ hshorter hrest hothers (List.cons_ne_nil _ _) rfl
      have hwhole : group ++ after =
          group ++ after.takeWhile isBlank ++ after.dropWhile isBlank := by
        rw [List.append_assoc, hparts]
      rw [hwhole]
      exact .more hgroup (fun c hc => List.mem_takeWhile_imp hc) hspelled

/-! ## Reading keys -/

theorem overrideLanguages?_eq_some {key : String} {languages : List String} :
    overrideLanguages? key = some languages ↔
      bracketedLanguages? (trimChars key.toList) = some languages ∧ languages ≠ [] := by
  unfold overrideLanguages?
  split
  · next h =>
    rw [h]
    constructor
    · intro heq
      exact ⟨heq, Option.some.inj heq ▸ List.cons_ne_nil _ _⟩
    · exact And.left
  · next hno =>
    constructor
    · intro heq
      exact absurd heq (by simp)
    · rintro ⟨heq, hne⟩
      obtain ⟨language, others, rfl⟩ := List.exists_cons_of_ne_nil hne
      exact absurd heq (hno language others)

theorem overrideLanguages?_eq_some_iff {key : String} {languages : List String} :
    overrideLanguages? key = some languages ↔ SpellsOverride languages key := by
  rw [overrideLanguages?_eq_some]
  constructor
  · rintro ⟨hread, hne⟩
    refine ⟨String.ofList (trimChars key.toList), trims_ofList_trimChars _, ?_⟩
    have hlast := (isTrimmed_trimChars key.toList).2
    rw [String.toList_ofList] at hlast ⊢
    exact spellsGroups_of_bracketedLanguages? hlast hread hne
  · rintro ⟨groups, htrims, hgroups⟩
    obtain ⟨language, others, rfl⟩ := hgroups.exists_cons
    rw [htrims.trimChars_eq]
    exact ⟨bracketedLanguages?_of_spellsGroups hgroups, List.cons_ne_nil _ _⟩

/-! ## Writing keys -/

theorem IsLanguage.isGroup {language : String} (h : IsLanguage language) :
    IsGroup language ('[' :: language.toList ++ [']']) := by
  refine ⟨h.nonempty, language.toList, h.unclosed, ⟨h.trimmed, [], [], ?_, ?_, ?_⟩, rfl⟩
  · exact fun c hc => absurd hc List.not_mem_nil
  · exact fun c hc => absurd hc List.not_mem_nil
  · rw [List.nil_append, List.append_nil]

theorem spellsGroups_flatMap {languages : List String} (hne : languages ≠ [])
    (h : ∀ language ∈ languages, IsLanguage language) :
    SpellsGroups languages (languages.flatMap fun l => '[' :: l.toList ++ [']']) := by
  induction languages with
  | nil => exact absurd rfl hne
  | cons language others ih =>
    obtain ⟨hlanguage, hothers⟩ := List.forall_mem_cons.1 h
    cases others with
    | nil =>
      rw [List.flatMap_singleton]
      exact .last hlanguage.isGroup
    | cons other rest =>
      have hgroups := ih (List.cons_ne_nil _ _) hothers
      have hblank : ∀ c ∈ ([] : List Char), isBlank c = true :=
        fun c hc => absurd hc List.not_mem_nil
      have hmore := SpellsGroups.more hlanguage.isGroup hblank hgroups
      rw [List.append_nil] at hmore
      rw [List.flatMap_cons]
      exact hmore

theorem toList_join_brackets (languages : List String) :
    (String.join (languages.map fun l => "[" ++ l ++ "]")).toList =
      languages.flatMap fun l => '[' :: l.toList ++ [']'] := by
  rw [String.toList_join, List.flatMap_map]
  congr 1
  funext l
  show ("[" ++ l ++ "]").toList = '[' :: l.toList ++ [']']
  rw [String.toList_append, String.toList_append]
  rfl

/-- Characters between brackets have no white space at their ends. -/
theorem Trims.of_ends {text : String} (hhead : text.toList.head? = some '[')
    (hlast : text.toList.getLast? = some ']') : Trims text text.toList := by
  refine ⟨⟨fun c hc => ?_, fun c hc => ?_⟩, [], [], ?_, ?_, ?_⟩
  · obtain rfl := Option.some.inj (hhead.symm.trans hc)
    decide
  · obtain rfl := Option.some.inj (hlast.symm.trans hc)
    decide
  · exact fun c hc => absurd hc List.not_mem_nil
  · exact fun c hc => absurd hc List.not_mem_nil
  · rw [List.nil_append, List.append_nil]

theorem spells_join {languages : List String} (hne : languages ≠ [])
    (h : ∀ language ∈ languages, IsLanguage language) :
    SpellsOverride languages (String.join (languages.map fun l => "[" ++ l ++ "]")) := by
  have hgroups := spellsGroups_flatMap hne h
  rw [← toList_join_brackets] at hgroups
  exact ⟨_, .of_ends hgroups.ends.1 hgroups.ends.2, hgroups⟩

/-! ## The whole -/

/-- **Override keys are read exactly.** A key is read as overriding settings for languages if and
only if, without the white space around it, it consists of one or more groups, with white space
between them at most: an opening bracket, a text without a closing bracket in which something is
left when the white space around it is gone, and a closing bracket. Then the languages are what is
left of these texts, in their order and as often as they occur. Every other key is no override key.
In particular, languages that are not empty, have no white space at their ends and no closing
bracket in them are read back from the key that puts each of them in brackets, one after the
other. -/
theorem overrideLanguages?_exact :
    (∀ key languages, overrideLanguages? key = some languages ↔ SpellsOverride languages key) ∧
    (∀ key, overrideLanguages? key = none ↔ ∀ languages, ¬ SpellsOverride languages key) ∧
    ∀ languages : List String, languages ≠ [] → (∀ language ∈ languages, IsLanguage language) →
      overrideLanguages? (String.join (languages.map fun l => "[" ++ l ++ "]")) =
        some languages := by
  refine ⟨fun key languages => overrideLanguages?_eq_some_iff, fun key => ?_,
    fun languages hne h => overrideLanguages?_eq_some_iff.2 (spells_join hne h)⟩
  rw [Option.eq_none_iff_forall_ne_some]
  exact forall_congr' fun languages => not_congr overrideLanguages?_eq_some_iff

/-- A language with a blank in it, one with an opening bracket, and one that is not ASCII, the
first of them twice. -/
theorem overrideLanguages?_exact_unusual :
    let languages := ["java script", "[x", "é", "java script"]
    String.join (languages.map fun l => "[" ++ l ++ "]") =
        "[java script][[x][é][java script]" ∧
      (∀ language ∈ languages, IsLanguage language) ∧
      overrideLanguages? "[java script][[x][é][java script]" = some languages := by
  intro languages
  have hlanguages : ∀ language ∈ languages, IsLanguage language := by
    have hcheck : languages.all (fun language => language != "" &&
        language.toList.head?.all (fun c => !isBlank c) &&
        language.toList.getLast?.all (fun c => !isBlank c) &&
        !language.toList.contains ']') = true := by decide +kernel
    intro language hmem
    have hone := List.all_eq_true.1 hcheck language hmem
    simp only [Bool.and_eq_true, bne_iff_ne, Option.all_eq_true, Bool.not_eq_true',
      List.contains_eq_mem, decide_eq_false_iff_not] at hone
    exact ⟨hone.1.1.1, ⟨hone.1.1.2, hone.1.2⟩, hone.2⟩
  have hjoin : String.join (languages.map fun l => "[" ++ l ++ "]") =
      "[java script][[x][é][java script]" := by decide +kernel
  refine ⟨hjoin, hlanguages, ?_⟩
  rw [← hjoin]
  exact overrideLanguages?_exact.2.2 languages (List.cons_ne_nil _ _) hlanguages

end Settings

end FormatChain
