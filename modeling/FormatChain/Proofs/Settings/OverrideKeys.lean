import FormatChain.Proofs.Text.Trimming
import FormatChain.Settings.Layer

/-!
# Keys that override settings for languages

An override key names languages, each in brackets.  A language that was read from such a key is not
empty, has no white space at its ends and no closing bracket in it, so that a key put together from
a language and the key of a setting can be taken apart again.

* `Settings.append_cons_eq_iff`, `Settings.append_mark_inj` : lists with a mark in them.
* `Settings.overrideKey_inj` : the key of a setting inside the brackets of a language is unambiguous.
* `Settings.IsLanguage` : a text can stand in a pair of brackets.
* `Settings.isLanguage_of_overrideLanguages?` : the languages of an override key can.
-/

namespace FormatChain

open FormatChain.Json FormatChain.Text

/-! ## Characters -/

namespace Text

/-- The first occurrence of a mark is the one that no other stands before. -/
theorem cutAtFirst_eq_some_iff {mark : Char} {chars before after : List Char} :
    cutAtFirst mark chars = some (before, after) ↔
      mark ∉ before ∧ chars = before ++ mark :: after := by
  induction chars generalizing before with
  | nil => simp [cutAtFirst]
  | cons c rest ih =>
    by_cases hc : c = mark
    · subst hc
      rw [cutAtFirst, if_pos rfl, Option.some.injEq, Prod.mk.injEq]
      constructor
      · rintro ⟨rfl, rfl⟩
        exact ⟨List.not_mem_nil, rfl⟩
      · rintro ⟨hbefore, h⟩
        cases before with
        | nil => exact ⟨rfl, (List.cons.inj h).2⟩
        | cons b more => exact absurd ((List.cons.inj h).1 ▸ List.mem_cons_self) hbefore
    · rw [cutAtFirst, if_neg hc, Option.map_eq_some_iff]
      constructor
      · rintro ⟨⟨more, rest'⟩, hcut, heq⟩
        obtain ⟨rfl, rfl⟩ := Prod.mk.inj heq
        obtain ⟨hmore, rfl⟩ := ih.1 hcut
        refine ⟨fun hmem => ?_, rfl⟩
        rcases List.mem_cons.1 hmem with rfl | hmem
        · exact hc rfl
        · exact hmore hmem
      · rintro ⟨hbefore, h⟩
        cases before with
        | nil => exact absurd (List.cons.inj h).1 hc
        | cons b more =>
          obtain ⟨rfl, hrest⟩ := List.cons.inj h
          have hmore : mark ∉ more := fun hmem => hbefore (List.mem_cons_of_mem _ hmem)
          exact ⟨(more, after), ih.2 ⟨hmore, hrest⟩, rfl⟩

/-- What stands after the last mark is what stands after one behind which there is no other. -/
theorem afterLast?_append {mark rest after : List Char} (before : List Char)
    (h : afterLast? mark rest = some after) : afterLast? mark (before ++ rest) = some after := by
  induction before with
  | nil => exact h
  | cons c before ih =>
    rw [List.cons_append, afterLast?, ih]

end Text

namespace Settings

/-! ## Override keys -/

theorem toList_overrideKey (language key : String) :
    (overrideKey language key).toList = '[' :: (language.toList ++ ']' :: '.' :: key.toList) := by
  simp [overrideKey]

/-- Two lists, each with a mark and something behind it, are equal if they have the same parts, or
if one of them goes on where the other one has its mark. -/
theorem append_cons_eq_iff {mark : Char} {xs ys rest rest' : List Char} :
    xs ++ mark :: rest = ys ++ mark :: rest' ↔
      (xs = ys ∧ rest = rest') ∨
        (∃ moved, ys = xs ++ mark :: moved ∧ rest = moved ++ mark :: rest') ∨
          ∃ moved, xs = ys ++ mark :: moved ∧ rest' = moved ++ mark :: rest := by
  constructor
  · intro h
    rcases List.append_eq_append_iff.1 h with ⟨more, hys, hrest⟩ | ⟨more, hxs, hrest⟩
    · cases more with
      | nil => exact .inl ⟨by rw [hys, List.append_nil], (List.cons.inj hrest).2⟩
      | cons c moved =>
        obtain ⟨rfl, hmoved⟩ := List.cons.inj hrest
        exact .inr (.inl ⟨moved, hys, hmoved⟩)
    · cases more with
      | nil => exact .inl ⟨by rw [hxs, List.append_nil], (List.cons.inj hrest).2.symm⟩
      | cons c moved =>
        obtain ⟨rfl, hmoved⟩ := List.cons.inj hrest
        exact .inr (.inr ⟨moved, hxs, hmoved⟩)
  · rintro (⟨rfl, rfl⟩ | ⟨moved, rfl, rfl⟩ | ⟨moved, rfl, rfl⟩)
    · rfl
    · rw [List.append_assoc, List.cons_append]
    · rw [List.append_assoc, List.cons_append]

/-- Two lists that agree, cut where a mark is first met, agree in both parts. -/
theorem append_mark_inj {mark : Char} {xs ys : List Char} (hx : mark ∉ xs) (hy : mark ∉ ys)
    {r t : List Char} (h : xs ++ mark :: r = ys ++ mark :: t) : xs = ys ∧ r = t := by
  rcases append_cons_eq_iff.1 h with hparts | ⟨moved, rfl, -⟩ | ⟨moved, rfl, -⟩
  · exact hparts
  · exact absurd (by simp) hy
  · exact absurd (by simp) hx

/-- **Override keys are unambiguous** for languages without a closing bracket. -/
theorem overrideKey_inj {language other key key' : String} (hl : ']' ∉ language.toList)
    (ho : ']' ∉ other.toList) :
    overrideKey language key = overrideKey other key' ↔ language = other ∧ key = key' := by
  constructor
  · intro h
    have hchars := congrArg String.toList h
    rw [toList_overrideKey, toList_overrideKey] at hchars
    obtain ⟨hlanguage, hkey⟩ := append_mark_inj hl ho (List.cons.inj hchars).2
    exact ⟨String.toList_injective hlanguage, String.toList_injective (List.cons.inj hkey).2⟩
  · rintro ⟨rfl, rfl⟩
    rfl

theorem mem_of_mem_trimChars {c : Char} {chars : List Char} (h : c ∈ trimChars chars) :
    c ∈ chars :=
  (List.dropWhile_sublist _).mem (mem_of_mem_dropBlankEnd h)

/-- A group of brackets is read first, and then the groups behind it. -/
theorem bracketedLanguages?_cons_eq_some {c : Char} {rest : List Char} {languages : List String} :
    bracketedLanguages? (c :: rest) = some languages ↔
      c = '[' ∧ ∃ inside after others, cutAtFirst ']' rest = some (inside, after) ∧
        trimChars inside ≠ [] ∧ bracketedLanguages? (after.dropWhile isBlank) = some others ∧
        languages = String.ofList (trimChars inside) :: others := by
  rw [bracketedLanguages?]
  by_cases hc : c = '['
  · rw [if_pos hc]
    split
    · next hcut => simp [hcut]
    · next inside after hcut =>
      simp only [hcut, Option.some.injEq, Prod.mk.injEq, hc, true_and, List.isEmpty_iff]
      constructor
      · intro h
        split at h
        · exact absurd h (by simp)
        · next hempty =>
          obtain ⟨others, hothers, rfl⟩ := Option.map_eq_some_iff.1 h
          exact ⟨inside, after, others, ⟨rfl, rfl⟩, hempty, hothers, rfl⟩
      · rintro ⟨_, _, others, ⟨rfl, rfl⟩, hempty, hothers, rfl⟩
        rw [if_neg hempty, hothers, Option.map_some]
  · simp [hc]

/-- Every language is what stands in a pair of brackets, without the white space around it. -/
theorem exists_inside_of_bracketedLanguages? {chars : List Char} {languages : List String}
    (h : bracketedLanguages? chars = some languages) : ∀ language ∈ languages,
      ∃ inside, ']' ∉ inside ∧ trimChars inside ≠ [] ∧
        language = String.ofList (trimChars inside) := by
  -- Each group leaves a shorter rest.
  induction hn : chars.length using Nat.strongRecOn generalizing chars languages with
  | _ n ih =>
    cases chars with
    | nil =>
      rw [bracketedLanguages?] at h
      obtain rfl := Option.some.inj h
      exact fun _ hmem => absurd hmem List.not_mem_nil
    | cons c rest =>
      obtain ⟨-, inside, after, others, hcut, hinside, hothers, rfl⟩ :=
        bracketedLanguages?_cons_eq_some.1 h
      intro language hmem
      rcases List.mem_cons.1 hmem with rfl | hmem
      · exact ⟨inside, (cutAtFirst_eq_some_iff.1 hcut).1, hinside, rfl⟩
      · have hcutLength := length_of_cutAtFirst hcut
        have hdropLength := length_dropWhile_le isBlank after
        rw [List.length_cons] at hn
        exact ih _ (by omega) hothers rfl language hmem

theorem exists_inside_of_overrideLanguages? {key : String} {languages : List String}
    (h : overrideLanguages? key = some languages) : ∀ language ∈ languages,
      ∃ inside, ']' ∉ inside ∧ trimChars inside ≠ [] ∧
        language = String.ofList (trimChars inside) := by
  unfold overrideLanguages? at h
  split at h
  · next hbracketed =>
    obtain rfl := Option.some.inj h
    exact exists_inside_of_bracketedLanguages? hbracketed
  · exact absurd h (by simp)

theorem not_mem_of_overrideLanguages? {key : String} {languages : List String}
    (h : overrideLanguages? key = some languages) :
    ∀ language ∈ languages, ']' ∉ language.toList := by
  intro language hmem
  obtain ⟨inside, hinside, -, rfl⟩ := exists_inside_of_overrideLanguages? h language hmem
  rw [String.toList_ofList]
  exact fun hc => hinside (mem_of_mem_trimChars hc)

/-! ## Languages -/

/-- White space stands at neither end. -/
def IsTrimmed (text : String) : Prop :=
  (∀ c, text.toList.head? = some c → isBlank c = false) ∧
    ∀ c, text.toList.getLast? = some c → isBlank c = false

theorem isTrimmed_trimChars (chars : List Char) : IsTrimmed (String.ofList (trimChars chars)) := by
  rw [IsTrimmed, String.toList_ofList, trimChars, dropBlankEnd]
  constructor
  · intro c hc
    -- What is dropped at the end leaves a prefix, which starts as the whole does.
    have hprefix : ((chars.dropWhile isBlank).reverse.dropWhile isBlank).reverse <+:
        chars.dropWhile isBlank := by
      rw [← List.reverse_suffix, List.reverse_reverse]
      exact List.dropWhile_suffix _
    obtain ⟨rest, hrest⟩ := hprefix
    have hwhole : (chars.dropWhile isBlank).head? = some c := by
      rw [← hrest, List.head?_append, hc]
      rfl
    exact head?_dropWhile_isBlank hwhole
  · intro c hc
    rw [List.getLast?_reverse] at hc
    exact head?_dropWhile_isBlank hc

/-- The text can be what stands in a pair of brackets. -/
structure IsLanguage (language : String) : Prop where
  nonempty : language ≠ ""
  trimmed : IsTrimmed language
  unclosed : ']' ∉ language.toList

theorem isLanguage_of_overrideLanguages? {key : String} {languages : List String}
    (h : overrideLanguages? key = some languages) : ∀ language ∈ languages,
      IsLanguage language := by
  intro language hmem
  obtain ⟨inside, -, hinside, rfl⟩ := exists_inside_of_overrideLanguages? h language hmem
  refine ⟨fun hempty => hinside ?_, isTrimmed_trimChars inside,
    not_mem_of_overrideLanguages? h _ hmem⟩
  rw [← String.toList_ofList (l := trimChars inside), hempty]
  rfl

end Settings

end FormatChain
