import FormatChain.Chain
import FormatChain.Proofs.Settings.Readings
import FormatChain.Proofs.Text.Trimming
import Mathlib.Data.List.Forall2

/-!
# Chains and what the settings say

The chain of a language, in the words of the settings: nothing if the languages that chains run for
are listed without it, otherwise the editor's formatter and then the first list that says something,
of the language's own blocks, the blocks of its family, and the general settings.  Reserved names
count for nothing, wherever they stand.

* `IsReservedName`, `isReservedId_iff` : the reserved names, spelled out.
* `Settings.Allows`, `Settings.leading`, `Settings.listedAt`, `Settings.familyOf?` : what the
  settings say.
* `Settings.listedFor` : the first list of a language that says something.
* `Settings.chainIds` : the chain they make.
* `Settings.AddsReserved` : settings with reserved names put into lists of formatters.
* `resolveChain_ids` : the chain of a language is the one that the settings make.
-/

namespace FormatChain

open FormatChain.Json FormatChain.Text
open FormatChain.Settings (Scope)

/-! ## Reserved names -/

/-- A small letter, or its capital. -/
def IsCaseOf (c letter : Char) : Prop := c = letter ∨ c = letter.toUpper

/-- The name is blank, or the program's in any case, with white space around it. -/
def IsReservedName (id : String) : Prop :=
  ∃ before word after, id.toList = before ++ word ++ after ∧
    (∀ c ∈ before, isBlank c = true) ∧ (∀ c ∈ after, isBlank c = true) ∧
    (word = [] ∨ List.Forall₂ IsCaseOf word "chainfmt".toList)

theorem isLower_iff {c : Char} : c.isLower = true ↔ 97 ≤ c.toNat ∧ c.toNat ≤ 122 :=
  Bool.and_eq_true_iff.trans (and_congr decide_eq_true_iff decide_eq_true_iff)

theorem toNat_toUpper {letter : Char} (h : letter.isLower = true) :
    letter.toUpper.toNat = letter.toNat - 32 := by
  have hrange := isLower_iff.1 h
  have hsmall : 'a'.val ≤ letter.val ∧ letter.val ≤ 'z'.val := hrange
  have hval : letter.toUpper.toNat = (letter.val + ('A'.val - 'a'.val)).toNat := by
    delta Char.toUpper
    rw [dif_pos hsmall]
    rfl
  -- the distance to the capitals is added modulo the size of a word
  have hdistance : ('A'.val - 'a'.val).toNat = 4294967264 := rfl
  have hletter : letter.val.toNat = letter.toNat := rfl
  rw [hval, UInt32.toNat_add, hdistance]
  omega

/-- The characters that have a small letter as theirs are that letter and its capital. -/
theorem asciiLower_eq_iff {c letter : Char} (h : letter.isLower = true) :
    asciiLower c = letter ↔ IsCaseOf c letter := by
  have hrange := isLower_iff.1 h
  rw [IsCaseOf, asciiLower, ← Char.toNat_inj, ← Char.toNat_inj, ← Char.toNat_inj, toNat_toUpper h]
  split
  · next hcapital =>
    have hc : 65 ≤ c.toNat ∧ c.toNat ≤ 90 := hcapital
    have hsmall : (Char.ofNat (c.toNat + 32)).toNat = c.toNat + 32 := by
      rw [Char.ofNat, dif_pos (.inl (by omega))]
      rfl
    rw [hsmall]
    omega
  · next hother =>
    have hc : ¬ (65 ≤ c.toNat ∧ c.toNat ≤ 90) := hother
    omega

theorem map_asciiLower_eq_iff {word letters : List Char}
    (h : ∀ letter ∈ letters, letter.isLower = true) :
    word.map asciiLower = letters ↔ List.Forall₂ IsCaseOf word letters := by
  induction word generalizing letters with
  | nil => cases letters <;> simp
  | cons c rest ih =>
    cases letters with
    | nil => simp
    | cons letter letters =>
      obtain ⟨hfirst, hrest⟩ := List.forall_mem_cons.1 h
      rw [List.map_cons, List.cons.injEq, List.forall₂_cons, asciiLower_eq_iff hfirst, ih hrest]

theorem isBlank_of_isCaseOf {word letters : List Char} (hword : List.Forall₂ IsCaseOf word letters)
    (h : ∀ letter ∈ letters, isBlank letter = false ∧ isBlank letter.toUpper = false) :
    ∀ c ∈ word, isBlank c = false := by
  induction hword with
  | nil => exact fun c hc => absurd hc List.not_mem_nil
  | @cons c letter rest letters hcase _ ih =>
    obtain ⟨hfirst, hrest⟩ := List.forall_mem_cons.1 h
    refine List.forall_mem_cons.2 ⟨?_, ih hrest⟩
    rcases hcase with rfl | rfl
    · exact hfirst.1
    · exact hfirst.2

theorem isReservedId_iff {id : String} : isReservedId id = true ↔ IsReservedName id := by
  have htrim : (trim id).toList = dropBlankEnd (id.toList.dropWhile isBlank) := by
    rw [trim, String.toList_ofList]
  have hreserved : isReservedId id = true ↔
      (trim id).toList = [] ∨ List.Forall₂ IsCaseOf (trim id).toList "chainfmt".toList := by
    have hsmall : ("chainfmt".toList.all Char.isLower) = true := by decide
    rw [isReservedId, Bool.or_eq_true, String.isEmpty_iff, equalsIgnoringAsciiCase, beq_iff_eq,
      ← map_asciiLower_eq_iff (List.all_eq_true.1 hsmall), ← String.toList_eq_nil_iff]
    rfl
  rw [hreserved, htrim]
  constructor
  · intro h
    obtain ⟨before, after, hbefore, hafter, hid⟩ := exists_around_trimmed id.toList
    exact ⟨before, _, after, hid, hbefore, hafter, h⟩
  · rintro ⟨before, word, after, heq, hbefore, hafter, hword⟩
    have hfree : ∀ c ∈ word, isBlank c = false := by
      rcases hword with rfl | hword
      · exact fun c hc => absurd hc List.not_mem_nil
      · have hletters : ("chainfmt".toList.all fun letter =>
            !isBlank letter && !isBlank letter.toUpper) = true := by decide
        refine isBlank_of_isCaseOf hword fun letter hletter => ?_
        simpa using List.all_eq_true.1 hletters letter hletter
    rw [heq, dropBlankEnd_around hbefore hafter (fun c hc => hfree c (List.mem_of_head? hc))
      fun c hc => hfree c (List.mem_of_getLast? hc)]
    exact hword

instance (id : String) : Decidable (IsReservedName id) :=
  decidable_of_iff _ isReservedId_iff

/-- The names that are not reserved, in order. -/
def unreserved (ids : List String) : List String := ids.filter fun id => ¬ IsReservedName id

theorem filter_isReservedId (ids : List String) :
    (ids.filter fun id => !isReservedId id) = unreserved ids := by
  refine List.filter_congr fun id _ => ?_
  rw [decide_not, Bool.not_inj_iff, Bool.eq_iff_iff, decide_eq_true_iff, isReservedId_iff]

@[simp]
theorem unreserved_nil : unreserved [] = [] := rfl

theorem unreserved_cons_of_reserved {id : String} (h : IsReservedName id) (ids : List String) :
    unreserved (id :: ids) = unreserved ids := by
  rw [unreserved, List.filter_cons_of_neg (by simpa using h), unreserved]

theorem filter_unreserved (ids : List String) :
    (unreserved ids).filter (fun id => !isReservedId id) = unreserved ids := by
  rw [filter_isReservedId, unreserved, unreserved, List.filter_filter]
  simp only [Bool.and_self]

/-! ## What the settings say -/

namespace Settings

/-- The languages that chains run for, if the settings list any. -/
def allowList (s : Settings) : List String :=
  (s.reading Value.texts? Key.languages (spots none)).getD []

/-- Chains run for the language: no languages are listed, or it is among them. -/
def Allows (s : Settings) (language : String) : Prop :=
  s.allowList = [] ∨ language ∈ s.allowList

instance (s : Settings) (language : String) : Decidable (s.Allows language) :=
  inferInstanceAs (Decidable (s.allowList = [] ∨ language ∈ s.allowList))

/-- The editor's formatter for the language, unless its name is reserved. -/
def leading (s : Settings) (language : String) : List String :=
  unreserved (s.reading Value.text? Key.defaultFormatter (spotsFor language)).toList

/-- The formatters that the narrowest block of the language lists, or those that the narrowest
general list has, without reserved names. -/
def listedAt (s : Settings) (language : Option String) : List String :=
  unreserved ((s.reading Value.texts? Key.formatters (spots language)).getD [])

/-- The family of a language that is given one, or else the built-in one, if it has a name and is
not the language itself. -/
def familyFor? (language : String) (given : Option String) : Option String :=
  (given <|> Entries.get? language builtInFamilies).filter
    fun family => family ≠ language ∧ family ≠ ""

/-- The family of a language, which the settings may give it. -/
def familyOf? (s : Settings) (language : String) : Option String :=
  familyFor? language
    ((s.reading Value.textMap? Key.languageFamilies (spots none)).bind (·.get? language))

/-- Where formatters are looked for: in the blocks of the language, in those of its family, and in
general. -/
def sources (language : String) (family : Option String) : List (Option String) :=
  some language :: family.toList.map some ++ [none]

/-- The formatters of the first source that lists some. -/
def listedFrom (s : Settings) (places : List (Option String)) : List String :=
  ((places.map s.listedAt).find? (· ≠ [])).getD []

theorem listedFrom_cons (s : Settings) (place : Option String) (places : List (Option String)) :
    s.listedFrom (place :: places) =
      if s.listedAt place = [] then s.listedFrom places else s.listedAt place := by
  rw [listedFrom, List.map_cons, List.find?_cons]
  split
  · next hlisted => rw [if_neg (by simpa using hlisted), Option.getD_some]
  · next hlisted => rw [if_pos (by simpa using hlisted), listedFrom]

/-- An empty list that is found last is the same as none. -/
theorem listedFrom_general (s : Settings) : s.listedFrom [none] = s.listedAt none := by
  rw [listedFrom_cons]
  split
  · next hlisted => exact hlisted.symm
  · rfl

/-- The formatters of the first source of a language that lists some. -/
def listedFor (s : Settings) (language : String) : List String :=
  s.listedFrom (sources language (s.familyOf? language))

/-- The chain that the settings make for a language. -/
def chainIds (s : Settings) (language : String) : List String :=
  if s.Allows language then s.leading language ++ s.listedFor language else []

/-- Items with strings put between them that are reserved names. -/
inductive ReservedPut : List Value → List Value → Prop where
  /-- There is nothing to put strings between. -/
  | nil : ReservedPut [] []
  /-- An item stays. -/
  | keep (item : Value) {items items' : List Value} (rest : ReservedPut items items') :
      ReservedPut (item :: items) (item :: items')
  /-- A string is put in. -/
  | put {id : String} (reserved : IsReservedName id) {items items' : List Value}
      (rest : ReservedPut items items') : ReservedPut items (.string id :: items')

/-- A value as it was, or a list with reserved names put into it. -/
inductive MoreReserved : Value → Value → Prop where
  /-- As it was. -/
  | refl (value : Value) : MoreReserved value value
  /-- With names put into it. -/
  | array {items items' : List Value} (put : ReservedPut items items') :
      MoreReserved (.array items) (.array items')

/-- The second settings are the first ones with reserved names put into lists of formatters, at any
scopes and in any blocks. -/
structure AddsReserved (s s' : Settings) : Prop where
  /-- Other keys have the values they had. -/
  others : ∀ scope key language, key ≠ Key.formatters →
    s'.raw? scope key language = s.raw? scope key language
  /-- Lists of formatters have reserved names put into them. -/
  formatters : ∀ scope language, Option.Rel MoreReserved
    (s.raw? scope Key.formatters language) (s'.raw? scope Key.formatters language)

end Settings

/-! ## The settings are read that way -/

section Values

variable (s : Settings) (language : String)

theorem value_readOrWarn_languages :
    (s.readOrWarn decodeStrings Settings.Key.languages none).value.getD [] = s.allowList := by
  rw [Settings.value_readOrWarn_none, view_decodeStrings, Settings.allowList]

theorem value_isLanguageEnabled :
    (isLanguageEnabled s language).value = decide (s.Allows language) := by
  rw [isLanguageEnabled, Noted.value_bind, value_readOrWarn_languages, Noted.value_pure,
    Bool.eq_iff_iff, Bool.or_eq_true, List.isEmpty_iff, List.contains_iff_mem, decide_eq_true_iff,
    Settings.Allows]

theorem value_leadingFormatter : (leadingFormatter s language).value = s.leading language := by
  rw [leadingFormatter, Noted.value_bind, Settings.value_readOrWarn_for, view_decodeString,
    Noted.value_pure, Settings.leading, ← filter_isReservedId]
  cases s.reading Value.text? Settings.Key.defaultFormatter (Settings.spotsFor language) with
  | none => rfl
  | some id =>
    rw [Option.toList_some, List.filter_cons, Option.filter_some]
    cases isReservedId id <;> rfl

theorem value_blockFormatters? :
    (blockFormatters? s language).value =
      if s.listedAt (some language) = [] then none else some (s.listedAt (some language)) := by
  rw [blockFormatters?, Settings.languageValue?_inspect, Option.bind_some,
    ← Settings.firstValue?_spots, Settings.listedAt, ← filter_isReservedId, Settings.reading,
    ← view_decodeStrings]
  cases s.firstValue? Settings.Key.formatters (Settings.spots (some language)) with
  | none => rfl
  | some value =>
    simp only [Noted.value_bind, Noted.value_pure, Settings.value_decodeOrWarn, Option.bind_some,
      List.isEmpty_iff]

theorem value_family? : (family? s language).value = s.familyOf? language := by
  rw [family?, Noted.value_bind, Settings.value_readOrWarn_none, view_decodeStringMap,
    Noted.value_pure, Settings.familyOf?, Settings.familyFor?]
  congr 1
  funext family
  rw [Bool.eq_iff_iff, decide_eq_true_iff, Bool.not_eq_true', Bool.or_eq_false_iff,
    beq_eq_false_iff_ne, ← Bool.not_eq_true, String.isEmpty_iff]

theorem value_familyFormatters? :
    (familyFormatters? s language).value =
      (s.familyOf? language).bind fun family => (blockFormatters? s family).value := by
  rw [familyFormatters?, Noted.value_bind, value_family?]
  cases s.familyOf? language <;> rfl

theorem filter_generalFormatters? :
    ((generalFormatters? s).value.getD []).filter (fun id => !isReservedId id) =
      s.listedAt none := by
  rw [generalFormatters?, Settings.generalValue?_inspect, ← Settings.firstValue?_spots,
    Settings.listedAt, ← filter_isReservedId, Settings.reading, ← view_decodeStrings]
  cases s.firstValue? Settings.Key.formatters (Settings.spots none) with
  | none => rfl
  | some value => rw [Settings.value_decodeOrWarn, Option.bind_some]

theorem filter_listedFormatters :
    (listedFormatters s language).value.filter (fun id => !isReservedId id) =
      s.listedFor language := by
  rw [listedFormatters, Noted.value_bind, value_blockFormatters?, Settings.listedFor,
    Settings.sources, List.cons_append, Settings.listedFrom_cons]
  by_cases hblock : s.listedAt (some language) = []
  · rw [if_pos hblock, if_pos hblock]
    change ((familyFormatters? s language >>= _ : Noted (List String)).value).filter _ = _
    rw [Noted.value_bind, value_familyFormatters?]
    cases s.familyOf? language with
    | none => exact (filter_generalFormatters? s).trans (Settings.listedFrom_general s).symm
    | some family =>
      rw [Option.bind_some, value_blockFormatters?, Option.toList_some, List.map_cons,
        List.cons_append, Settings.listedFrom_cons]
      by_cases hfamily : s.listedAt (some family) = []
      · rw [if_pos hfamily, if_pos hfamily]
        exact (filter_generalFormatters? s).trans (Settings.listedFrom_general s).symm
      · rw [if_neg hfamily, if_neg hfamily]
        exact filter_unreserved _
  · rw [if_neg hblock, if_neg hblock]
    exact filter_unreserved _

theorem ids_resolveChain : (resolveChain s language).value.ids = s.chainIds language := by
  rw [resolveChain, Noted.value_bind, value_isLanguageEnabled, Settings.chainIds]
  by_cases hallows : s.Allows language
  · rw [if_pos hallows, if_pos (decide_eq_true hallows)]
    simp only [Noted.value_bind, Noted.value_pure, Chain.ofIds, List.filter_append,
      value_leadingFormatter, filter_listedFormatters]
    rw [Settings.leading, filter_unreserved]
  · rw [if_neg hallows, if_neg (by simpa using hallows)]
    rfl

end Values

/-! ## Reserved names make no difference -/

namespace Settings

variable {s s' : Settings}

/-- Lists of texts with reserved names put into them have the same names that are not reserved. -/
theorem ReservedPut.texts {items items' : List Value} (h : ReservedPut items items') :
    Option.Rel (fun ids ids' => unreserved ids = unreserved ids')
      (items.mapM Value.text?) (items'.mapM Value.text?) := by
  induction h with
  | nil => exact .some rfl
  | @keep item items items' _ ih =>
    rw [List.mapM_cons, List.mapM_cons]
    cases item.text? with
    | none => exact .none
    | some id =>
      generalize items.mapM Value.text? = ids, items'.mapM Value.text? = ids' at ih ⊢
      cases ih with
      | none => exact .none
      | some heq =>
        refine .some ?_
        rw [unreserved, unreserved, List.filter_cons, List.filter_cons, ← unreserved,
          ← unreserved, heq]
  | @put id hreserved items items' _ ih =>
    have hmapM : (Value.string id :: items').mapM Value.text? =
        (items'.mapM Value.text?).map (id :: ·) := by
      rw [List.mapM_cons]
      cases items'.mapM Value.text? <;> rfl
    rw [hmapM]
    generalize items.mapM Value.text? = ids, items'.mapM Value.text? = ids' at ih ⊢
    cases ih with
    | none => exact .none
    | some heq =>
      refine .some ?_
      rw [unreserved_cons_of_reserved hreserved, heq]

theorem MoreReserved.texts {value value' : Value} (h : MoreReserved value value') :
    unreserved (value.texts?.getD []) = unreserved (value'.texts?.getD []) := by
  cases h with
  | refl => rfl
  | @array items items' hput =>
    have htexts := hput.texts
    rw [Value.texts?, Value.texts?]
    generalize items.mapM Value.text? = ids, items'.mapM Value.text? = ids' at htexts ⊢
    cases htexts with
    | none => rfl
    | some heq => exact heq

theorem firstValue?_rel {r : Value → Value → Prop} {key : String} {among : List Spot}
    (h : ∀ scope language,
      Option.Rel r (s.raw? scope key language) (s'.raw? scope key language)) :
    Option.Rel r (s.firstValue? key among) (s'.firstValue? key among) := by
  induction among with
  | nil => exact .none
  | cons first rest ih =>
    rw [firstValue?, firstValue?, List.findSome?_cons, List.findSome?_cons]
    have hfirst := h first.1 first.2
    generalize s.raw? first.1 key first.2 = value, s'.raw? first.1 key first.2 = value'
      at hfirst ⊢
    cases hfirst with
    | none => exact ih
    | some hvalue => exact .some hvalue

/-- Writing a list of formatters back with reserved names put into it adds reserved names. -/
theorem addsReserved_of_setRaw {scope : Scope} {language : Option String}
    {items items' : List Value}
    (hold : s.raw? scope Key.formatters language = some (.array items))
    (hput : ReservedPut items items')
    (hset : s.setRaw scope Key.formatters language (some (.array items')) = .ok s') :
    AddsReserved s s' where
  others scope' key language' hkey := by
    rw [raw?_setRaw hset, if_neg fun h => hkey h.2.1.symm]
  formatters scope' language' := by
    rw [raw?_setRaw hset]
    split
    · next h =>
      obtain ⟨rfl, -, rfl⟩ := h
      rw [hold]
      exact .some (.array hput)
    · cases s.raw? scope' Key.formatters language' with
      | none => exact .none
      | some value => exact .some (.refl value)

theorem AddsReserved.reading_eq (h : AddsReserved s s') {α : Type} (view : Value → Option α)
    {key : String} (hkey : key ≠ Key.formatters) (among : List Spot) :
    s'.reading view key among = s.reading view key among := by
  simp only [reading, firstValue?, h.others _ key _ hkey]

theorem AddsReserved.listedAt_eq (h : AddsReserved s s') : s'.listedAt = s.listedAt := by
  funext place
  rw [listedAt, listedAt, reading, reading]
  have hvalue : Option.Rel MoreReserved (s.firstValue? Key.formatters (spots place))
      (s'.firstValue? Key.formatters (spots place)) := firstValue?_rel h.formatters
  generalize s.firstValue? Key.formatters (spots place) = value,
    s'.firstValue? Key.formatters (spots place) = value' at hvalue ⊢
  cases hvalue with
  | none => rfl
  | some hmore => exact hmore.texts.symm

theorem chainIds_congr {language : String} (hallows : s'.Allows language ↔ s.Allows language)
    (hleading : s'.leading language = s.leading language)
    (hlisted : s'.listedFor language = s.listedFor language) :
    s'.chainIds language = s.chainIds language := by
  rw [chainIds, chainIds, hleading, hlisted]
  exact if_congr hallows rfl rfl

/-- Putting reserved names into lists of formatters changes no chain. -/
theorem AddsReserved.chainIds_eq (h : AddsReserved s s') (language : String) :
    s'.chainIds language = s.chainIds language := by
  refine chainIds_congr ?_ ?_ ?_
  · rw [Allows, Allows, allowList, allowList, h.reading_eq _ (by decide)]
  · rw [leading, leading, h.reading_eq _ (by decide)]
  · rw [listedFor, listedFor, listedFrom, listedFrom, familyOf?, familyOf?,
      h.reading_eq _ (by decide), h.listedAt_eq]

end Settings

theorem Chain.eq_of_ids {chain chain' : Chain} (h : chain.ids = chain'.ids) : chain = chain' := by
  cases chain
  cases chain'
  cases h
  rfl

/-- **The chain of a language is the one that the settings make.**  No name in it is reserved, and
putting reserved names into lists of formatters does not change it. -/
theorem resolveChain_ids (s : Settings) (language : String) :
    (resolveChain s language).value.ids = s.chainIds language ∧
      (∀ id ∈ (resolveChain s language).value.ids, ¬ IsReservedName id) ∧
      ∀ s', s.AddsReserved s' →
        (resolveChain s' language).value = (resolveChain s language).value := by
  refine ⟨ids_resolveChain s language, fun id hid hreserved => ?_, fun s' hadds => ?_⟩
  · have hunreserved := (resolveChain s language).value.unreserved id hid
    rw [isReservedId_iff.2 hreserved] at hunreserved
    exact Bool.noConfusion hunreserved
  · refine Chain.eq_of_ids ?_
    rw [ids_resolveChain, ids_resolveChain, hadds.chainIds_eq]

/-- A language with a built-in family runs the formatters of the family's block behind the editor's
one, and names of this program in the block make no difference. -/
theorem resolveChain_ids_of_family :
    let layer : Settings.Layer :=
      (((Settings.Layer.empty.set Settings.Key.defaultFormatter none (some (.string "lead"))).set
        Settings.Key.formatters none (some (.array [.string "general"]))).set
        Settings.Key.formatters (some "typescript") (some (.array [.string "one", .string "one"])))
    let s : Settings := { layers := { workspace := some layer } }
    ∃ s', s.setRaw .workspace Settings.Key.formatters (some "typescript")
        (some (.array [.string "one", .string " ChainFmt", .string "", .string "one"])) = .ok s' ∧
      s.AddsReserved s' ∧ (resolveChain s "typescriptreact").value.ids = ["lead", "one", "one"] ∧
      (resolveChain s' "typescriptreact").value = (resolveChain s "typescriptreact").value := by
  intro layer s
  have hreserved : IsReservedName " ChainFmt" ∧ IsReservedName "" := by decide +kernel
  have hput : Settings.ReservedPut [.string "one", .string "one"]
      [.string "one", .string " ChainFmt", .string "", .string "one"] :=
    .keep _ (.put hreserved.1 (.put hreserved.2 (.keep _ .nil)))
  have hold : s.raw? .workspace Settings.Key.formatters (some "typescript") =
      some (.array [.string "one", .string "one"]) := rfl
  have hadds := Settings.addsReserved_of_setRaw hold hput rfl
  obtain ⟨hids, -, hsame⟩ := resolveChain_ids s "typescriptreact"
  exact ⟨_, rfl, hadds, hids.trans (by decide +kernel), hsame _ hadds⟩

end FormatChain
