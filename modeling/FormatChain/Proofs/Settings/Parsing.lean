import FormatChain.Proofs.Json.Naming
import FormatChain.Proofs.Settings.OverrideKeys

/-!
# The layer of a mapping

The entries of a settings file are taken one after the other.  A key without a bracket is a general
one; a key with a bracket at its start has to name languages, and its value has to be a mapping,
whose entries are added to the block of each language.  What the layer of the whole mapping is can
be said without the order of events: the first entry that is at fault decides that there is none;
otherwise each value of a language is the one that was given last.

* `FirstAtFault` : the fault of the first of some items that is at fault.
* `Settings.EntryFault`, `Settings.IsFirstFault` : what is wrong with an entry, and with a mapping.
* `Settings.Overrides`, `Settings.IsLastGiven` : what an entry sets for a language, and which value
  of several is the one that counts.
* `Settings.Layer.Holds` : a layer is the one of some entries.
* `Settings.Layer.Holds.addEntry` : one more entry.
* `Settings.Layer.parse_of_object` : the layer of a text that holds a mapping.
-/

namespace FormatChain

open FormatChain.Json FormatChain.Text

/-! ## The first fault -/

section FirstFault

variable {α ε : Type} {Fault : α → ε → Prop} {item : α} {items rest : List α} {e : ε}

/-- Of some items, the first one that is at fault has this fault. -/
def FirstAtFault (Fault : α → ε → Prop) (items : List α) (e : ε) : Prop :=
  ∃ before item after, items = before ++ item :: after ∧ Fault item e ∧
    ∀ earlier ∈ before, ∀ e', ¬ Fault earlier e'

theorem firstAtFault_cons :
    FirstAtFault Fault (item :: rest) e ↔
      Fault item e ∨ (∀ e', ¬ Fault item e') ∧ FirstAtFault Fault rest e := by
  constructor
  · rintro ⟨before, faulty, after, heq, hfault, hbefore⟩
    cases before with
    | nil =>
      obtain ⟨rfl, rfl⟩ := List.cons.inj heq
      exact .inl hfault
    | cons first before =>
      obtain ⟨rfl, rfl⟩ := List.cons.inj heq
      obtain ⟨hfirst, hbefore⟩ := List.forall_mem_cons.1 hbefore
      exact .inr ⟨hfirst, before, faulty, after, rfl, hfault, hbefore⟩
  · rintro (hfault | ⟨hfirst, before, faulty, after, rfl, hfault, hbefore⟩)
    · exact ⟨[], item, rest, rfl, hfault, by simp⟩
    · exact ⟨item :: before, faulty, after, rfl, hfault,
        List.forall_mem_cons.2 ⟨hfirst, hbefore⟩⟩

/-- Some item is at fault if one is so first, and the other way round. -/
theorem exists_firstAtFault_iff :
    (∃ e, FirstAtFault Fault items e) ↔ ∃ item ∈ items, ∃ e, Fault item e := by
  constructor
  · rintro ⟨e, before, item, after, rfl, hfault, -⟩
    exact ⟨item, by simp, e, hfault⟩
  · rintro ⟨item, hmem, e, hfault⟩
    induction items with
    | nil => exact absurd hmem List.not_mem_nil
    | cons first rest ih =>
      by_cases hfirst : ∃ e', Fault first e'
      · obtain ⟨e', hfirst⟩ := hfirst
        exact ⟨e', firstAtFault_cons.2 (.inl hfirst)⟩
      · rcases List.mem_cons.1 hmem with rfl | hmem
        · exact absurd ⟨e, hfault⟩ hfirst
        · obtain ⟨e', hrest⟩ := ih hmem
          exact ⟨e', firstAtFault_cons.2 (.inr ⟨fun e'' h => hfirst ⟨e'', h⟩, hrest⟩)⟩

end FirstFault

namespace Settings

/-! ## Entries -/

/-- The key starts with a bracket. -/
def IsBracketed (key : String) : Prop := key.toList.head? = some '['

instance (key : String) : Decidable (IsBracketed key) :=
  inferInstanceAs (Decidable (key.toList.head? = some '['))

/-- What is wrong with an entry.  The value is of account only if the key names languages. -/
inductive EntryFault : String × Value → ParseError → Prop where
  /-- The key starts with a bracket and names no languages. -/
  | invalidKey {key : String} {value : Value} (hkey : IsBracketed key)
      (hlanguages : overrideLanguages? key = none) :
      EntryFault (key, value) (.invalidOverrideKey key)
  /-- The key names languages and the value is no mapping. -/
  | notAnObject {key : String} {value : Value} {languages : List String} (hkey : IsBracketed key)
      (hlanguages : overrideLanguages? key = some languages)
      (hvalue : ∀ fields, value ≠ .object fields) :
      EntryFault (key, value) (.overrideNotAnObject key)

/-- The fault of the first entry at fault. -/
def IsFirstFault (fields : List (String × Value)) (e : ParseError) : Prop :=
  ∃ before entry after, fields = before ++ entry :: after ∧ EntryFault entry e ∧
    ∀ earlier ∈ before, ∀ e', ¬ EntryFault earlier e'

/-- The entry overrides settings of the language by those of a mapping. -/
def Overrides (entry : String × Value) (language : String) (contents : List (String × Value)) :
    Prop :=
  IsBracketed entry.1 ∧ entry.2 = .object contents ∧
    ∃ languages, overrideLanguages? entry.1 = some languages ∧ language ∈ languages

/-- The entry gives a key a value for the language. -/
def Gives (entry : String × Value) (language key : String) (value : Value) : Prop :=
  ∃ contents, Overrides entry language contents ∧ Entries.get? key contents = some value

/-- The value is the one that a key is given last for the language. -/
def IsLastGiven (fields : List (String × Value)) (language key : String) (value : Value) : Prop :=
  ∃ before entry after, fields = before ++ entry :: after ∧ Gives entry language key value ∧
    ∀ later ∈ after, ∀ other, ¬ Gives later language key other

/-- The languages that the key of an entry names, in order. -/
def mentioned (entry : String × Value) : List String :=
  if IsBracketed entry.1 then (overrideLanguages? entry.1).getD [] else []

variable {entry : String × Value} {fields seen rest : List (String × Value)} {e : ParseError}
  {language key : String} {value : Value}

theorem isFirstFault_cons :
    IsFirstFault (entry :: rest) e ↔
      EntryFault entry e ∨ (∀ e', ¬ EntryFault entry e') ∧ IsFirstFault rest e :=
  firstAtFault_cons

/-- Some entry is at fault if one is so first, and the other way round. -/
theorem exists_isFirstFault_iff :
    (∃ e, IsFirstFault fields e) ↔ ∃ entry ∈ fields, ∃ e, EntryFault entry e :=
  exists_firstAtFault_iff

/-- What is given last is given by the last entry, if that gives anything. -/
theorem isLastGiven_concat :
    IsLastGiven (seen ++ [entry]) language key value ↔
      Gives entry language key value ∨
        (∀ other, ¬ Gives entry language key other) ∧ IsLastGiven seen language key value := by
  constructor
  · rintro ⟨before, giving, after, heq, hgives, hafter⟩
    rcases List.eq_nil_or_concat' after with rfl | ⟨after, last, rfl⟩
    · obtain ⟨-, hentry⟩ := List.append_inj' heq rfl
      obtain rfl := List.singleton_inj.1 hentry
      exact .inl hgives
    · have hsplit : seen ++ [entry] = (before ++ giving :: after) ++ [last] := by
        rw [heq, List.append_assoc, List.cons_append]
      obtain ⟨rfl, hentry⟩ := List.append_inj' hsplit rfl
      obtain rfl := List.singleton_inj.1 hentry
      exact .inr ⟨hafter entry (by simp), before, giving, after, rfl, hgives,
        fun later hlater => hafter later (List.mem_append_left _ hlater)⟩
  · rintro (hgives | ⟨hnone, before, giving, after, rfl, hgives, hafter⟩)
    · exact ⟨seen, entry, [], rfl, hgives, by simp⟩
    · refine ⟨before, giving, after ++ [entry], by simp, hgives, fun later hlater => ?_⟩
      rcases List.mem_append.1 hlater with hlater | hlater
      · exact hafter later hlater
      · rw [List.mem_singleton.1 hlater]
        exact hnone

theorem not_overrides (h : ¬ IsBracketed entry.1) (contents : List (String × Value)) :
    ¬ Overrides entry language contents :=
  fun hoverrides => h hoverrides.1

theorem overrides_iff {languages : List String} {contents others : List (String × Value)}
    (hkey : IsBracketed entry.1) (hlanguages : overrideLanguages? entry.1 = some languages)
    (hvalue : entry.2 = .object contents) :
    Overrides entry language others ↔ language ∈ languages ∧ others = contents := by
  constructor
  · rintro ⟨-, hothers, named, hnamed, hmem⟩
    rw [hlanguages] at hnamed
    rw [hvalue] at hothers
    obtain rfl := Option.some.inj hnamed
    exact ⟨hmem, (Value.object.inj hothers).symm⟩
  · rintro ⟨hmem, rfl⟩
    exact ⟨hkey, hvalue, languages, hlanguages, hmem⟩

theorem gives_iff {languages : List String} {contents : List (String × Value)}
    (hkey : IsBracketed entry.1) (hlanguages : overrideLanguages? entry.1 = some languages)
    (hvalue : entry.2 = .object contents) :
    Gives entry language key value ↔
      language ∈ languages ∧ Entries.get? key contents = some value := by
  simp only [Gives, overrides_iff hkey hlanguages hvalue, and_assoc, exists_and_left,
    exists_eq_left]

namespace Layer

/-! ## One entry -/

variable {layer layer' : Layer}

/-- **An entry is refused** for what is wrong with it, and for nothing else. -/
theorem addEntry_eq_error_iff : layer.addEntry entry = .error e ↔ EntryFault entry e := by
  constructor
  · intro h
    unfold Layer.addEntry at h
    split at h
    · next hkey =>
      split at h
      · next hlanguages =>
        obtain rfl := Except.error.inj h
        exact .invalidKey hkey hlanguages
      · next languages hlanguages =>
        split at h
        · exact absurd h (by simp)
        · next hvalue =>
          obtain rfl := Except.error.inj h
          exact .notAnObject hkey hlanguages hvalue
    · exact absurd h (by simp)
  · intro h
    unfold Layer.addEntry
    cases h with
    | invalidKey hkey hlanguages =>
      rw [if_pos (show _ = _ from hkey)]
      simp only [hlanguages]
    | notAnObject hkey hlanguages hvalue =>
      rw [if_pos (show _ = _ from hkey)]
      simp only [hlanguages]

/-- The layer with the same fields added to the blocks of several languages. -/
def addAll (layer : Layer) (languages : List String) (contents : List (String × Value)) : Layer :=
  languages.foldl (fun layer l => layer.addFields l contents) layer

/-- An entry is a general one, or its fields are added to the blocks of its languages. -/
theorem addEntry_cases (h : layer.addEntry entry = .ok layer') :
    (¬ IsBracketed entry.1 ∧
        layer' = { layer with general := layer.general.set entry.1 entry.2 }) ∨
      ∃ languages contents, IsBracketed entry.1 ∧ overrideLanguages? entry.1 = some languages ∧
        entry.2 = .object contents ∧ layer' = layer.addAll languages contents := by
  unfold Layer.addEntry at h
  split at h
  · next hkey =>
    split at h
    · exact absurd h (by simp)
    · next languages hlanguages =>
      split at h
      · next contents hvalue =>
        exact .inr ⟨languages, contents, hkey, hlanguages, hvalue, (Except.ok.inj h).symm⟩
      · exact absurd h (by simp)
  · next hkey => exact .inl ⟨hkey, (Except.ok.inj h).symm⟩

theorem addAll_concat (layer : Layer) (languages : List String) (last : String)
    (contents : List (String × Value)) :
    layer.addAll (languages ++ [last]) contents =
      (layer.addAll languages contents).addFields last contents :=
  List.foldl_concat ..

theorem get?_block (layer : Layer) (language key : String) :
    (layer.block language).get? key = layer.get? key (some language) := by
  rw [block, get?]
  cases layer.languages.get? language <;> rfl

/-- Fields that are added to a block are those that count in it. -/
theorem get?_addFields {contents : List (String × Value)}
    (hnodup : (Entries.names contents).Nodup) (layer : Layer) (language other key : String) :
    (layer.addFields language contents).get? key (some other) =
      if language = other then (Entries.get? key contents).or (layer.get? key (some other))
      else layer.get? key (some other) := by
  rw [addFields, get?, OrderedMap.get?_set]
  by_cases heq : language = other
  · subst heq
    rw [if_pos rfl, if_pos rfl, Option.bind_some, OrderedMap.get?_foldl_set hnodup, get?_block]
  · rw [if_neg heq, if_neg heq, get?]

theorem get?_addAll {contents : List (String × Value)} (hnodup : (Entries.names contents).Nodup)
    (layer : Layer) (languages : List String) (language key : String) :
    (layer.addAll languages contents).get? key (some language) =
      if language ∈ languages then
        (Entries.get? key contents).or (layer.get? key (some language))
      else layer.get? key (some language) := by
  induction languages using List.reverseRecOn with
  | nil => rfl
  | append_singleton languages last ih =>
    rw [addAll_concat, get?_addFields hnodup, ih]
    by_cases hlast : last = language
    · -- The same fields once more make no difference.
      rw [if_pos hlast, if_pos (show language ∈ languages ++ [last] by simp [hlast])]
      split
      · rw [← Option.or_assoc, Option.or_self]
      · rfl
    · have hmem : language ∈ languages ++ [last] ↔ language ∈ languages := by
        simp [Ne.symm hlast]
      rw [if_neg hlast]
      simp only [hmem]

/-- Languages get a block when they are first met. -/
theorem names_addAll {met : List String} (h : layer.languages.names = met.eraseDups)
    (languages : List String) (contents : List (String × Value)) :
    (layer.addAll languages contents).languages.names = (met ++ languages).eraseDups := by
  induction languages using List.reverseRecOn with
  | nil => rw [List.append_nil, ← h, addAll, List.foldl_nil]
  | append_singleton languages last ih =>
    rw [addAll_concat, addFields, OrderedMap.names_set, ih, ← List.append_assoc, eraseDups_concat]
    simp only [List.mem_eraseDups]

theorem general_addAll (layer : Layer) (languages : List String)
    (contents : List (String × Value)) :
    (layer.addAll languages contents).general = layer.general ∧
      (layer.addAll languages contents).filePath = layer.filePath ∧
      (layer.addAll languages contents).readOnly = layer.readOnly := by
  induction languages using List.reverseRecOn with
  | nil => exact ⟨rfl, rfl, rfl⟩
  | append_singleton languages last ih =>
    rw [addAll_concat]
    exact ih

/-! ## All entries -/

/-- The layer is the one of the entries. -/
structure Holds (layer : Layer) (fields : List (String × Value)) : Prop where
  /-- It is not that of a file yet. -/
  file : layer.filePath = none ∧ layer.readOnly = false
  /-- The general settings are the entries without a bracket, in order. -/
  general : layer.general.entries = fields.filter fun entry => ¬ IsBracketed entry.1
  /-- The value of a key for a language is the one given last. -/
  value : ∀ language key value,
    layer.get? key (some language) = some value ↔ IsLastGiven fields language key value
  /-- A language has a block, maybe an empty one, if some entry overrides its settings. -/
  block : ∀ language, language ∈ layer.languages.names ↔
    ∃ entry ∈ fields, ∃ contents, Overrides entry language contents
  /-- The languages stand in the order in which they are first mentioned. -/
  order : layer.languages.names = (fields.flatMap mentioned).eraseDups

theorem holds_empty : empty.Holds [] where
  file := ⟨rfl, rfl⟩
  general := rfl
  value language key value := by
    refine iff_of_false (by simp [empty, get?]) ?_
    rintro ⟨before, entry, after, heq, -⟩
    exact absurd heq (by simp)
  block language := iff_of_false List.not_mem_nil (by simp)
  order := rfl

/-- A general entry with a new key comes to stand at the end. -/
theorem Holds.general_entry (h : layer.Holds seen) (hnew : entry.1 ∉ Entries.names seen)
    (hkey : ¬ IsBracketed entry.1) :
    Holds { layer with general := layer.general.set entry.1 entry.2 } (seen ++ [entry]) where
  file := h.file
  general := by
    have hunset : entry.1 ∉ Entries.names layer.general.entries := by
      rw [h.general]
      intro hmem
      obtain ⟨other, hother, heq⟩ := List.mem_map.1 hmem
      exact hnew (List.mem_map.2 ⟨other, (List.mem_filter.1 hother).1, heq⟩)
    change Entries.set entry.1 entry.2 layer.general.entries = _
    rw [Entries.set_of_not_mem hunset, h.general, List.filter_append,
      List.filter_cons_of_pos (by simpa using hkey), List.filter_nil]
  value language key value := by
    have hnone : ∀ other, ¬ Gives entry language key other :=
      fun other ⟨contents, hoverrides, _⟩ => not_overrides hkey contents hoverrides
    rw [isLastGiven_concat]
    simp only [hnone, not_false_eq_true, implies_true, true_and, false_or]
    exact h.value language key value
  block language := by
    simp only [List.mem_append, List.mem_singleton, or_and_right, exists_or, exists_eq_left,
      not_overrides hkey, exists_false, or_false]
    exact h.block language
  order := by
    have hnone : mentioned entry = [] := if_neg hkey
    rw [List.flatMap_append, List.flatMap_cons, hnone, List.flatMap_nil, List.append_nil,
      List.append_nil]
    exact h.order

/-- An override counts before all that its languages were given. -/
theorem Holds.override_entry (h : layer.Holds seen) {languages : List String}
    {contents : List (String × Value)} (hkey : IsBracketed entry.1)
    (hlanguages : overrideLanguages? entry.1 = some languages)
    (hvalue : entry.2 = .object contents) (hnodup : (Entries.names contents).Nodup) :
    (layer.addAll languages contents).Holds (seen ++ [entry]) := by
  obtain ⟨hgeneral, hpath, hreadOnly⟩ := general_addAll layer languages contents
  have hmentioned : mentioned entry = languages := by
    rw [mentioned, if_pos hkey, hlanguages, Option.getD_some]
  have hnames := names_addAll h.order languages contents
  constructor
  case file =>
    rw [hpath, hreadOnly]
    exact h.file
  case general =>
    rw [hgeneral, h.general, List.filter_append, List.filter_cons_of_neg (by simpa using hkey),
      List.filter_nil, List.append_nil]
  case value =>
    intro language key value
    rw [get?_addAll hnodup, isLastGiven_concat]
    simp only [gives_iff hkey hlanguages hvalue, ← h.value]
    by_cases hmem : language ∈ languages
    · rw [if_pos hmem]
      cases Entries.get? key contents with
      | none => simp
      | some given => simp [hmem]
    · simp [hmem]
  case block =>
    intro language
    rw [hnames, List.mem_eraseDups, List.mem_append, ← List.mem_eraseDups, ← h.order, h.block]
    simp only [List.mem_append, List.mem_singleton, or_and_right, exists_or, exists_eq_left,
      overrides_iff hkey hlanguages hvalue, exists_and_left, exists_eq, and_true]
  case order =>
    rw [hnames, List.flatMap_append, List.flatMap_cons, hmentioned, List.flatMap_nil,
      List.append_nil]

/-- **One more entry**, with a new key. -/
theorem Holds.addEntry (h : layer.Holds seen) (hnew : entry.1 ∉ Entries.names seen)
    (hnamed : entry.2.WellNamed) (hadd : layer.addEntry entry = .ok layer') :
    layer'.Holds (seen ++ [entry]) := by
  rcases addEntry_cases hadd with
    ⟨hkey, rfl⟩ | ⟨languages, contents, hkey, hlanguages, hvalue, rfl⟩
  · exact h.general_entry hnew hkey
  · rw [hvalue] at hnamed
    cases hnamed with
    | object hnodup _ => exact h.override_entry hkey hlanguages hvalue hnodup

/-- The entries are taken one after the other. -/
theorem Holds.foldlM_addEntry (h : layer.Holds seen) (hnodup : (Entries.names (seen ++ rest)).Nodup)
    (hnamed : ∀ entry ∈ rest, entry.2.WellNamed)
    (hadd : rest.foldlM Layer.addEntry layer = .ok layer') : layer'.Holds (seen ++ rest) := by
  induction rest generalizing seen layer with
  | nil =>
    obtain rfl := Except.ok.inj hadd
    rw [List.append_nil]
    exact h
  | cons entry rest ih =>
    obtain ⟨hentry, hrest⟩ := List.forall_mem_cons.1 hnamed
    rw [List.foldlM_cons] at hadd
    cases hstep : layer.addEntry entry with
    | error e =>
      rw [hstep] at hadd
      exact absurd hadd (by simp [bind, Except.bind])
    | ok next =>
      rw [hstep] at hadd
      have hnew : entry.1 ∉ Entries.names seen := by
        rw [Entries.names, List.map_append, List.nodup_append] at hnodup
        exact fun hmem => hnodup.2.2 _ hmem _ List.mem_cons_self rfl
      rw [List.append_cons] at hnodup ⊢
      exact ih (h.addEntry hnew hentry hstep) hnodup hrest hadd

/-- Entries are refused for the fault of the first one at fault. -/
theorem foldlM_addEntry_eq_error_iff :
    fields.foldlM Layer.addEntry layer = .error e ↔ IsFirstFault fields e := by
  induction fields generalizing layer with
  | nil =>
    refine iff_of_false (by simp [pure, Except.pure]) ?_
    rintro ⟨before, entry, after, heq, -⟩
    exact absurd heq (by simp)
  | cons entry rest ih =>
    have hentry : ∀ e', EntryFault entry e' ↔ layer.addEntry entry = .error e' :=
      fun _ => addEntry_eq_error_iff.symm
    rw [List.foldlM_cons, isFirstFault_cons]
    simp only [hentry]
    cases hstep : layer.addEntry entry with
    | error e' => simp [bind, Except.bind]
    | ok next => simp [bind, Except.bind, ih]

/-- The languages of a layer of some entries are such as stand in brackets. -/
theorem Holds.isLanguage (h : layer.Holds fields) :
    ∀ language ∈ layer.languages.names, IsLanguage language := by
  intro language hmem
  obtain ⟨entry, -, contents, -, -, languages, hlanguages, hlanguage⟩ := (h.block language).1 hmem
  exact isLanguage_of_overrideLanguages? hlanguages language hlanguage

theorem Holds.not_isBracketed (h : layer.Holds fields) :
    ∀ key ∈ layer.general.names, ¬ IsBracketed key := by
  intro key hmem
  rw [OrderedMap.names, h.general] at hmem
  obtain ⟨entry, hentry, rfl⟩ := List.mem_map.1 hmem
  simpa using (List.mem_filter.1 hentry).2

theorem parse_eq_foldlM {text : String} (hread : read text = .ok (some (.object fields))) :
    parse text = fields.foldlM Layer.addEntry empty := by
  rw [parse, hread]
  rfl

/-- The layer of a text that holds a mapping is the one of its entries. -/
theorem holds_of_read {text : String} (hread : read text = .ok (some (.object fields)))
    (hparse : parse text = .ok layer) : layer.Holds fields := by
  have hnamed := wellNamed_of_read hread
  cases hnamed with
  | object hnodup hfields =>
    rw [parse_eq_foldlM hread] at hparse
    exact holds_empty.foldlM_addEntry hnodup hfields hparse

/-- A text with a layer holds nothing, or a mapping. -/
theorem read_of_parse {text : String} (hparse : parse text = .ok layer) :
    (read text = .ok none ∧ layer = empty) ∨ ∃ fields, read text = .ok (some (.object fields)) := by
  cases hread : read text with
  | error failure =>
    rw [parse, hread] at hparse
    cases failure <;> exact absurd hparse (by simp)
  | ok found =>
    cases found with
    | none =>
      rw [parse, hread] at hparse
      exact .inl ⟨rfl, (Except.ok.inj hparse).symm⟩
    | some value =>
      cases value with
      | object fields => exact .inr ⟨fields, rfl⟩
      | _ =>
        rw [parse, hread] at hparse
        exact absurd hparse (by simp)

/-- The layer of any text is the one of some entries. -/
theorem exists_holds_of_parse {text : String} (hparse : parse text = .ok layer) :
    ∃ fields, layer.Holds fields := by
  rcases read_of_parse hparse with ⟨-, rfl⟩ | ⟨fields, hread⟩
  · exact ⟨[], holds_empty⟩
  · exact ⟨fields, holds_of_read hread hparse⟩

/-- **The layer of a mapping.**  There is none if some entry is at fault, and then the first such
entry says why; otherwise it is the one of the entries, its languages could stand in brackets and
its general keys have no bracket. -/
theorem parse_of_object {text : String} (hread : read text = .ok (some (.object fields))) :
    (∀ e, parse text = .error e ↔ IsFirstFault fields e) ∧
      ((∃ e, parse text = .error e) ↔ ∃ entry ∈ fields, ∃ e, EntryFault entry e) ∧
      ∀ layer, parse text = .ok layer →
        layer.Holds fields ∧ (∀ language ∈ layer.languages.names, IsLanguage language) ∧
          ∀ key ∈ layer.general.names, ¬ IsBracketed key := by
  have herror : ∀ e, parse text = .error e ↔ IsFirstFault fields e := by
    intro e
    rw [parse_eq_foldlM hread]
    exact foldlM_addEntry_eq_error_iff
  refine ⟨herror, ?_, fun layer hlayer => ?_⟩
  · simp only [herror]
    exact exists_isFirstFault_iff
  · have hholds := holds_of_read hread hlayer
    exact ⟨hholds, hholds.isLanguage, hholds.not_isBracketed⟩

/-- Of two values for `y` the last one counts, although the language is met before, and a language
may have an empty block. -/
theorem parse_of_object_takes_last :
    let text := "\x7b\"a\": 1, \"[x][y]\": \x7b\"k\": 1, \"m\": 2\x7d, " ++
      "\"[ y ]\": \x7b\"k\": 3\x7d, \"b\": 2, \"[z]\": \x7b\x7d\x7d"
    ∃ fields layer value, read text = .ok (some (.object fields)) ∧ parse text = .ok layer ∧
      layer.general.names = ["a", "b"] ∧ layer.languages.names = ["x", "y", "z"] ∧
      IsLastGiven fields "y" "k" value ∧ value.text = "3" := by
  intro text
  have hnames : (parse text).toOption.map (fun layer => (layer.general.names,
      layer.languages.names, (layer.get? "k" (some "y")).map Value.text)) =
        some (["a", "b"], ["x", "y", "z"], some "3") := by decide +kernel
  cases hparse : parse text with
  | error e =>
    rw [hparse] at hnames
    exact absurd hnames (by simp [Except.toOption])
  | ok layer =>
    rw [hparse] at hnames
    obtain ⟨hgeneral, hrest⟩ := Prod.mk.inj (Option.some.inj hnames)
    obtain ⟨hlanguages, hvalue⟩ := Prod.mk.inj hrest
    obtain ⟨value, hget, htext⟩ := Option.map_eq_some_iff.1 hvalue
    rcases read_of_parse hparse with ⟨-, rfl⟩ | ⟨fields, hread⟩
    · exact absurd hgeneral (by decide)
    · obtain ⟨-, -, hlayer⟩ := parse_of_object hread
      obtain ⟨hholds, -, -⟩ := hlayer layer hparse
      exact ⟨fields, layer, value, hread, rfl, hgeneral, hlanguages,
        (hholds.value "y" "k" value).1 hget, htext⟩

end Layer

end Settings

end FormatChain
