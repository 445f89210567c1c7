import FormatChain.Settings.Layered

/-!
# Writing single settings

A write sets or removes the value at exactly one place, which is a scope, a key, and a language or
none.  It is refused if the scope has no layer or its layer is marked against writing, and changes
nothing then.

* `Settings.IsWritable` : the scope has a layer that may be written.
* `Settings.setRaw_eq_ok_iff`, `Settings.raw?_setRaw` : when a write succeeds, and what it changes.
* `Settings.value?_of_raw?_narrowest` : the value of a language at the narrowest scope is the one
  that counts.
-/

namespace FormatChain

open FormatChain.Json

namespace Settings

/-! ## One layer -/

namespace Layer

theorem isEmpty_iff_entries {m : OrderedMap Value} : m.isEmpty = true ↔ m.entries = [] := by
  rw [OrderedMap.isEmpty, List.isEmpty_iff]

theorem get?_of_isEmpty {m : OrderedMap Value} (h : m.isEmpty = true) (name : String) :
    m.get? name = none := by
  rw [OrderedMap.get?, isEmpty_iff_entries.1 h, Entries.get?]

/-- A general write leaves the blocks of the languages alone. -/
theorem languages_set_general (layer : Layer) (key : String) (value : Option Value) :
    (layer.set key none value).languages = layer.languages := by
  cases value <;> rfl

/-- A write for a language leaves the general values alone. -/
theorem general_set_language (layer : Layer) (key language : String) (value : Option Value) :
    (layer.set key (some language) value).general = layer.general := by
  cases value with
  | some value => rfl
  | none =>
    simp only [set]
    split
    · rfl
    · split <;> rfl

/-- A write for a language leaves the blocks of the others alone. -/
theorem languages_set_of_ne (layer : Layer) (key : String) {language other : String}
    (value : Option Value) (hne : language ≠ other) :
    (layer.set key (some language) value).languages.get? other = layer.languages.get? other := by
  cases value with
  | some value => rw [set, OrderedMap.get?_set, if_neg hne]
  | none =>
    simp only [set]
    split
    · rfl
    · split
      · rw [OrderedMap.get?_erase, if_neg hne]
      · rw [OrderedMap.get?_set, if_neg hne]

/-- After a removal the block of the language is without the key, and gone if nothing is left. -/
theorem languages_removal (layer : Layer) (key language : String) :
    (layer.set key (some language) none).languages.get? language =
      ((layer.languages.get? language).map (·.erase key)).filter (!·.isEmpty) := by
  simp only [set]
  cases hblock : layer.languages.get? language with
  | none => exact hblock
  | some block =>
    rw [Option.map_some, Option.filter_some]
    cases hempty : (block.erase key).isEmpty with
    | true =>
      simp only [if_true, OrderedMap.get?_erase, Bool.not_true, Bool.false_eq_true, if_false, hempty]
    | false =>
      simp only [Bool.false_eq_true, if_false, OrderedMap.get?_set, if_true, Bool.not_false, hempty]

/-- A removal takes away one value of a language. -/
theorem get?_removal (layer : Layer) (key key' language : String) :
    (layer.set key (some language) none).get? key' (some language) =
      if key = key' then none else layer.get? key' (some language) := by
  rw [get?, languages_removal, get?]
  cases layer.languages.get? language with
  | none => simp
  | some block =>
    rw [Option.map_some, Option.bind_some, ← OrderedMap.get?_erase]
    by_cases hempty : (block.erase key).isEmpty = true
    · rw [Option.filter_some, if_neg (by simp [hempty]), get?_of_isEmpty hempty, Option.bind_none]
    · rw [Option.filter_some, if_pos (by simp [hempty]), Option.bind_some]

/-- A value is set in the block of its language, which is made if there is none. -/
theorem get?_set_value (layer : Layer) (key key' language : String) (value : Value) :
    (layer.set key (some language) (some value)).get? key' (some language) =
      if key = key' then some value else layer.get? key' (some language) := by
  rw [get?, set, OrderedMap.get?_set, if_pos rfl, Option.bind_some, OrderedMap.get?_set, block, get?]
  cases layer.languages.get? language <;> rfl

/-- After a write the value is at its place, and no other place of the layer has changed. -/
theorem get?_set (layer : Layer) (key key' : String) (language language' : Option String)
    (value : Option Value) :
    (layer.set key language value).get? key' language' =
      if key = key' ∧ language = language' then value else layer.get? key' language' := by
  cases language with
  | none =>
    cases language' with
    | none => cases value <;> simp [set, get?, OrderedMap.get?_set, OrderedMap.get?_erase]
    | some l' => simp [get?, languages_set_general]
  | some l =>
    cases language' with
    | none => simp [get?, general_set_language]
    | some l' =>
      by_cases hl : l = l'
      · subst hl
        cases value with
        | some v => simp [get?_set_value]
        | none => simp [get?_removal]
      · simp [get?, languages_set_of_ne _ _ _ hl, hl]

@[simp]
theorem readOnly_set (layer : Layer) (key : String) (language : Option String)
    (value : Option Value) : (layer.set key language value).readOnly = layer.readOnly := by
  unfold set
  split
  · rfl
  · rfl
  · rfl
  · split
    · rfl
    · dsimp only
      split <;> rfl

@[simp]
theorem filePath_set (layer : Layer) (key : String) (language : Option String)
    (value : Option Value) : (layer.set key language value).filePath = layer.filePath := by
  unfold set
  split
  · rfl
  · rfl
  · rfl
  · split
    · rfl
    · dsimp only
      split <;> rfl

end Layer

/-! ## All layers -/

variable {s s' : Settings} {scope : Scope} {key : String} {language : Option String}
  {value : Option Value}

/-- The scope has a layer that may be written. -/
def IsWritable (s : Settings) (scope : Scope) : Prop :=
  ∃ layer, s.layers.get? scope = some layer ∧ layer.readOnly = false

/-- A write succeeds exactly where there is a layer that may be written, which it then changes. -/
theorem setRaw_eq_ok_iff :
    s.setRaw scope key language value = .ok s' ↔
      ∃ layer, s.layers.get? scope = some layer ∧ layer.readOnly = false ∧
        s' = s.setLayer scope (layer.set key language value) := by
  rw [setRaw]
  cases s.layers.get? scope with
  | none => simp
  | some layer =>
    cases hr : layer.readOnly with
    | true => simp [hr]
    | false =>
      simp only [hr, Bool.false_eq_true, if_false, Except.ok.injEq, Option.some.injEq]
      constructor
      · rintro rfl
        exact ⟨layer, rfl, hr, rfl⟩
      · rintro ⟨_, rfl, -, rfl⟩
        rfl

theorem IsWritable.setRaw (h : s.IsWritable scope) (key : String) (language : Option String)
    (value : Option Value) : ∃ s', s.setRaw scope key language value = .ok s' := by
  obtain ⟨layer, hl, hr⟩ := h
  exact ⟨_, setRaw_eq_ok_iff.2 ⟨layer, hl, hr, rfl⟩⟩

theorem isWritable_of_setRaw (h : s.setRaw scope key language value = .ok s') :
    s.IsWritable scope := by
  obtain ⟨layer, hl, hr, -⟩ := setRaw_eq_ok_iff.1 h
  exact ⟨layer, hl, hr⟩

/-- **A write changes one place.** The value is there after it, and every other place is as it
was. -/
theorem raw?_setRaw (h : s.setRaw scope key language value = .ok s') (scope' : Scope)
    (key' : String) (language' : Option String) :
    s'.raw? scope' key' language' =
      if scope = scope' ∧ key = key' ∧ language = language' then value
      else s.raw? scope' key' language' := by
  obtain ⟨layer, hl, -, rfl⟩ := setRaw_eq_ok_iff.1 h
  simp only [raw?, setLayer, PerScope.get?_set]
  by_cases hs : scope = scope'
  · subst hs
    simp only [if_true, Option.bind_some, Layer.get?_set, true_and, hl]
  · simp only [hs, false_and, if_false]

/-- A write leaves the marks against writing as they are. -/
theorem isWritable_setRaw (h : s.setRaw scope key language value = .ok s') (scope' : Scope) :
    s'.IsWritable scope' ↔ s.IsWritable scope' := by
  obtain ⟨layer, hl, hr, rfl⟩ := setRaw_eq_ok_iff.1 h
  simp only [IsWritable, setLayer, PerScope.get?_set]
  by_cases hs : scope = scope'
  · subst hs
    simp only [if_true, Option.some.injEq, hl]
    constructor
    · rintro ⟨_, rfl, -⟩
      exact ⟨layer, rfl, hr⟩
    · rintro ⟨_, rfl, -⟩
      exact ⟨_, rfl, by rw [Layer.readOnly_set]; exact hr⟩
  · simp only [hs, if_false]

/-! ## The narrowest scope -/

theorem toList_setLayer_of_get? {layer new : Layer} (hl : s.layers.get? scope = some layer) :
    (s.setLayer scope new).layers.toList =
      s.layers.toList.map fun entry => (entry.1, if entry.1 = scope then new else entry.2) := by
  simp only [PerScope.toList, List.map_filterMap, setLayer, PerScope.get?_set]
  congr 1
  funext other
  by_cases hs : scope = other
  · subst hs
    simp [hl]
  · rw [if_neg hs]
    cases s.layers.get? other with
    | none => rfl
    | some found => simp [Ne.symm hs]

/-- A write adds no scope and removes none. -/
theorem availableScopes_setRaw (h : s.setRaw scope key language value = .ok s') :
    s'.availableScopes = s.availableScopes := by
  obtain ⟨layer, hl, -, rfl⟩ := setRaw_eq_ok_iff.1 h
  simp only [availableScopes, toList_setLayer_of_get? hl, List.map_map]
  rfl

theorem narrowestScope?_setRaw (h : s.setRaw scope key language value = .ok s') :
    s'.narrowestScope? = s.narrowestScope? := by
  rw [narrowestScope?, availableScopes_setRaw h, narrowestScope?]

/-- The narrowest scope has a layer. -/
theorem get?_narrowestScope (h : s.narrowestScope? = some scope) :
    ∃ layer before, s.layers.toList = before ++ [(scope, layer)] ∧
      s.layers.get? scope = some layer := by
  rw [narrowestScope?, availableScopes, List.getLast?_map] at h
  obtain ⟨⟨_, layer⟩, hlast, rfl⟩ := Option.map_eq_some_iff.1 h
  obtain ⟨before, hbefore⟩ := List.getLast?_eq_some_iff.1 hlast
  refine ⟨layer, before, hbefore, ?_⟩
  have hmem : (_, layer) ∈ s.layers.toList := List.mem_of_getLast? hlast
  simp only [PerScope.toList, List.mem_filterMap, Option.map_eq_some_iff, Prod.mk.injEq] at hmem
  obtain ⟨_, -, _, hget, rfl, rfl⟩ := hmem
  exact hget

/-- **A value for a language at the narrowest scope is the one that counts.** -/
theorem value?_of_raw?_narrowest {l : String} {v : Value} (hs : s.narrowestScope? = some scope)
    (hv : s.raw? scope key (some l) = some v) : s.value? key (some l) = some v := by
  obtain ⟨layer, before, hlist, hget⟩ := get?_narrowestScope hs
  have hlayer : layer.get? key (some l) = some v := by
    simpa only [raw?, hget, Option.bind_some] using hv
  simp [value?, effectiveValue?, languageValue?, inspect, hlist, hlayer]

end Settings

end FormatChain
