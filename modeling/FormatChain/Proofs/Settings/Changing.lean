import FormatChain.Proofs.Settings.Effective
import FormatChain.Proofs.Settings.Qualified

/-!
# Keys that change

Putting other layers in place reports the qualified keys under which the layers of some scope
differ.  In layers that were read from texts these are the places whose raw values differ.

* `Settings.mem_changedKeys` : what the reported keys are.
* `Settings.AllFromText` : all layers were read from texts.
* `Settings.sameOption_raw?_of_unchanged` : where no key is reported the raw values are the same.
-/

namespace FormatChain

open FormatChain.Json
open FormatChain.Settings (Scope PerScope Layer overrideKey)

namespace Settings

/-! ## Collecting keys -/

theorem mem_addKey {keys : List String} {key other : String} :
    other ∈ addKey keys key ↔ other ∈ keys ∨ key = other := by
  rw [addKey]
  split
  · next h =>
    have hmem : key ∈ keys := List.contains_iff_mem.1 h
    constructor
    · exact .inl
    · rintro (h | rfl)
      · exact h
      · exact hmem
  · rw [List.mem_append, List.mem_singleton, eq_comm]

/-- Collecting the keys of the entries that do not pass a test. -/
theorem mem_foldl_addKey {entries : List (String × Value)} {passes : String × Value → Bool}
    {keys : List String} {key : String} :
    key ∈ entries.foldl (fun keys entry => if passes entry then keys else addKey keys entry.1)
        keys ↔
      key ∈ keys ∨ ∃ entry ∈ entries, passes entry = false ∧ entry.1 = key := by
  induction entries generalizing keys with
  | nil => simp
  | cons entry rest ih =>
    rw [List.foldl_cons, ih]
    cases hpasses : passes entry with
    | true => simp [hpasses]
    | false =>
      rw [if_neg (by simp), mem_addKey, or_assoc]
      simp [hpasses]

/-- A qualified key is reported for two layers if the old one has it with a value that the new one
does not have, or if only the new one has it. -/
def IsChanged (old new : Layer) (key : String) : Prop :=
  (∃ value, (key, value) ∈ old.qualifiedKeys ∧
    sameOption (Entries.get? key new.qualifiedKeys) (some value) = false) ∨
  (key ∈ Entries.names new.qualifiedKeys ∧ Entries.get? key old.qualifiedKeys = none)

theorem mem_addChangedKeys {keys : List String} {old new : Layer} {key : String} :
    key ∈ addChangedKeys keys old new ↔ key ∈ keys ∨ IsChanged old new key := by
  rw [addChangedKeys, mem_foldl_addKey, mem_foldl_addKey, or_assoc, IsChanged]
  refine or_congr_right (or_congr ?_ ?_)
  · constructor
    · rintro ⟨⟨_, value⟩, hmem, hdiffers, rfl⟩
      exact ⟨value, hmem, hdiffers⟩
    · rintro ⟨value, hmem, hdiffers⟩
      exact ⟨_, hmem, hdiffers, rfl⟩
  · constructor
    · rintro ⟨entry, hmem, hnone, rfl⟩
      exact ⟨List.mem_map_of_mem hmem, by simpa using hnone⟩
    · rintro ⟨hmem, hnone⟩
      obtain ⟨entry, hentry, rfl⟩ := List.mem_map.1 hmem
      exact ⟨entry, hentry, by simpa using hnone, rfl⟩

/-- The layer of a scope, which is empty if there is none. -/
def layerAt (layers : PerScope Layer) (scope : Scope) : Layer := (layers.get? scope).getD .empty

/-- **The reported keys** are those that are changed at some scope. -/
theorem mem_changedKeys {old new : PerScope Layer} {key : String} :
    key ∈ changedKeys old new ↔ ∃ scope, IsChanged (layerAt old scope) (layerAt new scope) key := by
  have hfold : ∀ (scopes : List Scope) (keys : List String),
      key ∈ scopes.foldl (fun keys scope =>
        addChangedKeys keys ((old.get? scope).getD .empty) ((new.get? scope).getD .empty)) keys ↔
      key ∈ keys ∨ ∃ scope ∈ scopes, IsChanged (layerAt old scope) (layerAt new scope) key := by
    intro scopes
    induction scopes with
    | nil => simp
    | cons scope rest ih =>
      intro keys
      rw [List.foldl_cons, ih, mem_addChangedKeys, or_assoc]
      simp [layerAt]
  rw [changedKeys, hfold]
  have hall : ∀ scope, scope ∈ Scope.all := fun scope => by cases scope <;> decide
  simp [hall]

/-- A key that is not changed has the same value in both layers, or none in either. -/
theorem sameOption_of_not_isChanged {old new : Layer} {key : String}
    (h : ¬ IsChanged old new key) :
    sameOption (Entries.get? key new.qualifiedKeys) (Entries.get? key old.qualifiedKeys) =
      true := by
  cases hold : Entries.get? key old.qualifiedKeys with
  | some value =>
    cases hsame : sameOption (Entries.get? key new.qualifiedKeys) (some value) with
    | true => rfl
    | false => exact absurd (.inl ⟨value, Entries.mem_of_get? hold, hsame⟩) h
  | none =>
    cases hnew : Entries.get? key new.qualifiedKeys with
    | none => rfl
    | some value =>
      have hname : key ∈ Entries.names new.qualifiedKeys :=
        List.mem_map_of_mem (Entries.mem_of_get? hnew)
      exact absurd (.inr ⟨hname, hold⟩) h

/-! ## Places -/

theorem raw?_eq (s : Settings) (scope : Scope) (key : String) (language : Option String) :
    s.raw? scope key language = (layerAt s.layers scope).get? key language := by
  rw [raw?, layerAt]
  cases s.layers.get? scope with
  | some layer => rfl
  | none => cases language <;> rfl

/-- All layers were read from texts. -/
def AllFromText (layers : PerScope Layer) : Prop :=
  ∀ scope layer, layers.get? scope = some layer → layer.FromText

theorem AllFromText.wellKeyed {layers : PerScope Layer} (h : AllFromText layers) (scope : Scope) :
    (layerAt layers scope).WellKeyed := by
  rw [layerAt]
  cases hlayer : layers.get? scope with
  | none => exact Layer.wellKeyed_empty
  | some layer => exact (h scope layer hlayer).wellKeyed

variable {s s' : Settings}

/-- A general value whose key is not reported is the same at each scope. -/
theorem sameOption_raw?_general {key : String} (hkey : key.toList.head? ≠ some '[')
    (h : key ∉ changedKeys s.layers s'.layers) (scope : Scope) :
    sameOption (s'.raw? scope key none) (s.raw? scope key none) = true := by
  have hsame := sameOption_of_not_isChanged fun hchanged =>
    h (mem_changedKeys.2 ⟨scope, hchanged⟩)
  rw [Layer.get?_qualifiedKeys_general _ hkey, Layer.get?_qualifiedKeys_general _ hkey] at hsame
  rw [raw?_eq, raw?_eq]
  exact hsame

/-- A value of a language whose key is not reported is the same at each scope. -/
theorem sameOption_raw?_language (hs : AllFromText s.layers) (hs' : AllFromText s'.layers)
    {language key : String} (h : overrideKey language key ∉ changedKeys s.layers s'.layers)
    (scope : Scope) :
    sameOption (s'.raw? scope key (some language)) (s.raw? scope key (some language)) = true := by
  have hold := hs.wellKeyed scope
  have hnew := hs'.wellKeyed scope
  rw [raw?_eq, raw?_eq]
  by_cases hmark : ']' ∈ language.toList
  · rw [hold.get?_of_mem hmark, hnew.get?_of_mem hmark]
    rfl
  · have hsame := sameOption_of_not_isChanged fun hchanged =>
      h (mem_changedKeys.2 ⟨scope, hchanged⟩)
    rw [hold.get?_qualifiedKeys_language hmark, hnew.get?_qualifiedKeys_language hmark] at hsame
    exact hsame

/-- **Where no key is reported, the values that count are the same.** -/
theorem sameOption_value?_of_unchanged (hs : AllFromText s.layers) (hs' : AllFromText s'.layers)
    {key : String} (hkey : key.toList.head? ≠ some '[')
    (hgeneral : key ∉ changedKeys s.layers s'.layers) {language : Option String}
    (hlanguage : ∀ l, language = some l → overrideKey l key ∉ changedKeys s.layers s'.layers) :
    sameOption (s'.value? key language) (s.value? key language) = true :=
  sameOption_value? (fun l hl => sameOption_raw?_language hs hs' (hlanguage l hl))
    (sameOption_raw?_general hkey hgeneral)

end Settings

end FormatChain
