import FormatChain.Proofs.Settings.Changing

/-!
# Entries that differ

An entry of the settings stands at a scope, under a key, in general or for a language.  The question
here is what the keys that are reported when other layers are put in place say about single entries.
In layers that were read from texts a qualified key names one entry only, so the answer is exact:
the reported keys are those of the entries that differ, each once.

* `qualifiedKey` : the name of an entry.
* `Layer.mem_qualifiedKeys_iff` : a layer lists what it holds.
* `EntryDiffers` : an entry is in one of two layers only, or has different values in them.
* `isChanged_iff` : what is changed between two layers.
* `nodup_changedKeys` : no key is reported twice.
* `replaceLayers_reports` : the reported keys are those of the entries that differ.
-/

namespace FormatChain

open FormatChain.Json

namespace Settings

/-! ## Names of entries -/

/-- The name of an entry: its key, behind the language in brackets if it is for one. -/
def qualifiedKey : Option String → String → String
  | none, key => key
  | some language, key => overrideKey language key

/-- **A layer lists what it holds**, each entry under its name. -/
theorem Layer.mem_qualifiedKeys_iff {layer : Layer} {name : String} {value : Value} :
    (name, value) ∈ layer.qualifiedKeys ↔
      ∃ language key, name = qualifiedKey language key ∧
        layer.get? key language = some value := by
  rw [Layer.qualifiedKeys, List.mem_append, List.mem_flatMap]
  constructor
  · rintro (hgeneral | ⟨⟨language, block⟩, hblock, hentry⟩)
    · exact ⟨none, name, rfl, OrderedMap.mem_entries_iff.1 hgeneral⟩
    · obtain ⟨⟨key, value'⟩, hmem, heq⟩ := List.mem_map.1 hentry
      obtain ⟨rfl, rfl⟩ := Prod.mk.inj heq
      refine ⟨some language, key, rfl, ?_⟩
      rw [Layer.get?, OrderedMap.mem_entries_iff.1 hblock, Option.bind_some,
        OrderedMap.mem_entries_iff.1 hmem]
  · rintro ⟨language, key, rfl, hvalue⟩
    cases language with
    | none => exact .inl (OrderedMap.mem_entries_iff.2 hvalue)
    | some language =>
      obtain ⟨block, hblock, hmem⟩ := Option.bind_eq_some_iff.1 hvalue
      exact .inr ⟨(language, block), OrderedMap.mem_entries_iff.2 hblock,
        List.mem_map.2 ⟨(key, value), OrderedMap.mem_entries_iff.2 hmem, rfl⟩⟩

/-- The name of the entry can be told from all others. -/
def IsPlain : Option String → String → Prop
  | none, key => key.toList.head? ≠ some '['
  | some language, _ => ']' ∉ language.toList

/-- **Names do not collide**: plain entries of one name are one entry. -/
theorem qualifiedKey_inj {language language' : Option String} {key key' : String}
    (h : IsPlain language key) (h' : IsPlain language' key') :
    qualifiedKey language key = qualifiedKey language' key' ↔
      language = language' ∧ key = key' := by
  have hbracket (l k : String) : (overrideKey l k).toList.head? = some '[' := by
    rw [toList_overrideKey]
    rfl
  cases language with
  | none =>
    cases language' with
    | none => simp [qualifiedKey]
    | some l' =>
      have hne : key ≠ overrideKey l' key' := fun heq => h (heq ▸ hbracket l' key')
      simp [qualifiedKey, hne]
  | some l =>
    cases language' with
    | none =>
      have hne : overrideKey l key ≠ key' := fun heq => h' (heq ▸ hbracket l key)
      simp [qualifiedKey, hne]
    | some l' => simp only [qualifiedKey, overrideKey_inj h h', Option.some.injEq]

namespace Layer

variable {layer : Layer} {language : Option String} {key : String} {value : Value}

theorem WellKeyed.isPlain (h : layer.WellKeyed) (hvalue : layer.get? key language = some value) :
    IsPlain language key := by
  cases language with
  | none =>
    exact h.general key (List.mem_map_of_mem (OrderedMap.mem_entries_iff.2 hvalue))
  | some l =>
    intro hmark
    rw [h.get?_of_mem hmark] at hvalue
    exact absurd hvalue (by simp)

/-- Looking up the name of an entry is looking up the entry. -/
theorem WellKeyed.get?_qualifiedKeys (h : layer.WellKeyed) (hplain : IsPlain language key) :
    Entries.get? (qualifiedKey language key) layer.qualifiedKeys = layer.get? key language := by
  cases language with
  | none => exact get?_qualifiedKeys_general layer hplain
  | some l => exact h.get?_qualifiedKeys_language hplain key

end Layer

/-! ## Entries of two layers -/

/-- An entry is in one of two layers only, or in both with different values. -/
def EntryDiffers : Option Value → Option Value → Prop
  | none, none => False
  | some before, some after => after.same before = false
  | _, _ => True

theorem entryDiffers_iff {before after : Option Value} :
    EntryDiffers before after ↔ sameOption after before = false := by
  cases before <;> cases after <;> simp [EntryDiffers, sameOption]

/-- **What is changed between two layers** are the entries that differ. -/
theorem isChanged_iff {old new : Layer} (hold : old.WellKeyed) (hnew : new.WellKeyed)
    {name : String} :
    IsChanged old new name ↔ ∃ language key, name = qualifiedKey language key ∧
      EntryDiffers (old.get? key language) (new.get? key language) := by
  constructor
  · rintro (⟨value, hmem, hdiffers⟩ | ⟨hname, hnone⟩)
    · obtain ⟨language, key, rfl, hvalue⟩ := Layer.mem_qualifiedKeys_iff.1 hmem
      rw [hnew.get?_qualifiedKeys (hold.isPlain hvalue)] at hdiffers
      exact ⟨language, key, rfl, entryDiffers_iff.2 (hvalue ▸ hdiffers)⟩
    · obtain ⟨⟨_, value⟩, hmem, rfl⟩ := List.mem_map.1 hname
      obtain ⟨language, key, hkey, hvalue⟩ := Layer.mem_qualifiedKeys_iff.1 hmem
      rw [hkey, hold.get?_qualifiedKeys (hnew.isPlain hvalue)] at hnone
      exact ⟨language, key, hkey, by simp [EntryDiffers, hvalue, hnone]⟩
  · rintro ⟨language, key, rfl, hdiffers⟩
    cases hbefore : old.get? key language with
    | some value =>
      have hlookup := hnew.get?_qualifiedKeys (hold.isPlain hbefore)
      refine .inl ⟨value, Layer.mem_qualifiedKeys_iff.2 ⟨language, key, rfl, hbefore⟩, ?_⟩
      rw [hlookup]
      exact entryDiffers_iff.1 (hbefore ▸ hdiffers)
    | none =>
      cases hafter : new.get? key language with
      | none =>
        rw [hbefore, hafter] at hdiffers
        exact hdiffers.elim
      | some value =>
        have hmem := Layer.mem_qualifiedKeys_iff.2 ⟨language, key, rfl, hafter⟩
        refine .inr ⟨List.mem_map_of_mem hmem, ?_⟩
        rw [hold.get?_qualifiedKeys (hnew.isPlain hafter), hbefore]

/-! ## The reported keys -/

theorem nodup_addKey {keys : List String} (h : keys.Nodup) (key : String) :
    (addKey keys key).Nodup := by
  rw [addKey]
  split
  · exact h
  · next hnew =>
    refine List.nodup_append.2 ⟨h, List.pairwise_singleton _ key, fun other hother => ?_⟩
    rintro _ hkey rfl
    rw [List.mem_singleton.1 hkey] at hother
    exact hnew (List.contains_iff_mem.2 hother)

theorem nodup_foldl_addKey {α : Type} {entries : List α} {passes : α → Bool} {name : α → String}
    {keys : List String} (h : keys.Nodup) :
    (entries.foldl (fun keys entry => if passes entry then keys else addKey keys (name entry))
      keys).Nodup := by
  induction entries generalizing keys with
  | nil => exact h
  | cons entry rest ih =>
    rw [List.foldl_cons]
    split
    · exact ih h
    · exact ih (nodup_addKey h _)

theorem nodup_addChangedKeys {keys : List String} (h : keys.Nodup) (old new : Layer) :
    (addChangedKeys keys old new).Nodup :=
  nodup_foldl_addKey (nodup_foldl_addKey h)

/-- No key is reported twice. -/
theorem nodup_changedKeys (old new : PerScope Layer) : (changedKeys old new).Nodup := by
  have hfold : ∀ (scopes : List Scope) (keys : List String), keys.Nodup →
      (scopes.foldl (fun keys scope =>
        addChangedKeys keys ((old.get? scope).getD .empty) ((new.get? scope).getD .empty))
        keys).Nodup := by
    intro scopes
    induction scopes with
    | nil => exact fun _ h => h
    | cons scope rest ih => exact fun keys h => ih _ (nodup_addChangedKeys h _ _)
  exact hfold Scope.all [] List.nodup_nil

theorem Layer.fromText_of_toOption {text : String} {layer : Layer}
    (h : (Layer.parse text).toOption = some layer) : layer.FromText := by
  cases hparse : Layer.parse text with
  | error e => simp [hparse, Except.toOption] at h
  | ok read =>
    obtain rfl : read = layer := by simpa [hparse, Except.toOption] using h
    exact ⟨text, read, hparse, rfl, rfl⟩

theorem AllFromText.isPlain {s : Settings} (h : AllFromText s.layers) {scope : Scope}
    {key : String} {language : Option String} {value : Value}
    (hvalue : s.raw? scope key language = some value) : IsPlain language key := by
  rw [raw?_eq] at hvalue
  exact (h.wellKeyed scope).isPlain hvalue

/-- Some scope of the settings has the entry. -/
def Holds (s : Settings) (language : Option String) (key : String) : Prop :=
  ∃ scope value, s.raw? scope key language = some value

theorem Holds.isPlain {s : Settings} {language : Option String} {key : String}
    (h : s.Holds language key) (hs : AllFromText s.layers) : IsPlain language key := by
  obtain ⟨scope, value, hvalue⟩ := h
  exact hs.isPlain hvalue

/-- **The reported keys are exact.**  When layers that were read from texts take the place of others
that were, at whatever scopes, then these are the layers from then on.  No key is reported twice.  A
name is reported exactly if it is that of an entry which, at some scope, is in one of the two layers
only or has different values in them; a scope without a layer has no entries.  And the name belongs
to no other entry of the old or the new layers. -/
theorem replaceLayers_reports {s : Settings} {layers : PerScope Layer}
    (hold : AllFromText s.layers) (hnew : AllFromText layers) :
    let keys := (s.replaceLayers layers).1
    let replaced := (s.replaceLayers layers).2
    replaced.layers = layers ∧ keys.Nodup ∧
      (∀ name, name ∈ keys ↔ ∃ scope language key, name = qualifiedKey language key ∧
        EntryDiffers (s.raw? scope key language) (replaced.raw? scope key language)) ∧
      ∀ language key language' key', (s.Holds language key ∨ replaced.Holds language key) →
        (s.Holds language' key' ∨ replaced.Holds language' key') →
        qualifiedKey language key = qualifiedKey language' key' →
        language = language' ∧ key = key' := by
  intro keys replaced
  have hplaced : AllFromText replaced.layers := hnew
  refine ⟨rfl, nodup_changedKeys _ _, fun name => ?_, ?_⟩
  · change name ∈ changedKeys s.layers replaced.layers ↔ _
    rw [mem_changedKeys]
    refine exists_congr fun scope => ?_
    simp only [isChanged_iff (hold.wellKeyed scope) (hplaced.wellKeyed scope), raw?_eq]
  · intro language key language' key' h h' hname
    have hplain := h.elim (·.isPlain hold) (·.isPlain hplaced)
    have hplain' := h'.elim (·.isPlain hold) (·.isPlain hplaced)
    exact (qualifiedKey_inj hplain hplain').1 hname

/-- A general value that goes, one that comes, a language's value that changes and a new layer are
reported, scope by scope; what stays as it is in its layer is not. -/
theorem replaceLayers_reports_scope_by_scope :
    let parsed (text : String) : Option Layer := (Layer.parse text).toOption
    let before := parsed
      "\x7b\"a\": 1, \"b\": 2, \"[rust][go]\": \x7b\"editor.formatOnSave\": true\x7d\x7d"
    let after := parsed
      "\x7b\"a\": 1, \"c\": 3, \"[rust]\": \x7b\"editor.formatOnSave\": false\x7d\x7d"
    let added := parsed "\x7b\"[ go ]\": \x7b\"a\": null\x7d\x7d"
    let s : Settings := { layers := { global := before } }
    let layers : PerScope Layer := { global := after, workspace := added }
    let keys := (s.replaceLayers layers).1
    let replaced := (s.replaceLayers layers).2
    AllFromText s.layers ∧ AllFromText layers ∧
      keys = ["b", "[rust].editor.formatOnSave", "[go].editor.formatOnSave", "c", "[go].a"] ∧
      (∃ scope language key, "[go].a" = qualifiedKey language key ∧
        EntryDiffers (s.raw? scope key language) (replaced.raw? scope key language)) ∧
      ¬ ∃ scope language key, "a" = qualifiedKey language key ∧
        EntryDiffers (s.raw? scope key language) (replaced.raw? scope key language) := by
  intro parsed before after added s layers keys replaced
  have hkeys : keys =
      ["b", "[rust].editor.formatOnSave", "[go].editor.formatOnSave", "c", "[go].a"] := by
    decide +kernel
  have hparsed : ∀ text layer, parsed text = some layer → layer.FromText :=
    fun _ _ => Layer.fromText_of_toOption
  -- From here on the texts are of no account.
  clear_value parsed
  have hold : AllFromText s.layers := by
    rintro (_ | _ | _) layer hlayer
    · exact hparsed _ _ hlayer
    · exact absurd hlayer (by simp [s, PerScope.get?])
    · exact absurd hlayer (by simp [s, PerScope.get?])
  have hnew : AllFromText layers := by
    rintro (_ | _ | _) layer hlayer
    · exact hparsed _ _ hlayer
    · exact hparsed _ _ hlayer
    · exact absurd hlayer (by simp [layers, PerScope.get?])
  obtain ⟨-, -, hreported, -⟩ := replaceLayers_reports hold hnew
  refine ⟨hold, hnew, hkeys, (hreported _).1 ?_, fun hdiffers => ?_⟩
  · change "[go].a" ∈ keys
    rw [hkeys]
    decide
  · have hmem : "a" ∈ keys := (hreported _).2 hdiffers
    rw [hkeys] at hmem
    exact absurd hmem (by decide)

end Settings

end FormatChain
