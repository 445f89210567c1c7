import FormatChain.Proofs.Settings.Parsing

/-!
# Qualified keys

A layer lists every value under a qualified key: the key itself for a general value, and the key
behind the language in brackets for a value of a language.  In a layer that was read from a text no
general key starts with a bracket and no language holds a closing one, so a qualified key belongs to
one place only.

* `Layer.WellKeyed` : the keys and the languages of a layer are of this form.
* `Layer.FromText`, `Layer.FromText.wellKeyed` : layers that were read from a text are.
* `Layer.get?_qualifiedKeys_general`, `Layer.get?_qualifiedKeys_language` : looking up a qualified
  key is looking up its place.
-/

namespace FormatChain

open FormatChain.Json FormatChain.Text

namespace Settings

/-! ## Layers from texts -/

namespace Layer

/-- No general key starts with a bracket, and no language holds a closing one. -/
structure WellKeyed (layer : Layer) : Prop where
  general : ∀ key ∈ layer.general.names, key.toList.head? ≠ some '['
  languages : ∀ language ∈ layer.languages.names, ']' ∉ language.toList

/-- The layer was read from a text. Its file and its mark against writing are of no account. -/
def FromText (layer : Layer) : Prop :=
  ∃ text read, parse text = .ok read ∧ layer.general = read.general ∧
    layer.languages = read.languages

variable {layer : Layer}

theorem wellKeyed_empty : empty.WellKeyed :=
  ⟨fun _ h => absurd h List.not_mem_nil, fun _ h => absurd h List.not_mem_nil⟩

/-- **A layer that was read from a text is well keyed.** -/
theorem wellKeyed_of_parse {text : String} (h : parse text = .ok layer) : layer.WellKeyed := by
  obtain ⟨fields, hholds⟩ := exists_holds_of_parse h
  exact ⟨hholds.not_isBracketed, fun language hmem => (hholds.isLanguage language hmem).unclosed⟩

theorem FromText.wellKeyed (h : layer.FromText) : layer.WellKeyed := by
  obtain ⟨text, read, hparse, hgeneral, hlanguages⟩ := h
  have hread := wellKeyed_of_parse hparse
  exact ⟨hgeneral ▸ hread.general, hlanguages ▸ hread.languages⟩

/-! ## Looking up qualified keys -/

/-- The values of blocks under their qualified keys. -/
def qualifiedBlocks (blocks : List (String × Block)) : List (String × Value) :=
  blocks.flatMap fun (language, block) =>
    block.entries.map fun (key, value) => (overrideKey language key, value)

theorem get?_qualifiedBlocks {blocks : List (String × Block)}
    (hnodup : (Entries.names blocks).Nodup)
    (hmarks : ∀ language ∈ Entries.names blocks, ']' ∉ language.toList) {language : String}
    (hl : ']' ∉ language.toList) (key : String) :
    Entries.get? (overrideKey language key) (qualifiedBlocks blocks) =
      (Entries.get? language blocks).bind (·.get? key) := by
  induction blocks with
  | nil => rfl
  | cons first rest ih =>
    obtain ⟨other, block⟩ := first
    obtain ⟨hnew, hnodup⟩ := List.nodup_cons.1 hnodup
    have ih := ih hnodup fun l hmem => hmarks l (List.mem_cons_of_mem _ hmem)
    have hother : ']' ∉ other.toList := hmarks other List.mem_cons_self
    rw [qualifiedBlocks, List.flatMap_cons, Entries.get?_append]
    change Option.or _ (Entries.get? _ (qualifiedBlocks rest)) = _
    rw [ih]
    by_cases heq : other = language
    · subst heq
      have hrest : Entries.get? other rest = none := Entries.get?_eq_none_iff.2 hnew
      have hfirst : Entries.get? (overrideKey other key)
          (block.entries.map fun entry => (overrideKey other entry.1, entry.2)) =
            Entries.get? key block.entries :=
        Entries.get?_map_name (fun _ h => ((overrideKey_inj hother hother).1 h).2) block.entries
      rw [hrest, Option.bind_none, Option.or_none]
      simpa [Entries.get?, OrderedMap.get?] using hfirst
    · have hfirst : Entries.get? (overrideKey language key)
          (block.entries.map fun (k, value) => (overrideKey other k, value)) = none := by
        rw [Entries.get?_eq_none_iff, Entries.names, List.map_map, List.mem_map]
        rintro ⟨entry, -, hentry⟩
        exact heq ((overrideKey_inj hother hl).1 hentry).1
      rw [hfirst, Option.none_or, Entries.get?, if_neg heq]

theorem qualifiedKeys_eq (layer : Layer) :
    layer.qualifiedKeys = layer.general.entries ++ qualifiedBlocks layer.languages.entries := rfl

/-- A general value is found under its key. -/
theorem get?_qualifiedKeys_general (layer : Layer) {key : String}
    (hkey : key.toList.head? ≠ some '[') :
    Entries.get? key layer.qualifiedKeys = layer.get? key none := by
  have hblocks : Entries.get? key (qualifiedBlocks layer.languages.entries) = none := by
    rw [Entries.get?_eq_none_iff, Entries.names, List.mem_map]
    rintro ⟨entry, hentry, rfl⟩
    obtain ⟨block, -, hmem⟩ := List.mem_flatMap.1 hentry
    obtain ⟨named, -, rfl⟩ := List.mem_map.1 hmem
    exact hkey (by rw [toList_overrideKey]; rfl)
  rw [qualifiedKeys_eq, Entries.get?_append, hblocks, Option.or_none]
  rfl

/-- A value of a language is found under its override key. -/
theorem WellKeyed.get?_qualifiedKeys_language (h : layer.WellKeyed) {language : String}
    (hl : ']' ∉ language.toList) (key : String) :
    Entries.get? (overrideKey language key) layer.qualifiedKeys =
      layer.get? key (some language) := by
  have hgeneral : Entries.get? (overrideKey language key) layer.general.entries = none := by
    rw [Entries.get?_eq_none_iff]
    intro hmem
    exact h.general _ hmem (by rw [toList_overrideKey]; rfl)
  rw [qualifiedKeys_eq, Entries.get?_append, hgeneral, Option.none_or,
    get?_qualifiedBlocks layer.languages.nodup h.languages hl]
  rfl

/-- A language with a closing bracket has no value. -/
theorem WellKeyed.get?_of_mem (h : layer.WellKeyed) {language : String}
    (hl : ']' ∈ language.toList) (key : String) : layer.get? key (some language) = none := by
  have hnone : layer.languages.get? language = none :=
    Entries.get?_eq_none_iff.2 fun hmem => h.languages language hmem hl
  rw [Layer.get?, hnone, Option.bind_none]

end Layer

end Settings

end FormatChain
