import FormatChain.Proofs.OrderedMap
import FormatChain.Proofs.Settings.Writing

/-!
# Writing a value and writing the old one back

A map that keeps its order is the same after a name was given a value and then given the old one
back, or removed if it had none.  A layer is the same too, except that the second write may find an
empty block of a language, and removes it.

* `Settings.Layer.dropEmptyBlock` : a layer without the block of a language, if that is empty.
* `Settings.Layer.restored` : writing a value and writing the old one back.
-/

namespace FormatChain

open FormatChain.Json

variable {α : Type}

namespace Settings

/-! ## Layers -/

namespace Layer

/-- The layer without the block of the language, if that is empty. -/
def dropEmptyBlock (layer : Layer) (language : String) : Layer :=
  match layer.languages.get? language with
  | none => layer
  | some block =>
    if block.isEmpty then { layer with languages := layer.languages.erase language } else layer

/-- The layer has a block of the language, and nothing in it. -/
def HasEmptyBlock (layer : Layer) (language : String) : Prop :=
  ∃ block, layer.languages.get? language = some block ∧ block.isEmpty = true

variable {layer : Layer} {language : String}

theorem dropEmptyBlock_of_hasEmptyBlock (h : layer.HasEmptyBlock language) :
    layer.dropEmptyBlock language =
      { layer with languages := layer.languages.erase language } := by
  obtain ⟨block, hblock, hempty⟩ := h
  rw [dropEmptyBlock, hblock]
  exact if_pos hempty

theorem dropEmptyBlock_of_not (h : ¬ layer.HasEmptyBlock language) :
    layer.dropEmptyBlock language = layer := by
  rw [dropEmptyBlock]
  cases hblock : layer.languages.get? language with
  | none => rfl
  | some block => exact if_neg fun hempty => h ⟨block, hblock, hempty⟩

/-- An empty block has no values to lose. -/
theorem get?_dropEmptyBlock (layer : Layer) (language key : String) (other : Option String) :
    (layer.dropEmptyBlock language).get? key other = layer.get? key other := by
  by_cases h : layer.HasEmptyBlock language
  · rw [dropEmptyBlock_of_hasEmptyBlock h]
    obtain ⟨block, hblock, hempty⟩ := h
    cases other with
    | none => rfl
    | some other =>
      simp only [get?, OrderedMap.get?_erase]
      split
      · next heq =>
        rw [← heq, hblock, Option.bind_none, Option.bind_some, get?_of_isEmpty hempty]
      · rfl
  · rw [dropEmptyBlock_of_not h]

/-- Of two values for a language the second one wins. -/
theorem set_set (layer : Layer) (key language : String) (value value' : Value) :
    (layer.set key (some language) (some value)).set key (some language) (some value') =
      layer.set key (some language) (some value') := by
  simp only [set, block, OrderedMap.get?_set, if_true, Option.getD_some, OrderedMap.set_set]

/-- **Writing a value for a language and writing the old one back** leaves the layer as it was,
except that an empty block of the language is gone. -/
theorem restored (layer : Layer) (key language : String) (value : Value) :
    (layer.set key (some language) (some value)).set key (some language)
        (layer.get? key (some language)) = layer.dropEmptyBlock language := by
  cases hblock : layer.languages.get? language with
  | none =>
    have hwritten : layer.set key (some language) (some value) =
        { layer with languages := layer.languages.set language (.set .empty key value) } := by
      simp only [set, block, hblock, Option.getD_none]
    have hgone : (OrderedMap.set .empty key value).erase key = (.empty : Block) := by
      rw [OrderedMap.erase_set, OrderedMap.erase_of_get?_eq_none rfl]
    rw [dropEmptyBlock_of_not (by simp [HasEmptyBlock, hblock]), hwritten]
    simp only [set, get?, hblock, Option.bind_none, OrderedMap.get?_set, if_true, hgone,
      OrderedMap.erase_set, OrderedMap.erase_of_get?_eq_none hblock]
    rfl
  | some found =>
    have hwritten : layer.set key (some language) (some value) =
        { layer with languages := layer.languages.set language (found.set key value) } := by
      simp only [set, block, hblock, Option.getD_some]
    cases hvalue : found.get? key with
    | none =>
      have hgone : (found.set key value).erase key = found := by
        rw [OrderedMap.erase_set, OrderedMap.erase_of_get?_eq_none hvalue]
      rw [hwritten]
      simp only [set, get?, hblock, hvalue, Option.bind_some, OrderedMap.get?_set, if_true, hgone,
        OrderedMap.erase_set, OrderedMap.set_set, OrderedMap.set_get hblock]
      rw [dropEmptyBlock, hblock]
    | some old =>
      have hfull : ¬ layer.HasEmptyBlock language := by
        rintro ⟨block, hsome, hempty⟩
        obtain rfl := Option.some.inj (hblock.symm.trans hsome)
        rw [get?_of_isEmpty hempty] at hvalue
        exact absurd hvalue (by simp)
      rw [dropEmptyBlock_of_not hfull, hwritten]
      simp only [set, block, get?, hblock, hvalue, Option.bind_some, OrderedMap.get?_set, if_true,
        Option.getD_some, OrderedMap.set_set, OrderedMap.set_get hvalue, OrderedMap.set_get hblock]

end Layer

/-! ## Layers of scopes -/

theorem PerScope.set_set (layers : PerScope α) (scope : Scope) (value value' : α) :
    (layers.set scope value).set scope value' = layers.set scope value' := by
  cases scope <;> rfl

end Settings

end FormatChain
