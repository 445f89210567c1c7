import FormatChain.Proofs.OrderedMap
import FormatChain.Proofs.Session.Actions
import FormatChain.Proofs.Settings.Readings

/-!
# What a write does to what is read

A key may have values at several spots, and a read sees some of them: those in general, and those
for its language if it has one.  Of two spots the one for the language is stronger, and of two of
one kind the one at the narrower scope.  What counts is the value at the strongest spot that has
one.  From this follows what a write does to every read.

* `Settings.Scope.IsNarrower`, `Settings.IsSeen`, `Settings.IsStronger` : the order of spots.
* `Settings.IsStrongest` : the value at the strongest spot that a read sees.
* `Settings.value?_eq_some_iff` : that is the one that counts.
* `Settings.Layer.BlocksAfter` : the blocks of a layer after a write to it.
* `Settings.IsWrite` : what a write changes, and what it leaves.
* `Action.writeSetting_obeys` : a write to the settings of the editor changes just that, or nothing.
-/

namespace FormatChain

open FormatChain.Json
open FormatChain.Settings (Scope)

namespace Settings

/-! ## The order of spots -/

/-- The scope is the narrower one of two. -/
def Scope.IsNarrower : Scope → Scope → Prop
  | .workspaceFolder, .workspace => True
  | .workspaceFolder, .global => True
  | .workspace, .global => True
  | _, _ => False

/-- A read for the language, or for none, sees the values at the spot. -/
def IsSeen (spot : Spot) (language : Option String) : Prop :=
  spot.2 = none ∨ spot.2 = language

/-- The spot is the stronger one of two that a read sees: one for a language is stronger than one in
general, and of two of one kind the one at the narrower scope is. -/
def IsStronger (spot other : Spot) : Prop :=
  (spot.2 ≠ none ∧ other.2 = none) ∨ (spot.2 = other.2 ∧ spot.1.IsNarrower other.1)

/-- The value of a key at a spot. -/
def held (s : Settings) (key : String) (spot : Spot) : Option Value :=
  s.raw? spot.1 key spot.2

/-- The value is the one at the strongest spot, among those that a read sees, that has one. -/
def IsStrongest (values : Spot → Option Value) (language : Option String) (value : Value) : Prop :=
  ∃ spot, IsSeen spot language ∧ values spot = some value ∧
    ∀ other, IsSeen other language → IsStronger other spot → values other = none

theorem Scope.IsNarrower.asymm {scope other : Scope} (h : scope.IsNarrower other) :
    ¬ other.IsNarrower scope := by
  cases scope <;> cases other <;> simp_all [IsNarrower]

theorem IsStronger.asymm {spot other : Spot} (h : IsStronger spot other) :
    ¬ IsStronger other spot := by
  rintro (⟨hother, hspot⟩ | ⟨heq, hnarrower⟩)
  · rcases h with ⟨hne, -⟩ | ⟨heq, -⟩
    · exact hne hspot
    · exact hother (heq ▸ hspot)
  · rcases h with ⟨hne, hnone⟩ | ⟨-, hnarrower'⟩
    · exact hne (heq ▸ hnone)
    · exact hnarrower.asymm hnarrower'

theorem Scope.IsNarrower.trans {scope other third : Scope} (h : scope.IsNarrower other)
    (h' : other.IsNarrower third) : scope.IsNarrower third := by
  cases scope <;> cases other <;> cases third <;> simp_all [IsNarrower]

theorem IsStronger.trans {spot other third : Spot} (h : IsStronger spot other)
    (h' : IsStronger other third) : IsStronger spot third := by
  rcases h with ⟨hspot, hother⟩ | ⟨heq, hnarrower⟩
  · rcases h' with ⟨hne, -⟩ | ⟨heq', -⟩
    · exact absurd hother hne
    · exact .inl ⟨hspot, heq' ▸ hother⟩
  · rcases h' with ⟨hother, hthird⟩ | ⟨heq', hnarrower'⟩
    · exact .inl ⟨heq ▸ hother, hthird⟩
    · exact .inr ⟨heq.trans heq', hnarrower.trans hnarrower'⟩

theorem IsStronger.ne {spot other : Spot} (h : IsStronger spot other) : spot ≠ other := by
  rintro rfl
  exact h.asymm h

/-- The strongest value is a matter of the spots that are seen. -/
theorem IsStrongest.congr {values values' : Spot → Option Value} {language : Option String}
    {value : Value} (h : IsStrongest values language value)
    (hsame : ∀ spot, IsSeen spot language → values' spot = values spot) :
    IsStrongest values' language value := by
  obtain ⟨spot, hseen, hvalue, hstronger⟩ := h
  refine ⟨spot, hseen, (hsame spot hseen).trans hvalue, fun other hother hbefore => ?_⟩
  exact (hsame other hother).trans (hstronger other hother hbefore)

/-- What a spot has is of no account behind one that has a value. -/
theorem IsStrongest.congr_behind {values values' : Spot → Option Value}
    {language : Option String} {value w : Value} {stronger behind : Spot}
    (h : IsStrongest values language value) (hseen : IsSeen stronger language)
    (hbefore : IsStronger stronger behind) (hheld : values stronger = some w)
    (hsame : ∀ spot, spot ≠ behind → values' spot = values spot) :
    IsStrongest values' language value := by
  obtain ⟨spot, hspot, hvalue, hnone⟩ := h
  -- The spot that counts is not behind the stronger one, so it is neither the other one nor behind.
  have hfront : ¬ IsStronger stronger spot := by
    intro hbehind
    rw [hnone stronger hseen hbehind] at hheld
    exact absurd hheld (by simp)
  have hne : spot ≠ behind := fun heq => hfront (heq ▸ hbefore)
  refine ⟨spot, hspot, (hsame spot hne).trans hvalue, fun other hother hstronger => ?_⟩
  have hother' : other ≠ behind := fun heq => hfront (hbefore.trans (heq ▸ hstronger))
  exact (hsame other hother').trans (hnone other hother hstronger)

/-- The spots that a read sees, strongest first. -/
def seenSpots : Option String → List Spot
  | some language => spotsFor language
  | none => spots none

theorem mem_seenSpots {spot : Spot} {language : Option String} :
    spot ∈ seenSpots language ↔ IsSeen spot language := by
  cases language with
  | none => simp [seenSpots, mem_spots, IsSeen]
  | some language => simp [seenSpots, spotsFor, mem_spots, IsSeen, or_comm]

theorem pairwise_spots (language : Option String) : (spots language).Pairwise IsStronger := by
  simp [spots, Scope.all, IsStronger, Scope.IsNarrower]

theorem pairwise_seenSpots (language : Option String) :
    (seenSpots language).Pairwise IsStronger := by
  cases language with
  | none => exact pairwise_spots none
  | some language =>
    refine List.pairwise_append.2
      ⟨pairwise_spots _, pairwise_spots _, fun spot hspot other hother => ?_⟩
    rw [mem_spots] at hspot hother
    exact .inl ⟨by simp [hspot], hother⟩

theorem value?_eq_firstValue? (s : Settings) (key : String) (language : Option String) :
    s.value? key language = s.firstValue? key (seenSpots language) := by
  cases language with
  | none => exact value?_none s key
  | some language => exact value?_for s key language

/-- What is found first in a list, if every element comes before the ones it is related to. -/
theorem findSome?_eq_some_iff_of_pairwise {α β : Type} {r : α → α → Prop}
    (hasymm : ∀ a b, r a b → ¬ r b a) {f : α → Option β} {elements : List α}
    (hpairwise : elements.Pairwise r) {b : β} :
    elements.findSome? f = some b ↔
      ∃ a ∈ elements, f a = some b ∧ ∀ other ∈ elements, r other a → f other = none := by
  induction elements with
  | nil => simp
  | cons first rest ih =>
    obtain ⟨hfirst, hrest⟩ := List.pairwise_cons.1 hpairwise
    rw [List.findSome?_cons]
    cases hfound : f first with
    | some found =>
      rw [Option.some.injEq]
      constructor
      · rintro rfl
        refine ⟨first, List.mem_cons_self, hfound, fun other hother hbefore => ?_⟩
        rcases List.mem_cons.1 hother with rfl | hother
        · exact absurd hbefore (hasymm _ _ hbefore)
        · exact absurd hbefore (hasymm _ _ (hfirst other hother))
      · rintro ⟨a, ha, hvalue, hbefore⟩
        rcases List.mem_cons.1 ha with rfl | ha
        · exact Option.some.inj (hfound.symm.trans hvalue)
        · have hnone := hbefore first List.mem_cons_self (hfirst a ha)
          exact absurd (hfound.symm.trans hnone) (by simp)
    | none =>
      rw [ih hrest]
      constructor
      · rintro ⟨a, ha, hvalue, hbefore⟩
        exact ⟨a, List.mem_cons_of_mem _ ha, hvalue,
          List.forall_mem_cons.2 ⟨fun _ => hfound, hbefore⟩⟩
      · rintro ⟨a, ha, hvalue, hbefore⟩
        rcases List.mem_cons.1 ha with rfl | ha
        · exact absurd (hfound.symm.trans hvalue) (by simp)
        · exact ⟨a, ha, hvalue, (List.forall_mem_cons.1 hbefore).2⟩

/-- **What counts** is the value at the strongest spot that has one. -/
theorem value?_eq_some_iff {s : Settings} {key : String} {language : Option String}
    {value : Value} :
    s.value? key language = some value ↔
      IsStrongest (s.held key) language value := by
  rw [value?_eq_firstValue?, firstValue?, findSome?_eq_some_iff_of_pairwise
    (fun _ _ => IsStronger.asymm) (pairwise_seenSpots language)]
  simp only [mem_seenSpots]
  rfl

/-! ## The blocks of a layer -/

/-- What a write to a layer does to the blocks of its languages. -/
structure Layer.BlocksAfter (layer layer' : Layer) (key : String) (language : Option String)
    (value : Option Value) : Prop where
  /-- A general write leaves all blocks. -/
  general : language = none → layer'.languages = layer.languages
  /-- A write for a language leaves the blocks of the others. -/
  others : ∀ other, language ≠ some other →
    layer'.languages.get? other = layer.languages.get? other
  /-- A value for a language without a block makes one, at the end. -/
  set : ∀ l v, language = some l → value = some v → layer'.languages.names =
    if l ∈ layer.languages.names then layer.languages.names else layer.languages.names ++ [l]
  /-- A removal leaves a block with another key in its place. -/
  kept : ∀ l other v, language = some l → value = none → other ≠ key →
    layer.get? other (some l) = some v → layer'.languages.names = layer.languages.names
  /-- A removal takes a block without another key away. -/
  dropped : ∀ l, language = some l → value = none →
    (∀ other, other ≠ key → layer.get? other (some l) = none) →
      layer'.languages.names = layer.languages.names.filter (· != l)
  /-- No write leaves the block that it writes to empty. -/
  nonempty : ∀ l block, language = some l → layer'.languages.get? l = some block →
    block.isEmpty = false

namespace Layer

/-- A block is empty without a key if and only if it has no other key. -/
theorem isEmpty_erase_iff {block : Block} {key : String} :
    (block.erase key).isEmpty = true ↔ ∀ other, other ≠ key → block.get? other = none := by
  constructor
  · intro hempty other hother
    have hget := get?_of_isEmpty hempty other
    rwa [OrderedMap.get?_erase, if_neg (Ne.symm hother)] at hget
  · intro hnone
    rw [isEmpty_iff_entries, List.eq_nil_iff_forall_not_mem]
    rintro ⟨other, value⟩ hmem
    have hget := OrderedMap.mem_entries_iff.1 hmem
    rw [OrderedMap.get?_erase] at hget
    split at hget
    · exact absurd hget (by simp)
    · next hne => exact absurd hget (by simp [hnone other (Ne.symm hne)])

/-- A removal leaves a block with another key in its place. -/
theorem names_removal_of_other {layer : Layer} {key language other : String} {value : Value}
    (hother : other ≠ key) (hvalue : layer.get? other (some language) = some value) :
    (layer.set key (some language) none).languages.names = layer.languages.names := by
  obtain ⟨block, hblock, hget⟩ := Option.bind_eq_some_iff.1 hvalue
  have hfull : ¬ (block.erase key).isEmpty = true := fun hempty =>
    absurd (hget.symm.trans (isEmpty_erase_iff.1 hempty other hother)) (by simp)
  have hmem : language ∈ layer.languages.names := OrderedMap.mem_names_iff.2 ⟨block, hblock⟩
  simp only [set, hblock]
  rw [if_neg hfull, OrderedMap.names_set, if_pos hmem]

/-- A removal takes a block without another key away. -/
theorem names_removal_of_none {layer : Layer} {key language : String}
    (hnone : ∀ other, other ≠ key → layer.get? other (some language) = none) :
    (layer.set key (some language) none).languages.names =
      layer.languages.names.filter (· != language) := by
  cases hblock : layer.languages.get? language with
  | none =>
    have habsent : layer.languages.erase language = layer.languages :=
      OrderedMap.erase_of_get?_eq_none hblock
    rw [← OrderedMap.names_erase, habsent]
    simp only [set, hblock]
  | some block =>
    have hempty : (block.erase key).isEmpty = true := isEmpty_erase_iff.2 fun other hother => by
      have hget := hnone other hother
      rwa [get?, hblock, Option.bind_some] at hget
    simp only [set, hblock]
    rw [if_pos hempty, OrderedMap.names_erase]

/-- No write leaves the block that it writes to empty. -/
theorem isEmpty_languages_set {layer : Layer} {key language : String} {value : Option Value}
    {block : Block}
    (hblock : (layer.set key (some language) value).languages.get? language = some block) :
    block.isEmpty = false := by
  cases value with
  | some value =>
    rw [set, OrderedMap.get?_set, if_pos rfl] at hblock
    obtain rfl := Option.some.inj hblock
    exact OrderedMap.isEmpty_set ..
  | none =>
    rw [languages_removal, Option.filter_eq_some_iff] at hblock
    simpa using hblock.2

/-- **The blocks after a write** for a language. -/
theorem blocksAfter_of_language (layer : Layer) (key language : String) (value : Option Value) :
    layer.BlocksAfter (layer.set key (some language) value) key (some language) value where
  general h := absurd h (by simp)
  others other hother := languages_set_of_ne layer key value fun heq => hother (congrArg some heq)
  set l v hl hvalue := by
    obtain rfl := Option.some.inj hl
    subst hvalue
    exact OrderedMap.names_set ..
  kept l other v hl hvalue hother hget := by
    obtain rfl := Option.some.inj hl
    subst hvalue
    exact names_removal_of_other hother hget
  dropped l hl hvalue hnone := by
    obtain rfl := Option.some.inj hl
    subst hvalue
    exact names_removal_of_none hnone
  nonempty l block hl hblock := by
    obtain rfl := Option.some.inj hl
    exact isEmpty_languages_set hblock

/-- **The blocks after a write** to a layer. -/
theorem blocksAfter (layer : Layer) (key : String) (language : Option String)
    (value : Option Value) :
    layer.BlocksAfter (layer.set key language value) key language value := by
  cases language with
  | some language => exact blocksAfter_of_language layer key language value
  | none =>
    have hsame := languages_set_general layer key value
    exact ⟨fun _ => hsame, fun _ _ => by rw [hsame], fun _ _ h => absurd h (by simp),
      fun _ _ _ h => absurd h (by simp), fun _ h => absurd h (by simp),
      fun _ _ h => absurd h (by simp)⟩

end Layer

/-! ## Writes -/

/-- The second settings are the first ones after a value was written, or removed, at one place. -/
structure IsWrite (s s' : Settings) (scope : Scope) (key : String) (language : Option String)
    (value : Option Value) : Prop where
  /-- It counts as one change. -/
  version : s'.version = s.version + 1
  /-- The value is at its place, and every other place is as it was. -/
  raw : ∀ scope' key' language', s'.raw? scope' key' language' =
    if scope = scope' ∧ key = key' ∧ language = language' then value
    else s.raw? scope' key' language'
  /-- A read of another key, or one that does not see the place, is as it was. -/
  unseen : ∀ key' reader, ¬ (key' = key ∧ IsSeen (scope, language) reader) →
    s'.value? key' reader = s.value? key' reader
  /-- What was written counts if no stronger spot has a value. -/
  shown : ∀ reader v, value = some v → IsSeen (scope, language) reader →
    (∀ stronger, IsSeen stronger reader → IsStronger stronger (scope, language) →
      s.held key stronger = none) → s'.value? key reader = some v
  /-- Otherwise the read is as it was. -/
  hidden : ∀ reader v stronger w, value = some v → IsSeen stronger reader →
    IsStronger stronger (scope, language) → s.held key stronger = some w →
      s'.value? key reader = s.value? key reader
  /-- After a removal the value at the strongest spot that remains counts. -/
  removed : ∀ reader w, value = none → (s'.value? key reader = some w ↔
    IsStrongest (fun spot => if spot = (scope, language) then none else s.held key spot) reader w)
  /-- The layers of the other scopes are as they were. -/
  others : ∀ other, other ≠ scope → s'.layers.get? other = s.layers.get? other
  /-- Of the layer that is written only settings change, and a block only as far as need be. -/
  blocks : ∃ layer layer', s.layers.get? scope = some layer ∧ s'.layers.get? scope = some layer' ∧
    layer'.filePath = layer.filePath ∧ layer'.readOnly = layer.readOnly ∧
    layer.BlocksAfter layer' key language value

variable {s s' : Settings} {scope : Scope} {key : String} {language : Option String}
  {value : Option Value}

/-- What is held at a spot after a write. -/
theorem held_setRaw (h : s.setRaw scope key language value = .ok s') (spot : Spot) :
    s'.held key spot = if spot = (scope, language) then value else s.held key spot := by
  rw [held, raw?_setRaw h]
  by_cases hspot : spot = (scope, language)
  · subst hspot
    simp
  · rw [if_neg hspot, if_neg fun heq => hspot (Prod.ext heq.1.symm heq.2.2.symm), held]

theorem value?_setRaw_of_unseen (h : s.setRaw scope key language value = .ok s') {key' : String}
    {reader : Option String} (hunseen : ¬ (key' = key ∧ IsSeen (scope, language) reader)) :
    s'.value? key' reader = s.value? key' reader := by
  have hsame : ∀ spot, IsSeen spot reader → s'.held key' spot = s.held key' spot := by
    intro spot hseen
    rw [held, raw?_setRaw h, if_neg, held]
    rintro ⟨rfl, rfl, rfl⟩
    exact hunseen ⟨rfl, hseen⟩
  refine Option.ext fun w => ?_
  rw [value?_eq_some_iff, value?_eq_some_iff]
  exact ⟨fun hw => hw.congr fun spot hseen => (hsame spot hseen).symm, fun hw => hw.congr hsame⟩

theorem value?_setRaw_of_shown {v : Value} (h : s.setRaw scope key language (some v) = .ok s')
    {reader : Option String} (hseen : IsSeen (scope, language) reader)
    (hnone : ∀ stronger, IsSeen stronger reader → IsStronger stronger (scope, language) →
      s.held key stronger = none) : s'.value? key reader = some v := by
  rw [value?_eq_some_iff]
  refine ⟨(scope, language), hseen, ?_, fun stronger hstronger hbefore => ?_⟩
  · rw [held_setRaw h, if_pos rfl]
  · rw [held_setRaw h, if_neg hbefore.ne]
    exact hnone stronger hstronger hbefore

theorem value?_setRaw_of_hidden (h : s.setRaw scope key language value = .ok s')
    {reader : Option String} {stronger : Spot} {w : Value} (hseen : IsSeen stronger reader)
    (hbefore : IsStronger stronger (scope, language)) (hheld : s.held key stronger = some w) :
    s'.value? key reader = s.value? key reader := by
  have hsame : ∀ spot, spot ≠ (scope, language) → s'.held key spot = s.held key spot :=
    fun spot hspot => by rw [held_setRaw h, if_neg hspot]
  have hheld' : s'.held key stronger = some w := (hsame stronger hbefore.ne).trans hheld
  refine Option.ext fun found => ?_
  rw [value?_eq_some_iff, value?_eq_some_iff]
  constructor
  · exact fun hfound => hfound.congr_behind hseen hbefore hheld' fun spot hspot =>
      (hsame spot hspot).symm
  · exact fun hfound => hfound.congr_behind hseen hbefore hheld hsame

/-- **A write that succeeds** is one. -/
theorem isWrite_of_setRaw (h : s.setRaw scope key language value = .ok s') :
    IsWrite s s' scope key language value := by
  obtain ⟨layer, hlayer, -, hs'⟩ := setRaw_eq_ok_iff.1 h
  constructor
  case version => rw [hs', setLayer]
  case raw => exact raw?_setRaw h
  case unseen => exact fun key' reader => value?_setRaw_of_unseen h
  case shown =>
    rintro reader v rfl
    exact value?_setRaw_of_shown h
  case hidden => exact fun reader v stronger w _ => value?_setRaw_of_hidden h
  case removed =>
    rintro reader w rfl
    rw [value?_eq_some_iff]
    have hheld : s'.held key =
        fun spot => if spot = (scope, language) then none else s.held key spot :=
      funext (held_setRaw h)
    rw [hheld]
  case others =>
    intro other hother
    rw [hs', setLayer, PerScope.get?_set, if_neg (Ne.symm hother)]
  case blocks =>
    refine ⟨layer, layer.set key language value, hlayer, ?_, layer.filePath_set ..,
      layer.readOnly_set .., layer.blocksAfter ..⟩
    rw [hs', setLayer, PerScope.get?_set, if_pos rfl]

/-- A write is refused exactly where there is no layer or one that must not be written. -/
theorem setRaw_eq_error_iff {e : WriteError} :
    s.setRaw scope key language value = .error e ↔
      (e = .scopeUnavailable scope ∧ s.layers.get? scope = none) ∨
        e = .readOnly scope ∧
          ∃ layer, s.layers.get? scope = some layer ∧ layer.readOnly = true := by
  rw [setRaw]
  cases hlayer : s.layers.get? scope with
  | none =>
    constructor
    · intro h
      exact .inl ⟨(Except.error.inj h).symm, rfl⟩
    · rintro (⟨rfl, -⟩ | ⟨-, layer, h, -⟩)
      · rfl
      · exact absurd h (by simp)
  | some layer =>
    dsimp only
    split
    · next hreadOnly =>
      constructor
      · intro h
        exact .inr ⟨(Except.error.inj h).symm, layer, rfl, hreadOnly⟩
      · rintro (⟨-, h⟩ | ⟨rfl, -⟩)
        · exact absurd h (by simp)
        · rfl
    · next hwritable =>
      refine iff_of_false (by simp) ?_
      rintro (⟨-, h⟩ | ⟨-, other, h, hreadOnly⟩)
      · exact absurd h (by simp)
      · exact hwritable (Option.some.inj h ▸ hreadOnly)

end Settings

namespace Action

open Settings (IsWrite WriteError)

theorem writeSetting_of_error {scope : Scope} {key : String} {language : Option String}
    {value : Option Value} {s : Session} {e : WriteError}
    (h : s.app.settings.setRaw scope key language value = .error e) :
    writeSetting scope key language value s = (.error e, s) := by
  rw [writeSetting, bind_apply, settings_apply, h]
  rfl

theorem writeSetting_of_ok {scope : Scope} {key : String} {language : Option String}
    {value : Option Value} {s : Session} {after : Settings}
    (h : s.app.settings.setRaw scope key language value = .ok after) :
    writeSetting scope key language value s =
      (.ok (), { s with app := { s.app with settings := after } }) := by
  rw [writeSetting, bind_apply, settings_apply, h]
  rfl

/-- **A write to the settings of the editor** is refused exactly if the scope has no layer or one
that must not be written, and changes nothing then.  Otherwise it changes the one place, every read
that sees it as the order of spots says, and nothing else. -/
theorem writeSetting_obeys (scope : Scope) (key : String) (language : Option String)
    (value : Option Value) (s : Session) :
    let before := s.app.settings
    let result := writeSetting scope key language value s
    (∀ e, result.1 = .error e ↔
        (e = .scopeUnavailable scope ∧ before.layers.get? scope = none) ∨
          e = .readOnly scope ∧
            ∃ layer, before.layers.get? scope = some layer ∧ layer.readOnly = true) ∧
      (∀ e, result.1 = .error e → result.2 = s) ∧
      (result.1 = .ok () → ∃ after, IsWrite before after scope key language value ∧
        result.2 = { s with app := { s.app with settings := after } }) := by
  intro before result
  cases hwrite : before.setRaw scope key language value with
  | error e =>
    have hresult : result = (.error e, s) := writeSetting_of_error hwrite
    rw [hresult]
    refine ⟨fun e' => ?_, fun _ _ => rfl, fun h => absurd h (by simp)⟩
    rw [← Settings.setRaw_eq_error_iff, hwrite]
    simp only [Except.error.injEq]
  | ok after =>
    have hresult : result = (.ok (), { s with app := { s.app with settings := after } }) :=
      writeSetting_of_ok hwrite
    rw [hresult]
    refine ⟨fun e' => ?_, fun e' h => absurd h (by simp), fun _ => ⟨after, ?_, rfl⟩⟩
    · rw [← Settings.setRaw_eq_error_iff, hwrite]
      simp only [reduceCtorEq]
    · exact Settings.isWrite_of_setRaw hwrite

end Action

end FormatChain
