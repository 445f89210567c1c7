import FormatChain.Proofs.Settings.Effective
import FormatChain.Proofs.Settings.Writing

/-!
# What a key reads as

A key may have values at many spots.  It is read at the spots that count, in their order: the first
one that has a value decides, and if that value is of another shape than the key asks for, nothing
is read.  So a value of the wrong shape hides the values behind it.

* `Json.Value.text?`, `Json.Value.texts?`, `Json.Value.textMap?` : texts, texts in order and texts
  by name.
* `Settings.Spot`, `Settings.spots`, `Settings.spotsFor` : where a key may have a value.
* `Settings.reading` : what a key reads as.
* `Settings.value_readOrWarn_for`, `Settings.value_readOrWarn_none` : what is read with a warning.
* `Settings.behind?` : the value behind one that counts.
* `Settings.reading_cases` : what a key reads as without a value of the wrong shape.
-/

namespace FormatChain

open FormatChain.Json
open FormatChain.Settings (Scope)

namespace Json

/-! ## Texts -/

/-- The text that a value is. -/
def Value.text? : Value → Option String
  | .string text => some text
  | _ => none

/-- The texts of a list of nothing else. -/
def Value.texts? : Value → Option (List String)
  | .array items => items.mapM Value.text?
  | _ => none

/-- A name with the text that its value is. -/
def namedText? (field : String × Value) : Option (String × String) :=
  field.2.text?.map (field.1, ·)

/-- The texts by name of a mapping to nothing else. -/
def Value.textMap? : Value → Option (OrderedMap String)
  | .object fields => (fields.mapM namedText?).map OrderedMap.ofEntries
  | _ => none

/-- What a decoder makes of a value, if anything. -/
def Decoder.view {α : Type} (decode : Decoder α) (value : Value) : Option α :=
  (decode value).toOption

theorem view_decodeString : Decoder.view decodeString = Value.text? := by
  funext value
  cases value <;> rfl

theorem toOption_mapM {α β ε : Type} (f : α → Except ε β) (items : List α) :
    (items.mapM f).toOption = items.mapM fun item => (f item).toOption := by
  induction items with
  | nil => rfl
  | cons item rest ih =>
    rw [toOption_mapM_cons, ih, List.mapM_cons]
    cases (f item).toOption with
    | none => rfl
    | some b =>
      cases rest.mapM fun item => (f item).toOption with
      | none => rfl
      | some bs => rfl

theorem view_decodeStrings : Decoder.view decodeStrings = Value.texts? := by
  funext value
  cases value with
  | array items =>
    change (items.mapM decodeString).toOption = items.mapM Value.text?
    rw [toOption_mapM, ← view_decodeString]
    rfl
  | _ => rfl

theorem toOption_decodeFields (fields : List (String × Value)) :
    (decodeFields decodeString fields).toOption = fields.mapM namedText? := by
  induction fields with
  | nil => rfl
  | cons field rest ih =>
    obtain ⟨name, value⟩ := field
    have htext : (decodeString value).toOption = value.text? := congrFun view_decodeString value
    rw [List.mapM_cons, ← ih, namedText?, ← htext, decodeFields]
    cases decodeString value with
    | error e => rfl
    | ok text =>
      cases decodeFields decodeString rest with
      | error e => rfl
      | ok others => rfl

theorem view_decodeStringMap : Decoder.view decodeStringMap = Value.textMap? := by
  funext value
  cases value with
  | object fields =>
    rw [Value.textMap?, ← toOption_decodeFields]
    change ((decodeFields decodeString fields).map OrderedMap.ofEntries).toOption = _
    cases decodeFields decodeString fields with
    | error e => rfl
    | ok entries => rfl
  | _ => rfl

end Json

namespace Settings

variable {α : Type}

/-! ## Spots -/

/-- Where a key may have a value: at a scope, in general or for a language. -/
abbrev Spot := Scope × Option String

/-- The spots in general, or for a language, narrowest first. -/
def spots (language : Option String) : List Spot := Scope.all.reverse.map (·, language)

/-- The spots that count for a language: those for it, and behind them those in general. -/
def spotsFor (language : String) : List Spot := spots (some language) ++ spots none

theorem mem_spots {language : Option String} {spot : Spot} :
    spot ∈ spots language ↔ spot.2 = language := by
  obtain ⟨scope, other⟩ := spot
  cases scope <;> simp [spots, Scope.all, eq_comm]

theorem nodup_spots (language : Option String) : (spots language).Nodup := by
  simp [spots, Scope.all]

theorem nodup_spotsFor (language : String) : (spotsFor language).Nodup := by
  refine List.nodup_append.2 ⟨nodup_spots _, nodup_spots _, fun spot hspot other hother heq => ?_⟩
  rw [mem_spots] at hspot hother
  rw [heq, hother] at hspot
  exact absurd hspot (by simp)

/-- The value at the first of the spots that has one. -/
def firstValue? (s : Settings) (key : String) (among : List Spot) : Option Value :=
  among.findSome? fun spot => s.raw? spot.1 key spot.2

/-- What a key reads as: the value that is met first, if it is of the right shape. -/
def reading (s : Settings) (view : Value → Option α) (key : String) (among : List Spot) :
    Option α :=
  (s.firstValue? key among).bind view

theorem firstValue?_spots (s : Settings) (key : String) (language : Option String) :
    s.firstValue? key (spots language) = narrowest? fun scope => s.raw? scope key language := by
  rw [firstValue?, spots, List.findSome?_map]
  rfl

/-- **The value that counts for a language** is the first one at its spots. -/
theorem value?_for (s : Settings) (key language : String) :
    s.value? key (some language) = s.firstValue? key (spotsFor language) := by
  rw [value?_eq, Option.bind_some, ← firstValue?_spots, ← firstValue?_spots]
  simp only [firstValue?, spotsFor, List.findSome?_append, Option.orElse_eq_orElse,
    Option.orElse_eq_or]

theorem value?_none (s : Settings) (key : String) :
    s.value? key none = s.firstValue? key (spots none) := by
  rw [value?_eq, Option.bind_none, ← firstValue?_spots]
  rfl

/-! ## Reading with a warning -/

theorem value_decodeOrWarn (decode : Decoder α) (key : String) (value : Value) :
    (decodeOrWarn decode key value).value = decode.view value := by
  rw [decodeOrWarn, decodeValue, Decoder.view]
  cases decode value with
  | error e => rfl
  | ok a => rfl

theorem value_readOrWarn_eq (s : Settings) (decode : Decoder α) (key : String)
    (language : Option String) :
    (s.readOrWarn decode key language).value = (s.value? key language).bind decode.view := by
  rw [value_readOrWarn, read]
  cases s.value? key language with
  | none => rfl
  | some value =>
    change ((decodeValue decode key value).map some).toOption.join = (decode value).toOption
    rw [toOption_map_decodeValue]
    cases (decode value).toOption <;> rfl

theorem value_readOrWarn_for (s : Settings) (decode : Decoder α) (key language : String) :
    (s.readOrWarn decode key (some language)).value =
      s.reading decode.view key (spotsFor language) := by
  rw [value_readOrWarn_eq, value?_for, reading]

theorem value_readOrWarn_none (s : Settings) (decode : Decoder α) (key : String) :
    (s.readOrWarn decode key none).value = s.reading decode.view key (spots none) := by
  rw [value_readOrWarn_eq, value?_none, reading]

/-! ## Without an entry -/

/-- The settings without the entry of a key at a spot. -/
def withoutEntry (s : Settings) (key : String) (spot : Spot) : Settings :=
  match s.layers.get? spot.1 with
  | none => s
  | some layer => s.setLayer spot.1 (layer.set key spot.2 none)

theorem raw?_withoutEntry (s : Settings) (key : String) (spot : Spot) (scope : Scope)
    (key' : String) (language : Option String) :
    (s.withoutEntry key spot).raw? scope key' language =
      if key = key' ∧ spot = (scope, language) then none else s.raw? scope key' language := by
  obtain ⟨scope', language'⟩ := spot
  rw [withoutEntry]
  cases hlayer : s.layers.get? scope' with
  | none =>
    simp only
    split
    · next h =>
      obtain ⟨rfl, rfl⟩ := Prod.mk.inj h.2
      rw [raw?, hlayer, Option.bind_none]
    · rfl
  | some layer =>
    by_cases hscope : scope' = scope
    · subst hscope
      simp [raw?, setLayer, PerScope.get?_set, hlayer, Layer.get?_set]
    · simp [raw?, setLayer, PerScope.get?_set, hscope]

variable {s : Settings} {key : String} {spot : Spot} {among : List Spot}
  {view : Value → Option α} {value : Value}

theorem raw?_withoutEntry_of_ne {other : Spot} (h : other ≠ spot) :
    (s.withoutEntry key spot).raw? other.1 key other.2 = s.raw? other.1 key other.2 := by
  rw [raw?_withoutEntry, if_neg fun hspot => h hspot.2.symm]

theorem reading_withoutEntry_of_ne {key' : String} (h : key ≠ key') (view : Value → Option α)
    (among : List Spot) :
    (s.withoutEntry key spot).reading view key' among = s.reading view key' among := by
  simp only [reading, firstValue?, raw?_withoutEntry, h, false_and, if_false]

theorem firstValue?_withoutEntry_of_not_mem (h : spot ∉ among) :
    (s.withoutEntry key spot).firstValue? key among = s.firstValue? key among := by
  induction among with
  | nil => rfl
  | cons first rest ih =>
    obtain ⟨hfirst, hrest⟩ := not_or.1 (fun hor => h (List.mem_cons.2 hor))
    rw [firstValue?, firstValue?, List.findSome?_cons, List.findSome?_cons,
      raw?_withoutEntry_of_ne (Ne.symm hfirst)]
    cases s.raw? first.1 key first.2 with
    | some value => rfl
    | none => exact ih hrest

/-- The value behind an entry that counts at the spots: the first one after it. If the entry does
not count there is none. -/
def behind? (s : Settings) (key : String) (spot : Spot) : List Spot → Option Value
  | [] => none
  | first :: rest =>
    match s.raw? first.1 key first.2 with
    | none => behind? s key spot rest
    | some _ => if first = spot then s.firstValue? key rest else none

/-- **Without an entry of the wrong shape** a key reads as what is behind the entry, if the entry
counts, and as nothing with it; if the entry does not count, it is of no consequence. -/
theorem reading_cases (hvalue : s.raw? spot.1 key spot.2 = some value) (hshape : view value = none)
    (hnodup : among.Nodup) :
    (s.reading view key among = none ∧
        (s.withoutEntry key spot).reading view key among =
          (s.behind? key spot among).bind view) ∨
      ((s.withoutEntry key spot).reading view key among = s.reading view key among ∧
        s.behind? key spot among = none) := by
  induction among with
  | nil => exact .inr ⟨rfl, rfl⟩
  | cons first rest ih =>
    obtain ⟨hnew, hrest⟩ := List.nodup_cons.1 hnodup
    simp only [reading, firstValue?, List.findSome?_cons, behind?] at ih ⊢
    by_cases heq : first = spot
    · subst heq
      have hgone : (s.withoutEntry key first).raw? first.1 key first.2 = none := by
        rw [raw?_withoutEntry, if_pos ⟨rfl, rfl⟩]
      have hbehind : (s.withoutEntry key first).firstValue? key rest = s.firstValue? key rest :=
        firstValue?_withoutEntry_of_not_mem hnew
      rw [firstValue?, firstValue?] at hbehind
      rw [hvalue, hgone]
      refine .inl ⟨hshape, ?_⟩
      simp only [if_true, hbehind]
    · rw [raw?_withoutEntry_of_ne heq]
      cases s.raw? first.1 key first.2 with
      | none => exact ih hrest
      | some other => exact .inr ⟨rfl, by simp [heq]⟩

/-- An entry of the wrong shape is of no consequence for a key that has nothing of the right shape
right behind it. -/
theorem reading_withoutEntry (hvalue : s.raw? spot.1 key spot.2 = some value)
    (hshape : view value = none) (hnodup : among.Nodup)
    (hbehind : (s.behind? key spot among).bind view = none) :
    (s.withoutEntry key spot).reading view key among = s.reading view key among := by
  rcases reading_cases hvalue hshape hnodup with ⟨hnone, hrest⟩ | ⟨hsame, -⟩
  · rw [hrest, hbehind, hnone]
  · exact hsame

/-- An entry of the wrong shape hides what is right behind it. -/
theorem reading_of_behind (hvalue : s.raw? spot.1 key spot.2 = some value)
    (hshape : view value = none) (hnodup : among.Nodup) {a : α}
    (hbehind : (s.behind? key spot among).bind view = some a) :
    s.reading view key among = none ∧
      (s.withoutEntry key spot).reading view key among = some a := by
  rcases reading_cases hvalue hshape hnodup with ⟨hnone, hrest⟩ | ⟨-, hnothing⟩
  · exact ⟨hnone, hrest.trans hbehind⟩
  · rw [hnothing] at hbehind
    exact absurd hbehind (by simp)

end Settings

end FormatChain
