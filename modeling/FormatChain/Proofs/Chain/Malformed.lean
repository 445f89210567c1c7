import FormatChain.Proofs.Chain.Resolving
import Mathlib.Logic.Function.Basic

/-!
# Values of the wrong shape

What a language's settings come to is whether chains run for it, its chain, and how the chain runs.
A value of the wrong shape is reported and not used.  But it still is the value that is met first,
so it hides the value right behind it: without it that value would be read.  This is the only
difference to settings in which the value is absent.

* `ResolvedKey` : the keys that are read, with what their values are read as and where.
* `Resolved`, `resolved` : what the settings of a language come to.
* `Settings.runOptions` : how a chain runs, in the words of the settings.
* `Settings.reading_withoutEntry_iff` : what depends on a reading, without an entry.
* `Settings.Matters` : what is read for a key makes a difference to having nothing to read.
* `resolved_withoutEntry_iff` : when a value of the wrong shape is treated as absent.
-/

namespace FormatChain

open FormatChain.Json
open FormatChain.Settings (Spot)

/-! ## What is read -/

/-- A key that is read for the chain of a language. -/
inductive ResolvedKey where
  /-- The languages that chains run for. -/
  | languages
  /-- The formatters of a chain. -/
  | formatters
  /-- The families of languages. -/
  | languageFamilies
  /-- The editor's formatter. -/
  | defaultFormatter
  /-- The pause after each write and each formatter. -/
  | formatterDelay
  /-- How often to look whether a formatter became the active one. -/
  | activationPollAttempts
  /-- The pause between two looks. -/
  | activationPollInterval
  /-- Whether to save after each formatter. -/
  | saveAfterEachFormatter
  /-- Whether to save after the chain. -/
  | saveAfterChain
  deriving Repr, DecidableEq

namespace ResolvedKey

/-- The name of a key in the settings. -/
def name : ResolvedKey → String
  | languages => Settings.Key.languages
  | formatters => Settings.Key.formatters
  | languageFamilies => Settings.Key.languageFamilies
  | defaultFormatter => Settings.Key.defaultFormatter
  | formatterDelay => Settings.Key.formatterDelay
  | activationPollAttempts => Settings.Key.activationPollAttempts
  | activationPollInterval => Settings.Key.activationPollInterval
  | saveAfterEachFormatter => Settings.Key.saveAfterEachFormatter
  | saveAfterChain => Settings.Key.saveAfterChain

/-- What the values of a key are read as. -/
abbrev Content : ResolvedKey → Type
  | languages | formatters => List String
  | languageFamilies => OrderedMap String
  | defaultFormatter => String
  | formatterDelay | activationPollAttempts | activationPollInterval => Nat
  | saveAfterEachFormatter | saveAfterChain => Bool

/-- How a value of a key is read. -/
def decoder : (key : ResolvedKey) → Decoder key.Content
  | languages => decodeStrings
  | formatters => decodeStrings
  | languageFamilies => decodeStringMap
  | defaultFormatter => decodeString
  | formatterDelay => decodeWord 64
  | activationPollAttempts => decodeWord 32
  | activationPollInterval => decodeWord 64
  | saveAfterEachFormatter => decodeBool
  | saveAfterChain => decodeBool

/-- The spots among which an entry of a key is looked for when a language is resolved. A list of
formatters is looked for among those of the same language, or among the general ones. -/
def spots (key : ResolvedKey) (language : String) (entry : Spot) : List Spot :=
  match key with
  | languages | languageFamilies => Settings.spots none
  | formatters => Settings.spots entry.2
  | _ => Settings.spotsFor language

end ResolvedKey

/-- What the settings of a language come to. -/
structure Resolved where
  /-- Whether chains run for the language. -/
  enabled : Bool
  /-- The chain. -/
  chain : Chain
  /-- How it runs. -/
  options : RunOptions
  deriving Repr, DecidableEq

/-- What the settings come to for a language. -/
def resolved (s : Settings) (language : String) : Resolved where
  enabled := (isLanguageEnabled s language).value
  chain := (resolveChain s language).value
  options := (resolveRunOptions s language).value

namespace Settings

/-- How the chain of a language runs. -/
def runOptions (s : Settings) (language : String) : RunOptions where
  delay := clamp 10 5000
    ((s.reading (Decoder.view (decodeWord 64)) Key.formatterDelay (spotsFor language)).getD 100)
  saveAfterEach :=
    (s.reading (Decoder.view decodeBool) Key.saveAfterEachFormatter (spotsFor language)).getD false
  saveAfterChain :=
    (s.reading (Decoder.view decodeBool) Key.saveAfterChain (spotsFor language)).getD true
  activation := {
    attempts := clamp 1 100 ((s.reading (Decoder.view (decodeWord 32)) Key.activationPollAttempts
      (spotsFor language)).getD 10)
    interval := min 1000 ((s.reading (Decoder.view (decodeWord 64)) Key.activationPollInterval
      (spotsFor language)).getD 20) }

end Settings

theorem value_resolveRunOptions (s : Settings) (language : String) :
    (resolveRunOptions s language).value = s.runOptions language := by
  simp only [resolveRunOptions, Noted.value_bind, Noted.value_pure, Settings.value_readOrWarn_for]
  rfl

theorem resolved_eq_iff {s s' : Settings} {language : String} :
    resolved s' language = resolved s language ↔
      (s'.Allows language ↔ s.Allows language) ∧ s'.chainIds language = s.chainIds language ∧
        s'.runOptions language = s.runOptions language := by
  have hchain : (resolveChain s' language).value = (resolveChain s language).value ↔
      s'.chainIds language = s.chainIds language := by
    rw [← ids_resolveChain, ← ids_resolveChain]
    exact ⟨congrArg Chain.ids, Chain.eq_of_ids⟩
  rw [resolved, resolved, Resolved.mk.injEq, hchain, value_isLanguageEnabled,
    value_isLanguageEnabled, value_resolveRunOptions, value_resolveRunOptions, decide_eq_decide]

/-! ## What lies behind an entry -/

namespace Settings

variable {s : Settings} {key : String} {spot : Spot} {value : Value}

/-- **What depends on a reading** is the same without an entry of the wrong shape, unless something
of the right shape lies behind the entry that makes a difference to having nothing to read. -/
theorem reading_withoutEntry_iff {α β : Type} {view : Value → Option α} {among : List Spot}
    (hvalue : s.raw? spot.1 key spot.2 = some value) (hshape : view value = none)
    (hnodup : among.Nodup) (f : Option α → β) {matters : α → Prop}
    (hmatters : s.reading view key among = none → ∀ a, f (some a) ≠ f none ↔ matters a) :
    f ((s.withoutEntry key spot).reading view key among) = f (s.reading view key among) ↔
      ¬ ∃ a, (s.behind? key spot among).bind view = some a ∧ matters a := by
  cases hbehind : (s.behind? key spot among).bind view with
  | none =>
    rw [reading_withoutEntry hvalue hshape hnodup hbehind]
    simp
  | some a =>
    obtain ⟨hnone, hrest⟩ := reading_of_behind hvalue hshape hnodup hbehind
    rw [hrest, hnone, ← not_iff_not, not_not, ← ne_eq, hmatters hnone a]
    simp

/-- The formatters of the first place that lists some, if one of the places lists these. -/
def listedWith (s : Settings) (places : List (Option String)) (place : Option String)
    (ids : List String) : List String :=
  ((places.map (Function.update s.listedAt place ids)).find? (· ≠ [])).getD []

theorem listedWith_self (places : List (Option String)) (place : Option String) :
    s.listedWith places place (s.listedAt place) = s.listedFrom places := by
  rw [listedWith, Function.update_eq_self, listedFrom]

/-- If a place that lists nothing lists formatters instead, they are the first ones listed if no
place before it lists any. -/
theorem listedWith_eq {places : List (Option String)} {place : Option String}
    (hplace : s.listedAt place = []) (ids : List String) :
    s.listedWith places place ids =
      if place ∈ places ∧ (∀ other ∈ places.takeWhile (· ≠ place), s.listedAt other = []) ∧ ids ≠ []
      then ids else s.listedFrom places := by
  by_cases hids : ids = []
  · have hself := s.listedWith_self places place
    rw [hplace] at hself
    rw [if_neg fun h => h.2.2 hids, hids, hself]
  · rw [listedWith, listedFrom]
    induction places with
    | nil => simp
    | cons first rest ih =>
      by_cases hfirst : first = place
      · simp [hfirst, hids]
      · by_cases hlisted : s.listedAt first = []
        · simpa [hfirst, hlisted, Ne.symm hfirst] using ih
        · simp [hfirst, hlisted]

/-! ## Without an entry of another key -/

theorem allows_withoutEntry (h : key ≠ Key.languages) (language : String) :
    (s.withoutEntry key spot).Allows language ↔ s.Allows language := by
  rw [Allows, Allows, allowList, allowList, reading_withoutEntry_of_ne h]

theorem leading_withoutEntry (h : key ≠ Key.defaultFormatter) (language : String) :
    (s.withoutEntry key spot).leading language = s.leading language := by
  rw [leading, leading, reading_withoutEntry_of_ne h]

theorem familyOf?_withoutEntry (h : key ≠ Key.languageFamilies) (language : String) :
    (s.withoutEntry key spot).familyOf? language = s.familyOf? language := by
  rw [familyOf?, familyOf?, reading_withoutEntry_of_ne h]

theorem listedFrom_withoutEntry (h : key ≠ Key.formatters) (places : List (Option String)) :
    (s.withoutEntry key spot).listedFrom places = s.listedFrom places := by
  have hlisted : (s.withoutEntry key spot).listedAt = s.listedAt := by
    funext place
    rw [listedAt, listedAt, reading_withoutEntry_of_ne h]
  rw [listedFrom, listedFrom, hlisted]

/-- Without a list of formatters other ones are listed at its place. -/
theorem listedFrom_withoutEntry_formatters (places : List (Option String)) :
    (s.withoutEntry Key.formatters spot).listedFrom places =
      s.listedWith places spot.2 ((s.withoutEntry Key.formatters spot).listedAt spot.2) := by
  have hlisted : (s.withoutEntry Key.formatters spot).listedAt = Function.update s.listedAt spot.2
      ((s.withoutEntry Key.formatters spot).listedAt spot.2) := by
    funext place
    by_cases hplace : place = spot.2
    · rw [hplace, Function.update_self]
    · rw [Function.update_of_ne hplace, listedAt, listedAt, reading, reading,
        firstValue?_withoutEntry_of_not_mem fun hspot => hplace (mem_spots.1 hspot).symm]
  rw [listedWith, ← hlisted, listedFrom]

theorem listedFor_withoutEntry (hfamilies : key ≠ Key.languageFamilies)
    (hformatters : key ≠ Key.formatters) (language : String) :
    (s.withoutEntry key spot).listedFor language = s.listedFor language := by
  rw [listedFor, listedFor, familyOf?_withoutEntry hfamilies, listedFrom_withoutEntry hformatters]

theorem runOptions_withoutEntry (hkey : ∀ option ∈ [Key.formatterDelay,
      Key.activationPollAttempts, Key.activationPollInterval, Key.saveAfterEachFormatter,
      Key.saveAfterChain], key ≠ option) (language : String) :
    (s.withoutEntry key spot).runOptions language = s.runOptions language := by
  simp only [List.forall_mem_cons] at hkey
  obtain ⟨hdelay, hattempts, hinterval, heach, hchain, -⟩ := hkey
  simp only [runOptions, reading_withoutEntry_of_ne hdelay, reading_withoutEntry_of_ne hattempts,
    reading_withoutEntry_of_ne hinterval, reading_withoutEntry_of_ne heach,
    reading_withoutEntry_of_ne hchain]

/-- An entry that chains do not depend on makes a difference to how they run only. -/
theorem resolved_iff_of_option (hkey : ∀ other ∈ [Key.languages, Key.formatters,
      Key.languageFamilies, Key.defaultFormatter], key ≠ other) (language : String) :
    resolved (s.withoutEntry key spot) language = resolved s language ↔
      (s.withoutEntry key spot).runOptions language = s.runOptions language := by
  simp only [List.forall_mem_cons] at hkey
  obtain ⟨hlanguages, hformatters, hfamilies, hdefault, -⟩ := hkey
  have hallows : (s.withoutEntry key spot).Allows language ↔ s.Allows language :=
    allows_withoutEntry hlanguages language
  have hchain := chainIds_congr hallows (leading_withoutEntry hdefault language)
    (listedFor_withoutEntry hfamilies hformatters language)
  rw [resolved_eq_iff]
  exact ⟨fun h => h.2.2, fun h => ⟨hallows, hchain, h⟩⟩

theorem chainIds_withoutEntry (h : key ≠ Key.languages) (language : String) :
    (s.withoutEntry key spot).chainIds language =
      if s.Allows language then (s.withoutEntry key spot).leading language ++
        (s.withoutEntry key spot).listedFor language
      else [] :=
  if_congr (allows_withoutEntry h language) rfl rfl

/-- An entry that neither the listed languages nor the way chains run depend on makes a difference
to chains only. -/
theorem resolved_iff_of_chain (hlanguages : key ≠ Key.languages)
    (hkey : ∀ option ∈ [Key.formatterDelay, Key.activationPollAttempts,
      Key.activationPollInterval, Key.saveAfterEachFormatter, Key.saveAfterChain], key ≠ option)
    (language : String) :
    resolved (s.withoutEntry key spot) language = resolved s language ↔
      (s.withoutEntry key spot).chainIds language = s.chainIds language := by
  rw [resolved_eq_iff]
  exact ⟨fun h => h.2.1, fun h =>
    ⟨allows_withoutEntry hlanguages language, h, runOptions_withoutEntry hkey language⟩⟩

/-! ## What makes a difference -/

/-- What is read for a key instead of nothing makes a difference to a language. -/
def Matters (s : Settings) (language : String) (entry : Spot) :
    (key : ResolvedKey) → key.Content → Prop
  -- languages are listed without this one
  | .languages, ids => ids ≠ [] ∧ language ∉ ids
  -- the chain takes its formatters from this list
  | .formatters, ids =>
    let places := sources language (s.familyOf? language)
    s.Allows language ∧
      (entry.2 ∈ places ∧ (∀ place ∈ places.takeWhile (· ≠ entry.2), s.listedAt place = []) ∧
        unreserved ids ≠ []) ∧
      unreserved ids ≠ s.listedFor language
  -- the chain takes its formatters from another family, or from none
  | .languageFamilies, families =>
    s.Allows language ∧
      s.listedFrom (sources language (familyFor? language (families.get? language))) ≠
        s.listedFor language
  -- the chain starts with the editor's formatter
  | .defaultFormatter, id => s.Allows language ∧ ¬ IsReservedName id
  -- the chain runs in another way than by default
  | .formatterDelay, pause => clamp 10 5000 pause ≠ 100
  | .activationPollAttempts, attempts => clamp 1 100 attempts ≠ 10
  | .activationPollInterval, pause => min 1000 pause ≠ 20
  | .saveAfterEachFormatter, save => save = true
  | .saveAfterChain, save => save = false

theorem ite_ne_ite_iff {p : Prop} [Decidable p] {α : Type} {a b c : α} :
    ((if p then a else c) ≠ if p then b else c) ↔ p ∧ a ≠ b := by
  split <;> simp_all

section Entries

variable {language : String}

theorem resolved_withoutEntry_languages (hvalue : s.raw? spot.1 Key.languages spot.2 = some value)
    (hshape : Decoder.view decodeStrings value = none) :
    resolved (s.withoutEntry Key.languages spot) language = resolved s language ↔
      ¬ ∃ ids, (s.behind? Key.languages spot (spots none)).bind (Decoder.view decodeStrings) =
        some ids ∧ s.Matters language spot .languages ids := by
  refine Iff.trans ?_ (reading_withoutEntry_iff hvalue hshape (nodup_spots none)
    (fun ids => ids.getD [] = [] ∨ language ∈ ids.getD []) fun _ ids => ?_)
  · rw [view_decodeStrings, resolved_eq_iff]
    refine ⟨fun h => propext h.1, fun h => ?_⟩
    have hallows : (s.withoutEntry Key.languages spot).Allows language ↔ s.Allows language :=
      iff_of_eq h
    exact ⟨hallows, chainIds_congr hallows (leading_withoutEntry (by decide) language)
      (listedFor_withoutEntry (by decide) (by decide) language),
      runOptions_withoutEntry (by decide) language⟩
  · simp [Matters]

theorem resolved_withoutEntry_formatters (hvalue : s.raw? spot.1 Key.formatters spot.2 = some value)
    (hshape : Decoder.view decodeStrings value = none) :
    resolved (s.withoutEntry Key.formatters spot) language = resolved s language ↔
      ¬ ∃ ids, (s.behind? Key.formatters spot (spots spot.2)).bind (Decoder.view decodeStrings) =
        some ids ∧ s.Matters language spot .formatters ids := by
  refine Iff.trans ?_ (reading_withoutEntry_iff hvalue hshape (nodup_spots spot.2)
    (fun ids => if s.Allows language then s.leading language ++
        s.listedWith (sources language (s.familyOf? language)) spot.2 (unreserved (ids.getD []))
      else []) fun hnone ids => ?_)
  · have hchain : s.chainIds language =
        if s.Allows language then s.leading language ++
          s.listedWith (sources language (s.familyOf? language)) spot.2 (s.listedAt spot.2)
        else [] := by
      rw [listedWith_self]
      rfl
    rw [view_decodeStrings, resolved_iff_of_chain (by decide) (by decide), hchain,
      chainIds_withoutEntry (by decide), leading_withoutEntry (by decide), listedFor,
      familyOf?_withoutEntry (by decide), listedFrom_withoutEntry_formatters]
    rfl
  · rw [view_decodeStrings] at hnone
    have hplace : s.listedAt spot.2 = [] := by
      rw [listedAt, hnone]
      rfl
    have hnothing : s.listedWith (sources language (s.familyOf? language)) spot.2 [] =
        s.listedFor language := by
      rw [← hplace, listedWith_self, listedFor]
    rw [ite_ne_ite_iff, ne_eq, List.append_cancel_left_eq, Option.getD_none, unreserved_nil,
      hnothing, listedWith_eq hplace, Option.getD_some]
    refine and_congr_right fun _ => ?_
    split
    · next hfirst => exact ⟨fun hne => ⟨hfirst, hne⟩, fun h => h.2⟩
    · next hfirst => exact ⟨fun hne => absurd rfl hne, fun h => absurd h.1 hfirst⟩

theorem resolved_withoutEntry_languageFamilies (hvalue : s.raw? spot.1 Key.languageFamilies spot.2 = some value)
    (hshape : Decoder.view decodeStringMap value = none) :
    resolved (s.withoutEntry Key.languageFamilies spot) language = resolved s language ↔
      ¬ ∃ families, (s.behind? Key.languageFamilies spot (spots none)).bind
        (Decoder.view decodeStringMap) = some families ∧
          s.Matters language spot .languageFamilies families := by
  refine Iff.trans ?_ (reading_withoutEntry_iff hvalue hshape (nodup_spots none)
    (fun families => if s.Allows language then s.leading language ++
      s.listedFrom (sources language (familyFor? language (families.bind (·.get? language))))
      else []) fun hnone families => ?_)
  · rw [view_decodeStringMap, resolved_iff_of_chain (by decide) (by decide),
      chainIds_withoutEntry (by decide), leading_withoutEntry (by decide), listedFor,
      listedFrom_withoutEntry (by decide)]
    rfl
  · rw [view_decodeStringMap] at hnone
    rw [ite_ne_ite_iff, ne_eq, List.append_cancel_left_eq, Matters, listedFor, familyOf?, hnone]
    rfl

theorem resolved_withoutEntry_defaultFormatter (hvalue : s.raw? spot.1 Key.defaultFormatter spot.2 = some value)
    (hshape : Decoder.view decodeString value = none) :
    resolved (s.withoutEntry Key.defaultFormatter spot) language = resolved s language ↔
      ¬ ∃ id, (s.behind? Key.defaultFormatter spot (spotsFor language)).bind
        (Decoder.view decodeString) = some id ∧ s.Matters language spot .defaultFormatter id := by
  refine Iff.trans ?_ (reading_withoutEntry_iff hvalue hshape (nodup_spotsFor language)
    (fun id => if s.Allows language then unreserved id.toList ++ s.listedFor language else [])
    fun _ id => ?_)
  · rw [view_decodeString, resolved_iff_of_chain (by decide) (by decide),
      chainIds_withoutEntry (by decide), listedFor_withoutEntry (by decide) (by decide)]
    rfl
  · rw [ite_ne_ite_iff, ne_eq, List.append_cancel_right_eq, Matters]
    refine and_congr_right fun _ => not_congr ?_
    change unreserved [id] = [] ↔ IsReservedName id
    simp [unreserved]

theorem resolved_withoutEntry_option {α β : Type} {view : Value → Option α} {matters : α → Prop}
    (hvalue : s.raw? spot.1 key spot.2 = some value) (hshape : view value = none)
    (hkey : ∀ other ∈ [Key.languages, Key.formatters, Key.languageFamilies, Key.defaultFormatter],
      key ≠ other) (f : Option α → β)
    (hoptions : (s.withoutEntry key spot).runOptions language = s.runOptions language ↔
      f ((s.withoutEntry key spot).reading view key (spotsFor language)) =
        f (s.reading view key (spotsFor language)))
    (hmatters : ∀ a, f (some a) ≠ f none ↔ matters a) :
    resolved (s.withoutEntry key spot) language = resolved s language ↔
      ¬ ∃ a, (s.behind? key spot (spotsFor language)).bind view = some a ∧ matters a := by
  rw [resolved_iff_of_option hkey, hoptions]
  exact reading_withoutEntry_iff hvalue hshape (nodup_spotsFor language) f fun _ => hmatters

end Entries

end Settings

/-- **When a value of the wrong shape is treated as absent.**  The settings of a language come to
the same with an entry of the wrong shape as without it, unless a value of the right shape lies
right behind the entry that makes a difference: that value is hidden. -/
theorem resolved_withoutEntry_iff {s : Settings} {key : ResolvedKey} {entry : Spot} {value : Value}
    (hvalue : s.raw? entry.1 key.name entry.2 = some value)
    (hshape : key.decoder.view value = none) (language : String) :
    resolved (s.withoutEntry key.name entry) language = resolved s language ↔
      ¬ ∃ content, (s.behind? key.name entry (key.spots language entry)).bind key.decoder.view =
        some content ∧ s.Matters language entry key content := by
  cases key with
  | languages => exact Settings.resolved_withoutEntry_languages hvalue hshape
  | formatters => exact Settings.resolved_withoutEntry_formatters hvalue hshape
  | languageFamilies => exact Settings.resolved_withoutEntry_languageFamilies hvalue hshape
  | defaultFormatter => exact Settings.resolved_withoutEntry_defaultFormatter hvalue hshape
  | formatterDelay =>
    refine Settings.resolved_withoutEntry_option hvalue hshape (by decide)
      (fun pause => clamp 10 5000 (pause.getD 100)) ?_ fun _ => Iff.rfl
    simp (disch := decide) only [Settings.runOptions, RunOptions.mk.injEq,
      Settings.reading_withoutEntry_of_ne, and_true]
    rfl
  | activationPollAttempts =>
    refine Settings.resolved_withoutEntry_option hvalue hshape (by decide)
      (fun attempts => clamp 1 100 (attempts.getD 10)) ?_ fun _ => Iff.rfl
    simp (disch := decide) only [Settings.runOptions, RunOptions.mk.injEq,
      ActivationPolicy.mk.injEq, Settings.reading_withoutEntry_of_ne, and_true, true_and]
    rfl
  | activationPollInterval =>
    refine Settings.resolved_withoutEntry_option hvalue hshape (by decide)
      (fun pause => min 1000 (pause.getD 20)) ?_ fun _ => Iff.rfl
    simp (disch := decide) only [Settings.runOptions, RunOptions.mk.injEq,
      ActivationPolicy.mk.injEq, Settings.reading_withoutEntry_of_ne, true_and]
    rfl
  | saveAfterEachFormatter =>
    refine Settings.resolved_withoutEntry_option hvalue hshape (by decide)
      (fun save => save.getD false) ?_ fun save => by cases save <;> simp [Settings.Matters]
    simp (disch := decide) only [Settings.runOptions, RunOptions.mk.injEq,
      Settings.reading_withoutEntry_of_ne, and_true, true_and]
    rfl
  | saveAfterChain =>
    refine Settings.resolved_withoutEntry_option hvalue hshape (by decide)
      (fun save => save.getD true) ?_ fun save => by cases save <;> simp [Settings.Matters]
    simp (disch := decide) only [Settings.runOptions, RunOptions.mk.injEq,
      Settings.reading_withoutEntry_of_ne, and_true, true_and]
    rfl

/-- A pause of the workspace that is no number hides the one of all workspaces, so the pause is the
default one. -/
theorem resolved_withoutEntry_hidden_delay :
    let s : Settings := { layers := {
      global := some (Settings.Layer.empty.set Settings.Key.formatterDelay none
        (some (.number (.whole 200))))
      workspace := some (Settings.Layer.empty.set Settings.Key.formatterDelay none
        (some (.string "soon"))) } }
    let entry : Spot := (.workspace, none)
    s.raw? entry.1 Settings.Key.formatterDelay entry.2 = some (.string "soon") ∧
      (decodeWord 64 (.string "soon")).toOption = none ∧
      (resolved s "rust").options.delay = 100 ∧
      (resolved (s.withoutEntry Settings.Key.formatterDelay entry) "rust").options.delay = 200 ∧
      resolved (s.withoutEntry Settings.Key.formatterDelay entry) "rust" ≠ resolved s "rust" := by
  intro s entry
  have hvalue : s.raw? entry.1 ResolvedKey.formatterDelay.name entry.2 = some (.string "soon") :=
    rfl
  have hshape : ResolvedKey.formatterDelay.decoder.view (.string "soon") = none := rfl
  have hmatters : s.Matters "rust" entry .formatterDelay (200 : Nat) := by
    change clamp 10 5000 200 ≠ 100
    decide
  refine ⟨hvalue, hshape, by decide +kernel, by decide +kernel, fun heq => ?_⟩
  exact (resolved_withoutEntry_iff hvalue hshape "rust").1 heq ⟨200, rfl, hmatters⟩

end FormatChain
