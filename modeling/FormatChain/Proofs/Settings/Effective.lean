import FormatChain.Proofs.OrderedMap
import FormatChain.Settings.Warned

/-!
# Values that count

The value of a key that counts depends on the raw values of the key alone, and what is read from a
value is the same for all values that are equal up to the order of a mapping's entries.

* `Settings.languageIds_eq` : the languages with a block, each once.
* `Settings.value?_eq` : the value that counts, from the raw values of each scope.
* `Settings.sameOption_value?` : it is the same where the raw values are.
* `Decoder.Respects` : the reading of a value does not tell equal values apart.
* `Settings.read_toOption_of_same` : reading settings whose values are the same.
-/

namespace FormatChain

open FormatChain.Json
open FormatChain.Settings (Scope)

namespace Json

/-! ## Reading equal values -/

/-- A decoder reads equal values alike, or refuses both. -/
def Decoder.Respects {α : Type} (decode : Decoder α) : Prop :=
  ∀ a b : Value, a.same b = true → (decode a).toOption = (decode b).toOption

theorem decodeBool_respects : Decoder.Respects decodeBool := by
  intro a b h
  cases a <;> cases b <;> simp_all [Value.same, decodeBool, Except.toOption]

theorem decodeString_respects : Decoder.Respects decodeString := by
  intro a b h
  cases a <;> cases b <;> simp_all [Value.same, decodeString, Except.toOption]

theorem toOption_mapM_cons {α β ε : Type} (f : α → Except ε β) (a : α) (rest : List α) :
    ((a :: rest).mapM f).toOption =
      (f a).toOption.bind fun b => (rest.mapM f).toOption.map (b :: ·) := by
  rw [List.mapM_cons]
  cases f a with
  | error e => rfl
  | ok b =>
    cases rest.mapM f with
    | error e => rfl
    | ok bs => rfl

theorem mapM_decodeString_of_same {as bs : List Value} (h : sameItems as bs = true) :
    (as.mapM decodeString).toOption = (bs.mapM decodeString).toOption := by
  induction as generalizing bs with
  | nil =>
    cases bs with
    | nil => rfl
    | cons b bs => simp [sameItems] at h
  | cons a as ih =>
    cases bs with
    | nil => simp [sameItems] at h
    | cons b bs =>
      rw [sameItems, Bool.and_eq_true] at h
      rw [toOption_mapM_cons, toOption_mapM_cons, decodeString_respects a b h.1, ih h.2]

theorem decodeStrings_respects : Decoder.Respects decodeStrings := by
  intro a b h
  cases a with
  | array as =>
    cases b with
    | array bs => exact mapM_decodeString_of_same (by simpa [Value.same] using h)
    | _ => simp [Value.same] at h
  | _ => cases b <;> simp_all [Value.same, decodeStrings, Except.toOption]

end Json

namespace Settings

/-! ## Scopes and their languages -/

theorem PerScope.mem_toList {α : Type} {p : PerScope α} {entry : Scope × α} :
    entry ∈ p.toList ↔ p.get? entry.1 = some entry.2 := by
  have hall : ∀ scope, scope ∈ Scope.all := fun scope => by cases scope <;> decide
  rw [PerScope.toList, List.mem_filterMap]
  constructor
  · rintro ⟨scope, -, hentry⟩
    obtain ⟨a, hget, rfl⟩ := Option.map_eq_some_iff.1 hentry
    exact hget
  · intro hget
    exact ⟨entry.1, hall _, by rw [hget]; rfl⟩

theorem languageIds_eq (s : Settings) :
    s.languageIds = (s.layers.toList.flatMap fun entry => entry.2.languages.names).eraseDups := by
  rw [languageIds]
  induction (s.layers.toList.flatMap fun entry => entry.2.languages.names) using
    List.reverseRecOn with
  | nil => rfl
  | append_singleton names name ih =>
    rw [List.foldl_append, ih, eraseDups_concat]
    simp

/-! ## The value that counts -/

/-- What the narrowest scope has that has something. -/
def narrowest? {α : Type} (f : Scope → Option α) : Option α := Scope.all.reverse.findSome? f

theorem findSome?_toList {α β : Type} (p : PerScope α) (f : Scope → α → Option β) :
    p.toList.reverse.findSome? (fun entry => f entry.1 entry.2) =
      narrowest? fun scope => (p.get? scope).bind (f scope) := by
  rw [PerScope.toList, ← List.filterMap_reverse, narrowest?]
  induction Scope.all.reverse with
  | nil => rfl
  | cons scope rest ih =>
    rw [List.filterMap_cons, List.findSome?_cons]
    cases p.get? scope with
    | none => exact ih
    | some a =>
      rw [Option.map_some, Option.bind_some, List.findSome?_cons, ih]

theorem generalValue?_inspect (s : Settings) (key : String) (language : Option String) :
    generalValue? (s.inspect key language) = narrowest? fun scope => s.raw? scope key none := by
  rw [generalValue?, inspect, ← List.map_reverse, List.findSome?_map]
  exact findSome?_toList s.layers fun _ layer => layer.get? key none

theorem languageValue?_inspect (s : Settings) (key : String) (language : Option String) :
    languageValue? (s.inspect key language) =
      language.bind fun l => narrowest? fun scope => s.raw? scope key (some l) := by
  rw [languageValue?, inspect, ← List.map_reverse, List.findSome?_map]
  cases language with
  | none => simp
  | some l => exact findSome?_toList s.layers fun _ layer => layer.get? key (some l)

/-- **The value that counts**: the narrowest one for the language, or else the narrowest one in
general. -/
theorem value?_eq (s : Settings) (key : String) (language : Option String) :
    s.value? key language =
      ((language.bind fun l => narrowest? fun scope => s.raw? scope key (some l)) <|>
        narrowest? fun scope => s.raw? scope key none) := by
  rw [value?, effectiveValue?, languageValue?_inspect, generalValue?_inspect]

theorem value?_congr {s s' : Settings}
    (h : ∀ scope key language, s.raw? scope key language = s'.raw? scope key language)
    (key : String) (language : Option String) : s.value? key language = s'.value? key language := by
  simp only [value?_eq, h]

/-! ## Equal values -/

theorem sameOption_narrowest? {f g : Scope → Option Value}
    (h : ∀ scope, sameOption (f scope) (g scope) = true) :
    sameOption (narrowest? f) (narrowest? g) = true := by
  rw [narrowest?, narrowest?]
  induction Scope.all.reverse with
  | nil => rfl
  | cons scope rest ih =>
    rw [List.findSome?_cons, List.findSome?_cons]
    have hscope := h scope
    cases hf : f scope with
    | none =>
      cases hg : g scope with
      | none => exact ih
      | some b => simp [hf, hg, sameOption] at hscope
    | some a =>
      cases hg : g scope with
      | none => simp [hf, hg, sameOption] at hscope
      | some b =>
        rw [hf, hg] at hscope
        exact hscope

theorem sameOption_orElse {a b a' b' : Option Value} (ha : sameOption a a' = true)
    (hb : sameOption b b' = true) : sameOption (a <|> b) (a' <|> b') = true := by
  cases a with
  | none =>
    cases a' with
    | none => exact hb
    | some v => simp [sameOption] at ha
  | some v =>
    cases a' with
    | none => simp [sameOption] at ha
    | some v' => exact ha

/-- Where the raw values of a key are the same, so is the value that counts. -/
theorem sameOption_value? {s s' : Settings} {key : String} {language : Option String}
    (hlanguage : ∀ l, language = some l → ∀ scope,
      sameOption (s.raw? scope key (some l)) (s'.raw? scope key (some l)) = true)
    (hgeneral : ∀ scope, sameOption (s.raw? scope key none) (s'.raw? scope key none) = true) :
    sameOption (s.value? key language) (s'.value? key language) = true := by
  rw [value?_eq, value?_eq]
  refine sameOption_orElse ?_ (sameOption_narrowest? hgeneral)
  cases language with
  | none => rfl
  | some l => exact sameOption_narrowest? (hlanguage l rfl)

/-! ## Reading -/

theorem toOption_map_decodeValue {α : Type} (decode : Decoder α) (key : String) (value : Value) :
    ((decodeValue decode key value).map some).toOption = (decode value).toOption.map some := by
  rw [decodeValue]
  cases decode value with
  | error e => rfl
  | ok a => rfl

/-- **Settings whose values are the same are read alike.** -/
theorem read_toOption_of_same {α : Type} {s s' : Settings} {decode : Decoder α} {key : String}
    {language : Option String} (hdecode : decode.Respects)
    (h : sameOption (s.value? key language) (s'.value? key language) = true) :
    (s.read decode key language).toOption = (s'.read decode key language).toOption := by
  rw [read, read]
  cases hs : s.value? key language with
  | none =>
    cases hs' : s'.value? key language with
    | none => rfl
    | some b => simp [hs, hs', sameOption] at h
  | some a =>
    cases hs' : s'.value? key language with
    | none => simp [hs, hs', sameOption] at h
    | some b =>
      rw [hs, hs'] at h
      have hab : (decode a).toOption = (decode b).toOption := hdecode a b h
      change ((decodeValue decode key a).map some).toOption =
        ((decodeValue decode key b).map some).toOption
      rw [toOption_map_decodeValue, toOption_map_decodeValue, hab]

/-- What can be read is read without a warning. -/
theorem readOrWarn_of_read {α : Type} {s : Settings} {decode : Decoder α} {key : String}
    {language : Option String} {found : Option α} (h : s.read decode key language = .ok found) :
    s.readOrWarn decode key language = pure found := by
  rw [readOrWarn, h, warnOnError]

/-- What is read with a warning is what can be read. -/
theorem value_readOrWarn {α : Type} (s : Settings) (decode : Decoder α) (key : String)
    (language : Option String) :
    (s.readOrWarn decode key language).value = (s.read decode key language).toOption.join := by
  rw [readOrWarn]
  cases s.read decode key language with
  | error e => rfl
  | ok value => rfl

end Settings

end FormatChain
