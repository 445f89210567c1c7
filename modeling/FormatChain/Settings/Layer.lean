import FormatChain.Json.Reader
import FormatChain.OrderedMap
import FormatChain.Path
import FormatChain.Text.Characters
import FormatChain.Text.Search

/-!
# One layer of settings

A layer holds settings by their keys, some of them for certain languages only.

* `overrideLanguages?` : the languages of a key.
* `overrideKey` : the key of a setting inside the brackets of a language.
* `Layer` : the settings of a file.
* `Layer.parse` : the layer of a file's text.
* `Layer.get?`, `Layer.set` : one value, in general or for a language.
* `Layer.qualifiedKeys` : every key with its value.
-/

/-!
## Keys that override settings for languages

Such a key holds one or more languages, each in brackets, as in `[javascript][javascriptreact]`.
White space may stand around each pair of brackets and around each language.
-/

namespace FormatChain.Settings

open FormatChain.Text

theorem length_of_cutAtFirst {mark : Char} {chars before after : List Char}
    (h : cutAtFirst mark chars = some (before, after)) : after.length < chars.length := by
  induction chars generalizing before with
  | nil => simp [cutAtFirst] at h
  | cons c rest ih =>
    by_cases hc : c = mark
    · simp only [cutAtFirst, hc, if_true, Option.some.injEq, Prod.mk.injEq] at h
      rw [← h.2]
      simp
    · simp only [cutAtFirst, hc, if_false, Option.map_eq_some_iff, Prod.exists] at h
      obtain ⟨b, a, hcut, heq⟩ := h
      obtain ⟨-, rfl⟩ := Prod.mk.injEq .. |>.mp heq
      have := ih hcut
      simp only [List.length_cons]
      omega

theorem length_dropWhile_le (p : Char → Bool) (chars : List Char) :
    (chars.dropWhile p).length ≤ chars.length := by
  induction chars with
  | nil => simp
  | cons c rest ih =>
    rw [List.dropWhile_cons]
    split
    · simp only [List.length_cons]; omega
    · exact Nat.le_refl _

/-- The characters without the white space at both ends. -/
def trimChars (chars : List Char) : List Char :=
  dropBlankEnd (chars.dropWhile isBlank)

/-- The languages of the bracketed groups that make up the characters. -/
def bracketedLanguages? (chars : List Char) : Option (List String) :=
  match chars with
  | [] => some []
  | c :: rest =>
    if c = '[' then
      match _h : cutAtFirst ']' rest with
      | none => none
      | some (inside, after) =>
        let language := trimChars inside
        if language.isEmpty then none
        else (bracketedLanguages? (after.dropWhile isBlank)).map (String.ofList language :: ·)
    else none
termination_by chars.length
decreasing_by
  have h1 := length_of_cutAtFirst _h
  have h2 := length_dropWhile_le isBlank after
  simp only [List.length_cons]
  omega

/-- The languages that a key overrides settings for; none if it is no such key. -/
def overrideLanguages? (key : String) : Option (List String) :=
  match bracketedLanguages? (trimChars key.toList) with
  | some (language :: others) => some (language :: others)
  | _ => none

/-- The qualified name of a setting in the block of a language. -/
def overrideKey (language key : String) : String :=
  "[" ++ language ++ "]." ++ key

end FormatChain.Settings

/-!
## One layer of settings

A layer holds what one file sets.  Its keys are flat; a key that starts with a bracket holds a
mapping of its own, which only counts for the languages in the brackets.
-/

namespace FormatChain.Settings

open FormatChain.Json

/-- Names with values. -/
abbrev Block := OrderedMap Value

/-- The settings of one file. -/
structure Layer where
  /-- The file, if there is one. -/
  filePath : Option Path
  /-- Whether the file must not be written. -/
  readOnly : Bool
  /-- What is set for all languages. -/
  general : Block
  /-- What is set for single languages. -/
  languages : OrderedMap Block
  deriving Inhabited

/-- Why a text is no layer. -/
inductive ParseError where
  /-- The text is malformed. -/
  | malformed (error : ReadError)
  /-- A number is too large for a double. -/
  | numberTooLarge
  /-- The text holds something else than a mapping. -/
  | notAnObject
  /-- The value of an override key is something else than a mapping. -/
  | overrideNotAnObject (key : String)
  /-- A key starts with a bracket and is no override key. -/
  | invalidOverrideKey (key : String)
  deriving Repr, DecidableEq

/-- The wording of a cause. -/
def ParseError.message : ParseError → String
  | .malformed error => s!"Error parsing settings file. {error.message}"
  | .numberTooLarge => "A number in the settings file is too large."
  | .notAnObject => "Expected the settings file to contain an object."
  | .overrideNotAnObject key => s!"Expected the value of '{key}' to be an object."
  | .invalidOverrideKey key =>
    s!"Invalid language override key '{key}'. Expected something like \"[typescript]\"."

namespace Layer

/-- The writable layer without settings and without a file. -/
def empty : Layer := ⟨none, false, .empty, .empty⟩

/-! ### Single values -/

/-- A value, in general or for a language. -/
def get? (layer : Layer) (key : String) : Option String → Option Value
  | some language => (layer.languages.get? language).bind (·.get? key)
  | none => layer.general.get? key

/-- The block of a language, empty if there is none. -/
def block (layer : Layer) (language : String) : Block :=
  (layer.languages.get? language).getD .empty

/-- Sets a value, or removes it. A block that becomes empty by a removal is removed as well. -/
def set (layer : Layer) (key : String) (language : Option String) (value : Option Value) : Layer :=
  match language, value with
  | none, some v => { layer with general := layer.general.set key v }
  | none, none => { layer with general := layer.general.erase key }
  | some l, some v =>
    { layer with languages := layer.languages.set l ((layer.block l).set key v) }
  | some l, none =>
    match layer.languages.get? l with
    | none => layer
    | some block =>
      let rest := block.erase key
      if rest.isEmpty then { layer with languages := layer.languages.erase l }
      else { layer with languages := layer.languages.set l rest }

/-! ### Layers from texts -/

/-- Adds the fields of an override to the block of a language. -/
def addFields (layer : Layer) (language : String) (fields : List (String × Value)) : Layer :=
  let block := fields.foldl (fun block entry => block.set entry.1 entry.2) (layer.block language)
  { layer with languages := layer.languages.set language block }

/-- Adds one entry of a file. -/
def addEntry (layer : Layer) (entry : String × Value) : Except ParseError Layer :=
  if entry.1.toList.head? = some '[' then
    match overrideLanguages? entry.1 with
    | none => .error (.invalidOverrideKey entry.1)
    | some languages =>
      match entry.2 with
      | .object fields => .ok (languages.foldl (fun layer l => layer.addFields l fields) layer)
      | _ => .error (.overrideNotAnObject entry.1)
  else .ok { layer with general := layer.general.set entry.1 entry.2 }

/-- The layer of a mapping. -/
def ofFields (fields : List (String × Value)) : Except ParseError Layer :=
  fields.foldlM addEntry empty

/-- The layer of a text. A text without a value is the same as an empty mapping. -/
def parse (text : String) : Except ParseError Layer :=
  match read text with
  | .ok none => .ok empty
  | .ok (some (.object fields)) => ofFields fields
  | .ok (some _) => .error .notAnObject
  | .error (.malformed error) => .error (.malformed error)
  | .error .numberTooLarge => .error .numberTooLarge

/-! ### Qualified keys -/

/-- Every key with its value; the key of a language's setting has the language before it. -/
def qualifiedKeys (layer : Layer) : List (String × Value) :=
  layer.general.entries ++
    layer.languages.entries.flatMap fun (language, block) =>
      block.entries.map fun (key, value) => (overrideKey language key, value)

end Layer

end FormatChain.Settings
