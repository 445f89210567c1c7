import FormatChain.Language
import FormatChain.Proofs.Settings.Effective
import FormatChain.Proofs.Text.Lowercase

/-!
# The language of a file

The settings associate extensions with languages.  A key stands for an extension, in whatever case
either is written, if without leading dots it has the same lower-case form.  The extension of a file
is lowered in full, but of a key only the ASCII letters are, so keys that have other capitals stand
for nothing.

* `StandsFor`, `associatedLanguage?` : the language that associations give an extension.
* `withAsciiCapitals` : the associations whose keys have no capitals but those of ASCII.
* `languageOfExtension?_toLowercase` : only these count.
* `Overlooks` : an extension gets another language because of that.
* `detectLanguage_associated_iff` : when the associations are honoured.
-/

namespace FormatChain

open FormatChain.Json FormatChain.Text

/-! ## Associations -/

/-- The key of an association, without leading dots, has the lower-case form of the extension. -/
def StandsFor (extension : String) (entry : String × String) : Prop :=
  toLowercase (withoutLeadingDots entry.1) = toLowercase extension

instance (extension : String) (entry : String × String) : Decidable (StandsFor extension entry) :=
  inferInstanceAs (Decidable (_ = _))

/-- The language that associations give an extension: that of the first entry whose key stands for
it, or else the built-in one. -/
def associatedLanguage? (associations : List (String × String)) (extension : String) :
    Option String :=
  ((associations.find? (StandsFor extension ·)).map Prod.snd).or
    (Entries.get? (toLowercase extension) builtInExtensions)

/-- The associations whose keys have no capitals but those of ASCII. -/
def withAsciiCapitals (associations : List (String × String)) : List (String × String) :=
  associations.filter (HasAsciiCapitals <| withoutLeadingDots ·.1)

/-- The first key that stands for the extension has a capital that is not one of ASCII, and the keys
without such capitals give the extension another language. -/
def Overlooks (associations : List (String × String)) (extension : String) : Prop :=
  ∃ entry, associations.find? (StandsFor extension ·) = some entry ∧
    ¬ HasAsciiCapitals (withoutLeadingDots entry.1) ∧
    associatedLanguage? (withAsciiCapitals associations) extension ≠ some entry.2

variable {associations : List (String × String)} {extension : String}

/-- **Only keys without other capitals than those of ASCII count.** -/
theorem languageOfExtension?_toLowercase (associations : List (String × String))
    (extension : String) :
    languageOfExtension? associations (toLowercase extension) =
      associatedLanguage? (withAsciiCapitals associations) extension := by
  have hfound : (withAsciiCapitals associations).find? (StandsFor extension ·) =
      associations.find? fun entry =>
        equalsIgnoringAsciiCase (withoutLeadingDots entry.1) (toLowercase extension) := by
    rw [withAsciiCapitals, List.find?_filter]
    congr 1
    funext entry
    rw [Bool.eq_iff_iff, equalsIgnoringAsciiCase_toLowercase_iff, decide_eq_true_iff,
      decide_eq_true_iff, decide_eq_true_iff, and_comm]
    rfl
  rw [associatedLanguage?, hfound, languageOfExtension?]
  split
  · next h => rw [h, Option.map_some, Option.some_or]
  · next h => rw [h, Option.map_none, Option.none_or]

/-- If the first key that stands for an extension counts, it comes first among those that count. -/
theorem find?_withAsciiCapitals {entry : String × String}
    (hfirst : associations.find? (StandsFor extension ·) = some entry)
    (hcapitals : HasAsciiCapitals (withoutLeadingDots entry.1)) :
    (withAsciiCapitals associations).find? (StandsFor extension ·) = some entry := by
  obtain ⟨hentry, before, after, hsplit, hbefore⟩ := List.find?_eq_some_iff_append.1 hfirst
  rw [withAsciiCapitals, hsplit, List.filter_append,
    List.filter_cons_of_pos (by simpa using hcapitals)]
  refine List.find?_eq_some_iff_append.2 ⟨hentry, _, _, rfl, fun other hother => ?_⟩
  exact hbefore other (List.mem_filter.1 hother).1

/-- The keys that do not count make a difference exactly if an extension is overlooked. -/
theorem associatedLanguage?_withAsciiCapitals_iff :
    associatedLanguage? (withAsciiCapitals associations) extension =
        associatedLanguage? associations extension ↔ ¬ Overlooks associations extension := by
  cases hfirst : associations.find? (StandsFor extension ·) with
  | none =>
    have hnone : (withAsciiCapitals associations).find? (StandsFor extension ·) = none :=
      List.find?_eq_none.2 fun entry hentry =>
        List.find?_eq_none.1 hfirst entry (List.mem_filter.1 hentry).1
    refine iff_of_true (by rw [associatedLanguage?, associatedLanguage?, hnone, hfirst]) ?_
    rintro ⟨entry, hentry, -⟩
    exact absurd (hfirst.symm.trans hentry) (by simp)
  | some entry =>
    have hlanguage : associatedLanguage? associations extension = some entry.2 := by
      rw [associatedLanguage?, hfirst, Option.map_some, Option.some_or]
    by_cases hcapitals : HasAsciiCapitals (withoutLeadingDots entry.1)
    · have hsame := find?_withAsciiCapitals hfirst hcapitals
      refine iff_of_true (by rw [associatedLanguage?, associatedLanguage?, hsame, hfirst]) ?_
      rintro ⟨other, hother, hnot, -⟩
      obtain rfl := Option.some.inj (hfirst.symm.trans hother)
      exact hnot hcapitals
    · rw [hlanguage, Overlooks, hfirst]
      simp [hcapitals]

/-! ## Files -/

/-- The language of a file comes from the lower-case form of its extension. -/
theorem detectLanguage_of_read {settings : Settings} {path : Path}
    (hextension : path.extension? = some extension) {named : OrderedMap String}
    (hread : settings.read decodeStringMap Settings.Key.fileAssociations none = .ok (some named)) :
    detectLanguage settings path =
      pure (languageOfExtension? named.entries (toLowercase extension)) := by
  rw [detectLanguage, hextension]
  simp only [Settings.readOrWarn_of_read hread]
  rfl

/-- **Associations are honoured unless they overlook an extension.**  A file gets the language of
the first entry, in stored order, whose key without leading dots has the same lower-case form as the
extension, otherwise the built-in language of the lower-cased extension, otherwise none: of the
entries whose keys have no capitals but those of ASCII, and so of all entries exactly if none is
overlooked.  Files whose extensions have the same lower-case form get the same language. -/
theorem detectLanguage_associated_iff {settings : Settings} {path : Path}
    (hextension : path.extension? = some extension) {named : OrderedMap String}
    (hread : settings.read decodeStringMap Settings.Key.fileAssociations none = .ok (some named)) :
    let found := (detectLanguage settings path).value
    found = associatedLanguage? (withAsciiCapitals named.entries) extension ∧
      (found = associatedLanguage? named.entries extension ↔
        ¬ Overlooks named.entries extension) ∧
      ∀ (other : Path) (extension' : String), other.extension? = some extension' →
        toLowercase extension' = toLowercase extension →
          (detectLanguage settings other).value = found := by
  intro found
  have hfound : found = associatedLanguage? (withAsciiCapitals named.entries) extension := by
    rw [← languageOfExtension?_toLowercase]
    exact congrArg Noted.value (detectLanguage_of_read hextension hread)
  refine ⟨hfound, hfound ▸ associatedLanguage?_withAsciiCapitals_iff,
    fun other extension' hother hsame => ?_⟩
  rw [detectLanguage_of_read hother hread, hsame, ← detectLanguage_of_read hextension hread]

/-- Files with a capital umlaut as their extension get no language, although the settings have the
same extension, in the same case, as a key. -/
theorem detectLanguage_overlooks_umlaut :
    let settings : Settings := { layers := {
      workspace := some (Settings.Layer.empty.set Settings.Key.fileAssociations none
        (some (.object [(".Ä", .string "german")]))) } }
    let named : OrderedMap String := .ofEntries [(".Ä", "german")]
    let path : Path := ⟨"/project/a.Ä"⟩
    path.extension? = some "Ä" ∧
      settings.read decodeStringMap Settings.Key.fileAssociations none = .ok (some named) ∧
      (detectLanguage settings path).value = none ∧
      associatedLanguage? named.entries "Ä" = some "german" ∧ Overlooks named.entries "Ä" := by
  intro settings named path
  have hextension : path.extension? = some "Ä" := by decide +kernel
  have hread : settings.read decodeStringMap Settings.Key.fileAssociations none =
      .ok (some named) := rfl
  have hfound : (detectLanguage settings path).value = none := by decide +kernel
  have hassociated : associatedLanguage? named.entries "Ä" = some "german" := by decide +kernel
  refine ⟨hextension, hread, hfound, hassociated, Classical.not_not.1 fun hnot => ?_⟩
  have heq := (detectLanguage_associated_iff hextension hread).2.1.2 hnot
  rw [hfound, hassociated] at heq
  exact Option.some_ne_none _ heq.symm

end FormatChain
