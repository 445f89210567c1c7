import FormatChain.Path
import FormatChain.Settings.Keys
import FormatChain.Settings.Warned
import FormatChain.Text.Lowercase

/-!
# Languages

* `family?` : the language whose formatters stand in for those of another one.
* `detectLanguage` : the language of a file, from its extension.
-/

namespace FormatChain

open FormatChain.Json FormatChain.Text

/-- The languages that have a family unless the settings say otherwise. -/
def builtInFamilies : List (String × String) :=
  [("javascriptreact", "javascript"), ("typescriptreact", "typescript")]

/-- The languages of extensions that the settings say nothing about. -/
def builtInExtensions : List (String × String) :=
  [("js", "javascript"), ("mjs", "javascript"), ("cjs", "javascript"), ("jsx", "javascriptreact"),
   ("ts", "typescript"), ("mts", "typescript"), ("cts", "typescript"), ("tsx", "typescriptreact"),
   ("json", "json"), ("jsonc", "jsonc"), ("md", "markdown"), ("css", "css"), ("scss", "scss"),
   ("less", "less"), ("html", "html"), ("vue", "vue"), ("yaml", "yaml"), ("yml", "yaml"),
   ("toml", "toml"), ("rs", "rust"), ("py", "python"), ("go", "go"), ("sh", "shellscript"),
   ("sql", "sql")]

/-- The language that a language falls back to when formatters are looked up. A family in the
settings comes before a built-in one; a language is not its own family. -/
def family? (settings : Settings) (language : String) : Noted (Option String) := do
  let configured ← settings.readOrWarn decodeStringMap Settings.Key.languageFamilies none
  let family := (configured.bind (·.get? language)) <|> Entries.get? language builtInFamilies
  return family.filter fun name => !(name == language || name.isEmpty)

/-- The text without the dots at its start. -/
def withoutLeadingDots (key : String) : String :=
  String.ofList (key.toList.dropWhile (· == '.'))

/-- The language of an extension in small letters. The first association whose key is the extension,
up to leading dots and the case of ASCII letters, comes before the built-in ones. -/
def languageOfExtension? (associations : List (String × String)) (extension : String) :
    Option String :=
  match associations.find? fun entry =>
      equalsIgnoringAsciiCase (withoutLeadingDots entry.1) extension with
  | some entry => some entry.2
  | none => Entries.get? extension builtInExtensions

/-- The language of a file. -/
def detectLanguage (settings : Settings) (path : Path) : Noted (Option String) :=
  match path.extension? with
  | none => pure none
  | some extension => do
    let associations ← settings.readOrWarn decodeStringMap Settings.Key.fileAssociations none
    return languageOfExtension? ((associations.map (·.entries)).getD []) (toLowercase extension)

end FormatChain
