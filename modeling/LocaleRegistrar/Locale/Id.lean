import LocaleRegistrar.Text.LowerCase
import LocaleRegistrar.Text.Word

/-!
Locale ids and the names made from them. Locale data lives in one module per locale, and a module
name cannot hold a hyphen, so the data of `en-US` is in the module `en_US` and is bound to the
symbol `__locale_enUS__`.
-/

namespace LocaleRegistrar.Locale

/-- The text with every `old` turned into `new`. -/
def substitute (old new : Char) (s : String) : String :=
  String.ofList (s.toList.map fun c => if c = old then new else c)

/-- The name of the module that holds the data of a locale: underscores for hyphens. -/
def moduleName (locale : String) : String :=
  substitute '-' '_' locale

/-- The locale whose data a module of this name holds: hyphens for underscores. -/
def ofModuleName (name : String) : String :=
  substitute '_' '-' name

/-- The spelling that locale ids are compared in: small letters, hyphens between the subtags. -/
def normalize (locale : String) : String :=
  substitute '_' '-' (Text.lowerCase locale)

/-- The symbol that the data of a locale is bound to: its word characters in a fixed frame. -/
def symbol (locale : String) : String :=
  "__locale_" ++ String.ofList (locale.toList.filter Text.isWord) ++ "__"

/-- The language subtag of a normalized id: what stands before its first hyphen. -/
def language (normalized : String) : String :=
  String.ofList (normalized.toList.takeWhile (· ≠ '-'))

end LocaleRegistrar.Locale
