import LocaleRegistrar.Command.Run

/-!
The commands that show the available locales and the one that a request resolves to.
-/

namespace LocaleRegistrar.Command

open LocaleRegistrar.Console
open LocaleRegistrar.Files
open LocaleRegistrar.Registration

/-- The available locales. -/
def availableLocales (source : Locale.Source) : Run (List String) := do
  let s ← surroundings
  report (source.listNotes s)
  return source.list s

/-- Shows the available locales with their data modules. -/
def locales (localesDir : Option Files.Path) : Run Nat := do
  match ← loadConfig { localesDir } with
  | none => return 1
  | some config =>
    let available ← availableLocales config.source
    let package := config.settings.localesPackage
    let origin := match config.localesDir with
      | some path => path.text
      | none => package
    if available.isEmpty then
      log .warning ("No locale data found in " ++ escape origin)
      return 1
    else
      let row (locale : String) : List String :=
        ["[locale]" ++ escape locale ++ "[/locale]",
         escape (package ++ "." ++ Locale.moduleName locale)]
      emit (tabled ("Available Locales (" ++ escape origin ++ ")")
        (["Locale", "Data Module"] :: available.map row))
      return 0

/-- Shows the locale that a request resolves to. -/
def resolve (requested : String) (localesDir : Option Files.Path) : Run Nat := do
  match ← loadConfig { localesDir } with
  | none => return 1
  | some config =>
    let available ← availableLocales config.source
    match Locale.resolve requested available config.settings.localesPackage with
    | .error unknown =>
      log .error (escape unknown.message)
      return 1
    | .ok resolution =>
      report (resolutionNotes requested resolution)
      print ("[locale]" ++ escape resolution.id ++ "[/locale]")
      return 0

end LocaleRegistrar.Command
