import LocaleRegistrar.Locale.Id

/-!
Resolution of a requested locale among the available ones. Three tiers are tried in turn: the id as
it was requested, the first available id of the same spelling up to case and separators, and the
language that the request belongs to. No other locale is ever substituted.
-/

namespace LocaleRegistrar.Locale

/-- How a request was met, with the id that meets it as the available ids spell it. -/
inductive Resolution
  | exact (id : String)
  | respelled (id : String)
  | parent (id : String)
deriving DecidableEq, Repr

namespace Resolution

/-- The id that is used. -/
def id : Resolution → String
  | exact id | respelled id | parent id => id

end Resolution

/-- A request that no available locale meets. -/
structure Unknown where
  /-- The id as it was requested. -/
  requested : String
  /-- The package that locale data is looked for in. -/
  package : String
deriving DecidableEq, Repr

namespace Unknown

/-- What to check: the id, and the module that would hold its data. -/
def hint (unknown : Unknown) : String :=
  "Please check that \"" ++ unknown.requested ++ "\" is a valid locale id with a data module at \""
    ++ unknown.package ++ "." ++ moduleName unknown.requested ++ "\"."

def message (unknown : Unknown) : String :=
  "Unable to load the locale data for \"" ++ unknown.requested ++ "\". " ++ unknown.hint

end Unknown

/-- The package that locale data is looked for in unless another one is named. -/
def defaultPackage : String := "i18n_common.locales"

/-- Meets the request from the available ids, by the first tier that can. -/
def resolve? (requested : String) (available : List String) : Option Resolution :=
  if requested ∈ available then some (.exact requested)
  else
    let normalized := normalize requested
    match available.find? (fun id => Text.lowerCase id == normalized) with
    | some id => some (.respelled id)
    | none =>
      let language := language normalized
      if language ∈ available then some (.parent language) else none

/-- Meets the request, or says that no available locale does. -/
def resolve (requested : String) (available : List String) (package : String := defaultPackage) :
    Except Unknown Resolution :=
  match resolve? requested available with
  | some resolution => .ok resolution
  | none => .error ⟨requested, package⟩

end LocaleRegistrar.Locale
