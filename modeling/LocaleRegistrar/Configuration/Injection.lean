import LocaleRegistrar.Configuration.Check
import LocaleRegistrar.Registration.Outcome

/-!
Registering a locale in a text. Only the text is asked for, so that a run that fails is an error here.
-/

namespace LocaleRegistrar.Configuration

open LocaleRegistrar.Bootstrap
open LocaleRegistrar.Registration

/-- Why a locale cannot be registered in a text. -/
inductive InjectionError
  | badEntry (bad : BadEntry)
  | missing (m : Missing)
  | fault (f : Fault)
  /-- The run reports errors. -/
  | failed (o : Outcome)

def InjectionError.message : InjectionError → String
  | badEntry bad => bad.message
  | missing m => m.message
  | fault f => f.message
  | failed o => "Locale registration failed:\n" ++ "\n".intercalate o.errors

/-- The text with a locale registered for the class that `entry` names. Without a list, the available
locales are the configured ones. -/
def Config.inject (c : Config) (s : Locale.Surroundings) (locales : Option (List String))
    (entry locale code : String) : Except InjectionError String := do
  let entry ← (Entry.parse entry).mapError .badEntry
  let request ← (c.withTarget entry locale).request.mapError .missing
  let source := (locales.map Locale.Source.fixed).getD c.source
  let outcome ← (request.run (source.list s) code).mapError .fault
  if outcome.success then return outcome.code else throw (.failed outcome)

end LocaleRegistrar.Configuration
