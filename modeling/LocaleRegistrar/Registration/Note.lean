import LocaleRegistrar.Bootstrap.Entry
import LocaleRegistrar.Text.Quoted

/-!
What a registration reports about its progress.
-/

namespace LocaleRegistrar.Registration

open LocaleRegistrar.Bootstrap

inductive Note
  | references (count : Nat) (className : String) (sites : Nat)
  | noSite (entry : Entry)
  | noDirectory (path : String)
  | noPackage (package : String)
  | respelled (requested id : String)
  | parent (requested id : String)
  | registering (id : String) (sites : Nat)
  | inserted (count : Nat)
deriving DecidableEq, Repr

namespace Note

def message : Note → String
  | references count className sites =>
    toString count ++ " reference(s) to " ++ className ++ ", " ++ toString sites ++
      " bootstrap call(s)"
  | noSite entry => "No bootstrap call for " ++ entry.text
  | noDirectory path => "Locale directory " ++ path ++ " not found"
  | noPackage package => "Locale package " ++ package ++ " is not importable"
  | respelled requested id => "Locale " ++ Text.quoted requested ++ " resolved to " ++ Text.quoted id
  | parent requested id =>
    "Locale " ++ Text.quoted requested ++ " falling back to parent " ++ Text.quoted id
  | registering id sites =>
    "Registering locale " ++ Text.quoted id ++ " for " ++ toString sites ++ " bootstrap call(s)"
  | inserted count => "Inserted " ++ toString count ++ " statement(s)"

end Note

end LocaleRegistrar.Registration
