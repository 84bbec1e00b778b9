import LocaleRegistrar.Bootstrap.Entry
import LocaleRegistrar.Bootstrap.Prologue
import LocaleRegistrar.Bootstrap.Site
import LocaleRegistrar.Registration.Edit
import LocaleRegistrar.Registration.Note

/-!
Planning a registration: the edits that register a locale in a module before each of its bootstrap
sites. A module without a site gets none, whatever the locale is.
-/

namespace LocaleRegistrar.Registration

open LocaleRegistrar.Python
open LocaleRegistrar.Bootstrap

/-- What is to be registered, for which class, and by which names. -/
structure Request where
  entry : Entry
  locale : String
  settings : Settings := {}
deriving DecidableEq, Repr

/-- Why registration code cannot be put into a module. -/
inductive Fault
  /-- A site is in the module's prologue, so that no code can come before it. -/
  | sharedLine
  | badName (bad : BadName)
deriving DecidableEq, Repr

namespace Fault

def message : Fault → String
  | sharedLine =>
    "The bootstrap call shares a line with a `from __future__` import; " ++
      "split the line (see split_future_imports) before registering locale data."
  | badName bad => bad.message

end Fault

/-- Why a registration cannot be planned. -/
inductive Refusal
  | unknownLocale (unknown : Locale.Unknown)
  | fault (f : Fault)
deriving DecidableEq, Repr

/-- Is there a site in the prologue of a module? -/
def siteInPrologue (className : String) (m : Python.Module) : Bool :=
  (m.body.take (prologueLength m.body)).any fun s => !(sitesOf className s).isEmpty

/-- The edits for `n` sites, one registration after the other, with orders from `start` on. -/
def buildAll (settings : Settings) (locale : String) (anchor : Option Nat) (start : Int) :
    Nat → Except BadName (List Edit)
  | 0 => .ok []
  | n + 1 => do
    let edits ← build settings locale anchor start
    let rest ← buildAll settings locale anchor (start + edits.length) n
    return edits ++ rest

namespace Request

/-- The sites that a request is about. -/
def sites (r : Request) (m : Python.Module) : List Site :=
  Bootstrap.sites r.entry.className m

/-- How often the available locales are asked for: only if there is a site. -/
def enumerations (r : Request) (m : Python.Module) : Nat :=
  if (r.sites m).isEmpty then 0 else 1

def resolve (r : Request) (available : List String) : Except Locale.Unknown Locale.Resolution :=
  Locale.resolve r.locale available r.settings.localesPackage

/-- The edits that a request makes in a module with sites, given the available locales. -/
def planFrom (r : Request) (m : Python.Module) (available : List String) :
    Except Refusal (List Edit) :=
  match r.resolve available with
  | .error unknown => .error (.unknownLocale unknown)
  | .ok resolution =>
    if siteInPrologue r.entry.className m then .error (.fault .sharedLine)
    else
      match buildAll r.settings resolution.id (first? m) 0 (r.sites m).length with
      | .error bad => .error (.fault (.badName bad))
      | .ok edits => .ok edits

/-- Planning, with asking for the available locales as an effect. -/
def planAsking {μ : Type → Type} [Monad μ] (r : Request) (ask : μ (List String))
    (m : Python.Module) : μ (Except Refusal (List Edit)) := do
  if (r.sites m).isEmpty then return .ok []
  return r.planFrom m (← ask)

/-- The edits that a request makes in a module. -/
def plan (r : Request) (available : List String) (m : Python.Module) : Except Refusal (List Edit) :=
  Id.run (r.planAsking (pure available) m)

theorem plan_eq (r : Request) (available : List String) (m : Python.Module) :
    r.plan available m = if (r.sites m).isEmpty then .ok [] else r.planFrom m available := by
  unfold plan planAsking
  split <;> rfl

end Request

/-! ### Notes -/

/-- What is reported about a resolution. -/
def resolutionNotes (requested : String) : Locale.Resolution → List Note
  | .exact _ => []
  | .respelled id => [.respelled requested id]
  | .parent id => [.parent requested id]

namespace Request

/-- What is reported when a request is planned. `listing` is what asking for the available locales
reports. -/
def planNotes (r : Request) (listing : List Note) (available : List String) (m : Python.Module) :
    List Note :=
  let count := referenceCount r.entry.className m
  let sites := (r.sites m).length
  let references := if count = 0 then [] else [Note.references count r.entry.className sites]
  if sites = 0 then references ++ [.noSite r.entry]
  else
    references ++ listing ++
      match r.resolve available with
      | .error _ => []
      | .ok resolution =>
        resolutionNotes r.locale resolution ++
          match r.plan available m with
          | .error _ => []
          | .ok _ => [.registering resolution.id sites]

end Request

end LocaleRegistrar.Registration
