import LocaleRegistrar.Python.Parse
import LocaleRegistrar.Registration.Plan
import LocaleRegistrar.Text.Blank

/-!
Running a registration over the text of a module. A text that cannot be read and a locale that is
not available are failures that the outcome reports, and leave the text as it was.
-/

namespace LocaleRegistrar.Registration

open LocaleRegistrar.Python
open LocaleRegistrar.Bootstrap

structure Outcome where
  code : String
  errors : List String := []
  success : Bool := true
  /-- Was registration code put in? -/
  changed : Bool := false
  /-- The statements that were put in, in order. -/
  inserted : List String := []
deriving DecidableEq, Repr

namespace Outcome

/-- A run that failed leaves the text alone. -/
def failed (code error : String) : Outcome :=
  { code, errors := [error], success := false }

def hasErrors (o : Outcome) : Bool :=
  !o.errors.isEmpty

end Outcome

/-- What is said about a text that is no module. -/
def parseFailure : String := "Parse Error: Syntax Error"

namespace Request

/-- Puts the planned edits into a module. They are anchored in the module, so none is stray. -/
def outcome (code : String) (m : Python.Module) (edits : List Edit) : Outcome :=
  match apply m edits with
  | .ok edited =>
    { code := edited.render
      changed := true
      inserted := edits.map fun e => Text.trim e.statement.alone }
  | .error stray => .failed code stray.message

/-- Runs a request over the text of a module. -/
def run (r : Request) (available : List String) (code : String) : Except Fault Outcome :=
  match parseModule code with
  | none => .ok (.failed code parseFailure)
  | some m =>
    let m := splitFutureImports m
    match r.plan available m with
    | .error (.unknownLocale unknown) => .ok (.failed code unknown.message)
    | .error (.fault f) => .error f
    | .ok [] => .ok { code }
    | .ok (edit :: edits) => .ok (outcome code m (edit :: edits))

/-- What is reported when a request is run. -/
def runNotes (r : Request) (listing : List Note) (available : List String) (code : String) :
    List Note :=
  match parseModule code with
  | none => []
  | some m =>
    let m := splitFutureImports m
    r.planNotes listing available m ++
      match r.plan available m with
      | .ok (edit :: edits) => [.inserted (edit :: edits).length]
      | _ => []

end Request

end LocaleRegistrar.Registration
