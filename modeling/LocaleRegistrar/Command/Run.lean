import LocaleRegistrar.Configuration.Load
import LocaleRegistrar.Console.Screen
import LocaleRegistrar.Registration.Outcome

/-!
Running a command: a computation that may read and write files and print, and that may be cut off by
a fault that no command handles. What was written and printed before the fault stays.
-/

namespace LocaleRegistrar.Command

open LocaleRegistrar.Console
open LocaleRegistrar.Files
open LocaleRegistrar.Registration

/-- A fault that no command handles. -/
inductive Abort
  /-- A message cannot be printed. -/
  | unprintable (fault : MessageFault)
  /-- A source file is not UTF-8. -/
  | undecodable
  | fault (f : Fault)
  | toolNotTable
  | sectionNotTable
  | directoryNotText
deriving DecidableEq, Repr

/-- What a command can change. -/
structure State where
  files : Files.Tree
  output : List Item := []

/-- Where a command runs. -/
structure Environment where
  here : Location
  searchPath : List Location
  verbose : Bool

abbrev Run := ReaderT Environment (ExceptT Abort (StateM State))

/-- Prints items. -/
def emit (items : Except MessageFault (List Item)) : Run Unit :=
  match items with
  | .ok items => modify fun s => { s with output := s.output ++ items }
  | .error fault => throw (.unprintable fault)

def log (level : Level) (message : String) : Run Unit :=
  emit (logged level message)

def print (message : String) : Run Unit :=
  emit (printed message)

/-- Prints notes if the command is verbose. -/
def report (notes : List Note) : Run Unit := do
  if (← read).verbose then notes.forM fun note => log .debug note.message

/-- What the available locales depend on. -/
def surroundings : Run Locale.Surroundings := do
  let env ← read
  return { files := (← get).files, here := env.here, searchPath := env.searchPath }

/-- Loads the configuration. One that is refused is reported, and there is none then. -/
def loadConfig (args : Configuration.Arguments) : Run (Option Configuration.Config) := do
  match Configuration.load (← get).files (← read).here args with
  | .ok config => return some config
  | .error (.invalid problems) =>
    log .error (escape (Configuration.invalidMessage problems))
    return none
  | .error (.undecodable e) =>
    log .error (escape e.message)
    return none
  | .error .toolNotTable => throw .toolNotTable
  | .error .sectionNotTable => throw .sectionNotTable
  | .error .directoryNotText => throw .directoryNotText

/-- Runs a command. -/
def Run.run' {α : Type} (r : Run α) (env : Environment) (files : Files.Tree) :
    Except Abort α × State :=
  (ReaderT.run r env).run.run { files }

end LocaleRegistrar.Command
