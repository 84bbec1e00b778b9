import LocaleRegistrar.Command.Arguments
import LocaleRegistrar.Command.Locales
import LocaleRegistrar.Command.Register

/-!
The command line: its commands, the arguments that they take, and what a run of it comes to.
-/

namespace LocaleRegistrar.Command

open LocaleRegistrar.Files

def programName : String := "locale-bootstrap"

def versionLine : String := programName ++ " 0.1.0"

def helpFlag : Flag := ⟨["-h", "--help"], .help⟩

def localesDirFlag : Flag := ⟨["--locales-dir"], .store⟩

/-- What stands before a command. -/
def mainInterface : Interface :=
  { program := programName
    flags := [helpFlag, ⟨["--version"], .version⟩, ⟨["-v", "--verbose"], .switch⟩]
    positional := .command "command" ["register", "locales", "resolve"] }

def registerInterface : Interface :=
  { program := programName ++ " register"
    flags := [helpFlag, ⟨["--locale"], .store⟩, ⟨["--entry-module"], .store⟩, localesDirFlag,
      ⟨["--out"], .store⟩, ⟨["--check"], .switch⟩]
    positional := .single "path" }

def localesInterface : Interface :=
  { program := programName ++ " locales", flags := [helpFlag, localesDirFlag], positional := .none }

def resolveInterface : Interface :=
  { program := programName ++ " resolve"
    flags := [helpFlag, localesDirFlag]
    positional := .single "locale" }

/-- A command with its arguments. -/
inductive Invocation
  | register (options : RegisterOptions)
  | locales (localesDir : Option Files.Path)
  | resolve (locale : String) (localesDir : Option Files.Path)

/-- A path that was given for a flag. -/
def path? (g : Given) (name : String) : Option Path :=
  (g.value? name).map Files.Path.parse

/-- The positional argument that was given. -/
def argument (g : Given) : String :=
  (g.positional.getD []).headD ""

/-- Reads the arguments of a command, and gives what it does not take. -/
def readCommand (name : String) (args : List String) : Except Stop (Invocation × List String) :=
  if name = "register" then do
    let g ← registerInterface.read args
    let options : RegisterOptions :=
      { input := Files.Path.parse (argument g)
        output := path? g "--out"
        locale := g.value? "--locale"
        entryModule := g.value? "--entry-module"
        localesDir := path? g "--locales-dir"
        check := g.has "--check" }
    return (.register options, g.extras)
  else if name = "locales" then do
    let g ← localesInterface.read args
    return (.locales (path? g "--locales-dir"), g.extras)
  else if name = "resolve" then do
    let g ← resolveInterface.read args
    return (.resolve (argument g) (path? g "--locales-dir"), g.extras)
  else .error (invalidChoice mainInterface "command" name ["register", "locales", "resolve"])

/-- A command line that was read. -/
structure CommandLine where
  verbose : Bool
  invocation : Invocation

/-- Reads a command line. -/
def readCommandLine (args : List String) : Except Stop CommandLine := do
  let g ← mainInterface.read args
  let (invocation, extras) ← readCommand (argument g) ((g.positional.getD []).drop 1)
  refuseExtras mainInterface (g.extras ++ extras)
  return ⟨g.has "-v", invocation⟩

/-- What a run comes to. -/
inductive Ending
  /-- The arguments were not run. -/
  | stopped (stop : Stop)
  | exit (code : Nat)
  | aborted (abort : Abort)

def Invocation.run : Invocation → Run Nat
  | register options => Command.register options
  | locales localesDir => Command.locales localesDir
  | resolve locale localesDir => Command.resolve locale localesDir

/-- Runs a command line over files. Gives the ending, the files after it and what was printed. -/
def run (files : Files.Tree) (here : Location) (searchPath : List Location) (args : List String) :
    Ending × State :=
  match readCommandLine args with
  | .error stop => (.stopped stop, { files })
  | .ok line =>
    match line.invocation.run.run' ⟨here, searchPath, line.verbose⟩ files with
    | (.ok code, state) => (.exit code, state)
    | (.error abort, state) => (.aborted abort, state)

end LocaleRegistrar.Command
