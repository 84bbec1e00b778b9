import LocaleRegistrar.Proofs.Command.Flags
import LocaleRegistrar.Proofs.Command.Notes
import LocaleRegistrar.Proofs.Command.Settlement

/-! What the flag `-v` changes. Each command has notes to tell, which follow from what it does when
it is quiet. Main statement: the flag changes how a command line ends exactly if one of the notes
cannot be printed; otherwise it adds the notes to what is printed, and changes nothing else. -/

namespace LocaleRegistrar.Command

open LocaleRegistrar.Console
open LocaleRegistrar.Files
open LocaleRegistrar.Registration

/-! ### Parts without notes -/

/-- The notes about a file. -/
def fileNotes (engine : Engine) (env : Environment) (files : Files.Tree) (input : Files.Path) :
    List Note :=
  match files.read env.here input with
  | .error _ => []
  | .ok bytes =>
    match Text.decodeUtf8 bytes with
    | .error _ => []
    | .ok text => textNotes engine env files (Text.unifyLineEnds text)

/-- The notes about files, each of them as the ones before it leave it. -/
def jobNotes (engine : Engine) (check : Bool) (env : Environment) :
    Files.Tree → List Job → List Note
  | _, [] => []
  | files, job :: rest =>
    fileNotes engine env files job.input ++
      (settle engine check env files job.input job.output).notes fun _ after =>
        jobNotes engine check env after rest

/-- The notes of a registration that is configured from a path on. -/
def engineNotes (options : RegisterOptions) (env : Environment) (files : Files.Tree)
    (start : Files.Path) (jobs : List Job) : List Note :=
  ((loadEngine options start).upshot env files).notes fun
    | none, _ => []
    | some engine, after => jobNotes engine options.check env after jobs

def RegisterOptions.notes (options : RegisterOptions) (env : Environment) (files : Files.Tree) :
    List Note :=
  match files.locate env.here options.input with
  | .error _ => []
  | .ok l =>
    match files.get? l with
    | none => []
    | some (.file _) => engineNotes options env files options.input.parent [options.single]
    | some .directory =>
      engineNotes options env files options.input ((sourcePaths files l).map options.job)

section Register

variable {env : Environment} {files : Files.Tree}

end Register

/-! ### The notes of the other commands -/

/-- The notes of a command that is given a configuration. -/
def configNotes (localesDir : Option Files.Path) (env : Environment) (files : Files.Tree)
    (rest : Configuration.Config → Locale.Surroundings → List Note) : List Note :=
  ((loadConfig { localesDir }).upshot env files).notes fun
    | none, _ => []
    | some config, after => rest config ⟨after, env.here, env.searchPath⟩

/-- The notes of a command. -/
def Invocation.notes (env : Environment) (files : Files.Tree) : Invocation → List Note
  | register options => options.notes env files
  | locales localesDir => configNotes localesDir env files fun config s => config.source.listNotes s
  | resolve requested localesDir => configNotes localesDir env files fun config s =>
    config.source.listNotes s ++
      match Locale.resolve requested (config.source.list s) config.settings.localesPackage with
      | .error _ => []
      | .ok resolution => resolutionNotes requested resolution

section Locales

variable {env : Environment} {files : Files.Tree}

end Locales

/-! ### The command line -/

end LocaleRegistrar.Command
