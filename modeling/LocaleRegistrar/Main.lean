import LocaleRegistrar.Command.Line

/-!
The program. It reads the files that a command line may be about into a tree, runs the command line
over the tree, writes back what has changed, and prints.
-/

namespace LocaleRegistrar.Main

open LocaleRegistrar.Command
open LocaleRegistrar.Files

/-- Adds what stands at a location of the disk, with everything below it. -/
partial def readInto (t : Files.Tree) (l : Location) : IO Tree := do
  let path ← try some <$> IO.FS.realPath (Files.Path.ofLocation l).text catch _ => pure none
  match path with
  | none => return t
  | some path =>
    if ← path.isDir then
      let entries ← try path.readDir catch _ => pure #[]
      entries.foldlM (fun t entry => readInto t (l ++ [entry.fileName])) (t.withDirectories l)
    else if ← path.pathExists then
      let bytes ← IO.FS.readBinFile path
      return (t.withDirectories l.dropLast).insert l (.file bytes.toList)
    else return t

/-- Adds the configuration files at a location of the disk and above it. -/
def readConfigs (t : Files.Tree) (l : Location) : IO Tree :=
  (Configuration.ancestors l).foldlM
    (fun t dir => do
      let place := dir ++ [Configuration.fileName]
      if (t.get? place).isSome then return t else readInto t place)
    t

/-- The paths that a command is about, and the path that its search for a configuration starts
from. -/
def pathsOf : Invocation → List Files.Path × Files.Path
  | .register options =>
    ([options.input] ++ options.output.toList ++ options.localesDir.toList, options.input)
  | .locales localesDir | .resolve _ localesDir => (localesDir.toList, {})

/-- The directory of data modules that the configuration names. -/
def configuredDirectory (t : Files.Tree) (here : Location) (start : Files.Path) : List Path :=
  match Configuration.load t here { searchPath := some start } with
  | .ok config => config.localesDir.toList
  | .error _ => []

/-- The files that a command line may be about. -/
def readFiles (here : Location) (searchPath : List Location) (args : List String) : IO Tree := do
  match readCommandLine args with
  | .error _ => return {}
  | .ok line =>
    let (paths, start) := pathsOf line.invocation
    let t ← (here :: searchPath).foldlM readInto (({} : Files.Tree).withDirectories here)
    let t ← readConfigs t (start.resolve here)
    (paths ++ configuredDirectory t here start).foldlM
      (fun t path => readInto t (path.resolve here)) t

/-- Writes what is new or different in a tree. -/
def writeChanges (old new : Files.Tree) : IO Unit :=
  new.entries.forM fun (l, node) => do
    if old.get? l ≠ some node then
      let path := (Files.Path.ofLocation l).text
      match node with
      | .directory => IO.FS.createDirAll path
      | .file bytes => IO.FS.writeBinFile path ⟨bytes.toArray⟩

def printItem : Console.Item → IO Unit
  | .line text => IO.println text
  | .row cells => IO.println ("  ".intercalate cells)

/-- The usage of the commands. -/
def usage : String :=
  "\n".intercalate
    ["usage: " ++ programName ++ " [-h] [--version] [-v] COMMAND ...",
     "  register PATH [--locale ID] [--entry-module PATH#CLASS] [--locales-dir DIR]",
     "           [--out PATH] [--check]",
     "  locales [--locales-dir DIR]",
     "  resolve ID [--locales-dir DIR]"]

def abortMessage : Abort → String
  | .unprintable .markup => "a message is not well marked up"
  | .unprintable .colour => "a component of a colour is no number"
  | .undecodable => "a source file is not UTF-8"
  | .fault f => f.message
  | .toolNotTable => "the configuration of all tools is no table"
  | .sectionNotTable => "the configuration of this tool is no table"
  | .directoryNotText => "the directory of locale data is no text"

/-- Prints how a run has ended, and gives its exit code. -/
def finish : Ending → IO UInt32
  | .exit code => return code.toUInt32
  | .aborted abort => do
    IO.eprintln (programName ++ ": " ++ abortMessage abort)
    return 1
  | .stopped .help => do
    IO.println usage
    return 0
  | .stopped .version => do
    IO.println versionLine
    return 0
  | .stopped (.usage program message) => do
    IO.eprintln usage
    IO.eprintln (program ++ ": error: " ++ message)
    return 2

end LocaleRegistrar.Main

open LocaleRegistrar.Main in
def main (args : List String) : IO UInt32 := do
  let here := (LocaleRegistrar.Files.Path.parse (← IO.currentDir).toString).resolve []
  let listed := ((← IO.getEnv "PYTHONPATH").map (LocaleRegistrar.Text.fields ':')).getD []
  let searchPath := (listed.filter (· ≠ "")).map fun text =>
    (LocaleRegistrar.Files.Path.parse text).resolve here
  let files ← readFiles here searchPath args
  let (ending, state) := LocaleRegistrar.Command.run files here searchPath args
  writeChanges files state.files
  (LocaleRegistrar.Console.trimItems state.output).forM printItem
  finish ending
