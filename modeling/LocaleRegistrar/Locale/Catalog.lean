import LocaleRegistrar.Files.Package
import LocaleRegistrar.Locale.Id
import LocaleRegistrar.Registration.Note

/-!
Which locales are available: those of a list, or those that a directory or a package has data
modules for. A data module is a file `*.py` whose name does not start with an underscore.
-/

namespace LocaleRegistrar.Locale

open LocaleRegistrar.Files
open LocaleRegistrar.Registration

/-- The module name of a data module's file name. -/
def stem? (fileName : String) : Option String :=
  let cs := fileName.toList
  if ".py".toList.isSuffixOf cs && cs.head? ≠ some '_' then
    some (String.ofList (cs.take (cs.length - 3)))
  else none

/-- The locales of data modules, in the order of the module names. -/
def ofFileNames (names : List String) : List String :=
  ((names.filterMap stem?).mergeSort fun a b => a ≤ b).map ofModuleName

/-- The names of the files among a directory's children. -/
def fileNames (children : List (String × Node)) : List String :=
  children.filterMap fun
    | (name, .file _) => some name
    | (_, .directory) => none

/-- Where things are looked up: the files, the current directory and the search path of packages. -/
structure Surroundings where
  files : Tree := {}
  here : Location := []
  searchPath : List Location := []

/-- Where available locales come from. -/
inductive Source
  | fixed (locales : List String)
  | directory (path : Files.Path)
  | package (name : String)
deriving DecidableEq, Repr

namespace Source

/-- The location of a directory, if it is one. -/
def directory? (s : Surroundings) (path : Files.Path) : Option Location :=
  match s.files.locate s.here path with
  | .ok l => if s.files.isDirectory l then some l else none
  | .error _ => none

/-- The directories of a package. -/
def package? (s : Surroundings) (name : String) : Option (List Location) :=
  s.files.packageDirectories s.searchPath name

/-- The available locales. -/
def list (s : Surroundings) : Source → List String
  | fixed locales => locales
  | directory path =>
    match directory? s path with
    | some l => ofFileNames (fileNames (s.files.glob l "*.py"))
    | none => []
  | package name =>
    match package? s name with
    | some dirs => ofFileNames (fileNames (s.files.mergedChildren dirs))
    | none => []

/-- What is reported when the available locales are listed. -/
def listNotes (s : Surroundings) : Source → List Note
  | fixed _ => []
  | directory path =>
    if (directory? s path).isSome then [] else [.noDirectory path.text]
  | package name => if (package? s name).isSome then [] else [.noPackage name]

end Source

end LocaleRegistrar.Locale
