import LocaleRegistrar.Configuration.Check
import LocaleRegistrar.Text.Utf8
import LocaleRegistrar.Toml.Document

/-!
Loading the configuration. Settings come from the table `[tool.locale_bootstrap]` of the nearest
`pyproject.toml`, from overrides and from explicit arguments, and the later ones win.
-/

namespace LocaleRegistrar.Configuration

open LocaleRegistrar.Data
open LocaleRegistrar.Files

/-- The file that holds the configuration of a project. -/
def fileName : String := "pyproject.toml"

/-- The key of the table of all tools. -/
def toolKey : String := "tool"

/-- The key of this tool's table. -/
def sectionKey : String := "locale_bootstrap"

/-- Why no configuration can be loaded. -/
inductive LoadError
  | undecodable (e : Text.Utf8Error)
  /-- What stands in place of the table of all tools is no table. -/
  | toolNotTable
  /-- What stands in place of this tool's table is no table. -/
  | sectionNotTable
  /-- The directory of data modules is no text. -/
  | directoryNotText
  | invalid (problems : List Problem)

/-- The message of a configuration that was checked and refused. -/
def invalidMessage (problems : List Problem) : String :=
  "Configuration validation failed: " ++ Problem.report problems

/-- A location and those above it, from the deepest up. -/
def ancestors (l : Location) : List Location :=
  (List.range (l.length + 1)).map fun n => l.take (l.length - n)

/-- The nearest directory with a configuration file, at a location or above it. -/
def nearest? (files : Files.Tree) (start : Location) : Option Location :=
  (ancestors start).find? fun dir => files.isFile (dir ++ [fileName])

/-- This tool's table in a document. -/
def sectionOf (document : Table) : Except LoadError Table :=
  match document.lookup toolKey with
  | none => .ok []
  | some (.table tool) =>
    match tool.lookup sectionKey with
    | none => .ok []
    | some (.table settings) => .ok settings
    | some _ => .error .sectionNotTable
  | some _ => .error .toolNotTable

/-- The settings of the nearest configuration file, and the directory that its paths are relative
to. A file that is no TOML counts as none. -/
def fileSettings (files : Files.Tree) (start : Location) :
    Except LoadError (Table × Option Location) :=
  match nearest? files start with
  | none => .ok ([], none)
  | some dir =>
    match files.get? (dir ++ [fileName]) with
    | some (.file bytes) =>
      match Text.decodeUtf8 bytes with
      | .error e => .error (.undecodable e)
      | .ok text =>
        match Toml.parse text with
        | none => .ok ([], none)
        | some document => (sectionOf document).map (·, some dir)
    | _ => .ok ([], none)

/-- What a caller asks for. -/
structure Arguments where
  locale : Option String := none
  entryModule : Option String := none
  localesDir : Option Path := none
  overrides : Table := []
  /-- Where the search for a configuration file starts, if not in the current directory. -/
  searchPath : Option Path := none

/-- A value for a key, if the text is there and not empty. -/
def givenText (field : Field) (text : Option String) : Table :=
  match text with
  | some s => if s = "" then [] else [(field.key, .string s)]
  | none => []

/-- The value of the directory of data modules. An explicit one is relative to the current directory,
any other one to the directory of the configuration file. -/
def directoryValue (here : Location) (base : Option Location) (explicit : Option Files.Path)
    (values : Table) : Except LoadError Table :=
  let value (l : Location) : Table :=
    [(Field.localesDir.key, .path (.ofLocation l))]
  match explicit with
  | some path => .ok (value (path.resolve here))
  | none =>
    match values.lookup Field.localesDir.key with
    | none => .ok []
    | some (.string s) => .ok (value ((Files.Path.parse s).resolve (base.getD here)))
    | some (.path p) => .ok (value (p.resolve (base.getD here)))
    | some _ => .error .directoryNotText

/-- Loads the configuration. -/
def load (files : Files.Tree) (here : Location) (args : Arguments) : Except LoadError Config := do
  let start := match args.searchPath with
    | some path => path.resolve here
    | none => here
  let (settings, base) ← fileSettings files start
  let values := givenText .locale args.locale ++ givenText .entryModule args.entryModule ++
    args.overrides ++ settings
  let directory ← directoryValue here base args.localesDir values
  match check (directory ++ values) with
  | .ok config => .ok config
  | .error problems => .error (.invalid problems)

end LocaleRegistrar.Configuration
