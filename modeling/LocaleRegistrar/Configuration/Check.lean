import LocaleRegistrar.Bootstrap.Entry
import LocaleRegistrar.Data.Value
import LocaleRegistrar.Locale.Catalog
import LocaleRegistrar.Registration.Plan
import LocaleRegistrar.Text.Identifier

/-!
The configuration and its check. Every setting is checked by itself, in the order in which they are
declared here, and all that is wrong is reported together.
-/

namespace LocaleRegistrar.Configuration

open LocaleRegistrar.Bootstrap
open LocaleRegistrar.Data
open LocaleRegistrar.Files
open LocaleRegistrar.Registration

structure Config where
  /-- The locale to register. -/
  locale : Option String := none
  /-- The class that the application starts with, written as a reference. -/
  entryModule : Option String := none
  /-- A directory of data modules, which is used instead of the package. -/
  localesDir : Option Path := none
  settings : Settings := {}
deriving DecidableEq, Repr

/-- The settings that can be configured. -/
inductive Field
  | locale
  | entryModule
  | localesDir
  | localesPackage
  | registryModule
  | registerFunction
deriving DecidableEq, Repr

/-- The key of a setting. -/
def Field.key : Field → String
  | locale => "locale"
  | entryModule => "entry_module"
  | localesDir => "locales_dir"
  | localesPackage => "locales_package"
  | registryModule => "registry_module"
  | registerFunction => "register_function"

/-- What is wrong with a value. -/
inductive Cause
  | notString
  | notPath
  | badEntry (bad : BadEntry)
  | badModulePath (text : String)
  | badFunctionName (text : String)
deriving DecidableEq, Repr

namespace Cause

/-- The class of a cause. -/
def type : Cause → String
  | notString => "string_type"
  | notPath => "path_type"
  | badEntry _ | badModulePath _ | badFunctionName _ => "value_error"

def message : Cause → String
  | notString => "Input should be a valid string"
  | notPath => "Input is not a valid path for <class 'pathlib.Path'>"
  | badEntry bad => "Value error, " ++ bad.message
  | badModulePath text => "Value error, Invalid module path: '" ++ text ++ "'."
  | badFunctionName text => "Value error, Invalid function name: '" ++ text ++ "'."

end Cause

/-- A setting with a value that is wrong. -/
structure Problem where
  field : Field
  cause : Cause
  input : Value

namespace Problem

/-- A long text with its middle left out. -/
def shorten (text : String) : String :=
  let cs := text.toList
  if 50 < cs.length then
    String.ofList (cs.take 25 ++ "...".toList ++ cs.drop (cs.length - 24))
  else text

/-- The lines that tell a problem. -/
def message (p : Problem) : String :=
  p.field.key ++ "\n  " ++ p.cause.message ++ " [type=" ++ p.cause.type ++ ", input_value=" ++
    shorten p.input.text ++ ", input_type=" ++ p.input.typeName ++ "]"

/-- The lines that tell several problems. -/
def report (problems : List Problem) : String :=
  let count := problems.length
  let heading := toString count ++ (if count = 1 then " validation error" else " validation errors")
    ++ " for RuntimeConfig"
  "\n".intercalate (heading :: problems.map message)

end Problem

/-! ### Checking a value -/

/-- A string, or nothing. -/
def checkOptionalString : Value → Except Cause (Option String)
  | .null => .ok none
  | .string s => .ok (some s)
  | _ => .error .notString

/-- A reference to a class, or nothing. The reference is kept in its usual form. -/
def checkEntry (v : Value) : Except Cause (Option String) := do
  match ← checkOptionalString v with
  | none => return none
  | some s =>
    match Entry.parse s with
    | .ok entry => return some entry.text
    | .error bad => throw (.badEntry bad)

/-- A path, or nothing. -/
def checkPath : Value → Except Cause (Option Files.Path)
  | .null => .ok none
  | .string s => .ok (some (Files.Path.parse s))
  | .path p => .ok (some p)
  | _ => .error .notPath

/-- Is this a dotted path of identifiers? -/
def isModulePath (s : String) : Bool :=
  (Text.fields '.' s).all Text.isIdentifier

/-- A text that is accepted without the blanks around it, and kept without them. -/
def checkTrimmed (accepts : String → Bool) (cause : String → Cause) : Value → Except Cause String
  | .string s => if accepts (Text.trim s) then .ok (Text.trim s) else .error (cause s)
  | _ => .error .notString

/-- A dotted path of identifiers, perhaps between blanks. -/
def checkModulePath : Value → Except Cause String :=
  checkTrimmed isModulePath .badModulePath

/-- An identifier, perhaps between blanks. -/
def checkFunctionName : Value → Except Cause String :=
  checkTrimmed Text.isIdentifier .badFunctionName

/-- Checks the value of a setting. One that is not given keeps its default. -/
def checkField {α : Type} (values : Table) (field : Field) (default : α)
    (check : Value → Except Cause α) : Except Problem α :=
  match values.lookup field.key with
  | none => .ok default
  | some v =>
    match check v with
    | .ok a => .ok a
    | .error cause => .error ⟨field, cause, v⟩

/-- The problem of a check that failed. -/
def problemOf {α : Type} : Except Problem α → List Problem
  | .ok _ => []
  | .error p => [p]

/-- Checks all settings. Values of other keys are ignored. -/
def check (values : Table) : Except (List Problem) Config :=
  let default : Config := {}
  let locale := checkField values .locale default.locale checkOptionalString
  let entryModule := checkField values .entryModule default.entryModule checkEntry
  let localesDir := checkField values .localesDir default.localesDir checkPath
  let localesPackage :=
    checkField values .localesPackage default.settings.localesPackage checkModulePath
  let registryModule :=
    checkField values .registryModule default.settings.registryModule checkModulePath
  let registerFunction :=
    checkField values .registerFunction default.settings.registerFunction checkFunctionName
  match locale, entryModule, localesDir, localesPackage, registryModule, registerFunction with
  | .ok locale, .ok entryModule, .ok localesDir, .ok localesPackage, .ok registryModule,
      .ok registerFunction =>
    .ok { locale, entryModule, localesDir,
          settings := { localesPackage, registryModule, registerFunction } }
  | _, _, _, _, _, _ =>
    .error (problemOf locale ++ problemOf entryModule ++ problemOf localesDir ++
      problemOf localesPackage ++ problemOf registryModule ++ problemOf registerFunction)

/-! ### Using a configuration -/

/-- What a registration needs and a configuration lacks. -/
inductive Missing
  | locale
  | entryModule
deriving DecidableEq, Repr

def Missing.message : Missing → String
  | locale =>
    "No locale configured. Pass --locale or set 'locale' in [tool.locale_bootstrap]."
  | entryModule => "No entry module configured. Pass --entry-module or set 'entry_module'."

namespace Config

/-- The class that the application starts with. -/
def entry (c : Config) : Option Entry :=
  c.entryModule.bind fun text => (Entry.parse text).toOption

/-- Where the available locales come from. -/
def source (c : Config) : Locale.Source :=
  match c.localesDir with
  | some path => .directory path
  | none => .package c.settings.localesPackage

/-- The registration that is configured. -/
def request (c : Config) : Except Missing Request :=
  match c.locale.filter (· ≠ "") with
  | none => .error .locale
  | some locale =>
    match c.entry with
    | none => .error .entryModule
    | some entry => .ok { entry, locale, settings := c.settings }

/-- The configuration for another class and another locale. -/
def withTarget (c : Config) (entry : Entry) (locale : String) : Config :=
  { c with locale := some locale, entryModule := some entry.text }

end Config

end LocaleRegistrar.Configuration
