import LocaleRegistrar.Locale.Id
import LocaleRegistrar.Locale.Resolution
import LocaleRegistrar.Python.DottedName
import LocaleRegistrar.Python.Render

/-!
Edits: statements to be put into a module, each before a statement of the module or at its end. The
edits of a registration import the data of a locale, import the function that registers it, and call
that function.
-/

namespace LocaleRegistrar.Registration

open LocaleRegistrar.Python

/-- The names that registration code refers to. -/
structure Settings where
  /-- The package with one data module per locale. -/
  localesPackage : String := Locale.defaultPackage
  /-- The module that exports the registering function. -/
  registryModule : String := "i18n_common"
  registerFunction : String := "register_locale_data"
deriving DecidableEq, Repr

/-- A statement to put before the statement at position `anchor` of a module, or at the module's end
if there is none. Edits of one anchor are put in by their order. -/
structure Edit where
  anchor : Option Nat
  statement : Statement
  order : Int

/-- A line that holds one small statement. -/
def lineOf (content : Python.Tree) : Statement :=
  .simple { body := [{ content }] }

/-- `import path as symbol` -/
def importStatement (path symbol : Python.Tree) : Statement :=
  lineOf (.bare .importModules
    [.text "import", .text " ", .bare .importAlias [path, .text " as ", symbol]])

/-- `from origin import function` -/
def importFromStatement (origin function : Python.Tree) : Statement :=
  lineOf (.bare .importFrom
    [.text "from", .text " ", origin, .text " import ", .bare .importAlias [function]])

/-- `function(symbol)` -/
def callStatement (function symbol : Python.Tree) : Statement :=
  lineOf (.bare .expression
    [.bare .call [function, .text "(", .bare (.arg false) [symbol], .text ")"]])

/-- The three statements that register a locale. Their names are checked in the order of the text. -/
def statements (settings : Settings) (locale : String) : Except BadName (List Statement) := do
  let path ← dottedNode (settings.localesPackage ++ "." ++ Locale.moduleName locale)
  let symbol ← nameNode (Locale.symbol locale)
  let origin ← dottedNode settings.registryModule
  let function ← nameNode settings.registerFunction
  return [importStatement path symbol, importFromStatement origin function,
    callStatement function symbol]

/-- Edits that put statements before an anchor, with orders from `start` on. -/
def editsAt (anchor : Option Nat) (start : Int) : List Statement → List Edit
  | [] => []
  | statement :: rest => ⟨anchor, statement, start⟩ :: editsAt anchor (start + 1) rest

/-- The edits that register a locale. -/
def build (settings : Settings) (locale : String) (anchor : Option Nat) (start : Int) :
    Except BadName (List Edit) := do
  return editsAt anchor start (← statements settings locale)

/-! ### Applying edits -/

/-- How many edits have an anchor that the module does not have. -/
structure StrayAnchors where
  count : Nat
deriving DecidableEq, Repr

namespace StrayAnchors

def message (stray : StrayAnchors) : String :=
  toString stray.count ++ " edit(s) reference an anchor outside the module body."

end StrayAnchors

/-- The statements of the edits at an anchor. Edits of the same order stay as they are listed. -/
def statementsAt (edits : List Edit) (anchor : Option Nat) : List Statement :=
  ((edits.filter (·.anchor == anchor)).mergeSort fun a b => a.order ≤ b.order).map (·.statement)

/-- The statements from position `i` on, each after what is put before it. -/
def splice (edits : List Edit) (i : Nat) : List Statement → List Statement
  | [] => statementsAt edits none
  | statement :: rest => statementsAt edits (some i) ++ statement :: splice edits (i + 1) rest

/-- Is the edit's anchor missing from a body of this length? -/
def isStray (length : Nat) (e : Edit) : Bool :=
  match e.anchor with
  | some i => length ≤ i
  | none => false

/-- The module with all edits put in. -/
def apply (m : Python.Module) (edits : List Edit) : Except StrayAnchors Module :=
  let stray := edits.countP (isStray m.body.length)
  if stray = 0 then .ok { m with body := splice edits 0 m.body } else .error ⟨stray⟩

end LocaleRegistrar.Registration
