import LocaleRegistrar.Python.Part

/-!
The prologue of a module: its docstring and its `__future__` imports, which have to stay at its top.
A line that starts with future imports and goes on with other statements can be split, so that code
can be put in between.
-/

namespace LocaleRegistrar.Bootstrap

open LocaleRegistrar.Python

/-- Is this small statement a string and nothing else? -/
def isStringExpression (s : Python.Small) : Bool :=
  s.content.kind? = some .expression &&
    match s.content.children with
    | [value] => value.kind? = some .stringLiteral || value.kind? = some .stringSequence
    | _ => false

/-- Would this statement be the docstring of a module that it starts? -/
def isDocstring : Statement → Bool
  | .simple ⟨_, [s], _⟩ => isStringExpression s
  | _ => false

/-- Does this small statement import from `__future__`? -/
def isFutureSmall (s : Python.Small) : Bool :=
  s.content.kind? = some .importFrom &&
    ((s.content.children.head?).map (·.isName "__future__")).getD false

/-- Does this line hold an import from `__future__`? -/
def isFutureImport : Statement → Bool
  | .simple line => line.body.any isFutureSmall
  | .compound .. => false

/-- Does this line start with future imports and go on with other statements? -/
def isMixed : Statement → Bool
  | .simple line =>
    !(line.body.takeWhile isFutureSmall).isEmpty && !(line.body.dropWhile isFutureSmall).isEmpty
  | .compound .. => false

/-- Small statements set off from each other in the usual way. -/
def unseparated (body : List Python.Small) : List Small :=
  body.map fun s => { s with semicolon := none }

/-- A mixed line as two: the future imports keep the lines before them, and the rest keeps the end of
the line. -/
def splitStatement : Statement → List Statement
  | .simple line =>
    if isMixed (.simple line) then
      [.simple { leading := line.leading, body := unseparated (line.body.takeWhile isFutureSmall) },
       .simple { body := unseparated (line.body.dropWhile isFutureSmall), tail := line.tail }]
    else [.simple line]
  | statement => [statement]

/-- The module with every mixed line split. -/
def splitFutureImports (m : Python.Module) : Module :=
  { m with body := m.body.flatMap splitStatement }

/-- Does splitting change nothing? -/
def isSplit (m : Python.Module) : Bool :=
  !(m.body.any isMixed)

/-- How many statements the prologue has. -/
def prologueLength : List Statement → Nat
  | [] => 0
  | s :: rest =>
    if isDocstring s || isFutureImport s then (rest.takeWhile isFutureImport).length + 1 else 0

/-- The position of the first statement that code may be put before. -/
def first? (m : Python.Module) : Option Nat :=
  let n := prologueLength m.body
  if n < m.body.length then some n else none

end LocaleRegistrar.Bootstrap
