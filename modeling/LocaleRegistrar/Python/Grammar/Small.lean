import LocaleRegistrar.Python.Grammar.Knot
import LocaleRegistrar.Python.Render

/-!
The grammar of the small statements, those that fit on a line together: expressions, assignments,
imports and the statements that start with a keyword.
-/

namespace LocaleRegistrar.Python.Grammar

namespace Rules

variable (r : Rules)

/-! ### Imports -/

/-- A name of an import with the name it is bound to. -/
def boundName (origin : Parser Tree) : Parser (List Tree) := do
  let id ← origin
  if ← nextIs "as" then
    let keyword ← next "as"
    return id :: keyword.trees ++ (← spaced name)
  else return [id]

/-- The names of an import. A name owns the comma after it with the pieces around it; a comma may
stand after the last one if `trailing`. Tells whether one does. -/
def importNames (origin : Parser Tree) (trailing : Bool) : Parser (List Tree × Bool) := do
  let (names, ended, comma) ← iterate
    (fun (names, ended, comma) => do
      if ended then return none
      let parts ← boundName origin
      if ← nextIs "," then
        let comma := (← next ",") ++ (← gap)
        let ended := trailing && (← nextIs ")")
        return some (names ++ [.bare .importAlias (parts ++ comma.trees)], ended, ended)
      else return some (names ++ [.bare .importAlias parts], true, comma))
    (([], false, false) : List Tree × Bool × Bool)
  guarded ended
  return (names, comma)

def importModules : Parser Tree := do
  let keyword := (← first "import") ++ (← gap)
  let (names, _) ← importNames dottedName false
  return .bare .importModules (keyword.trees ++ names)

/-- The dots of a relative import, with the pieces before each. -/
def relativeDots : Parser Pieces :=
  iterate
    (fun dots => do
      if !(← nextIn [".", "..."]) then return none
      return some (dots ++ (← nextOf [".", "..."])))
    []

/-- The names after `import`: all of them, some in parentheses, or some. -/
def importTargets : Parser (List Tree) := do
  if ← nextIs "*" then return Pieces.trees (← next "*")
  else if ← nextIs "(" then
    let opening := (← next "(") ++ (← gap)
    let (names, comma) ← importNames name true
    let closing ← closing comma
    return opening.trees ++ names ++ closing.trees
  else
    let before ← gap
    let (names, _) ← importNames name false
    return before.trees ++ names

/-- The module after the dots of an import. With dots there may be none. -/
def importOrigin (dots : Pieces) : Parser (List Tree) := do
  if ← nextIs "import" then
    guarded !dots.isEmpty
    return []
  else spaced dottedName

def importFrom : Parser Tree := do
  let keyword ← first "from"
  let dots ← relativeDots
  let origin ← importOrigin dots
  let importKeyword ← next "import"
  return .bare .importFrom
    (keyword.trees ++ dots.trees ++ origin ++ importKeyword.trees ++ (← importTargets))

/-! ### Expressions and assignments -/

def augmentedOperators : List String :=
  ["+=", "-=", "*=", "@=", "/=", "%=", "&=", "|=", "^=", "<<=", ">>=", "**=", "//="]

/-- The right sides after the first target: `= value`, and a value that is followed by another equals
sign is a target itself. -/
def assignments (target : Tree) : Parser Tree := do
  guarded (isAssignable target)
  let (parts, _) ← iterate
    (fun (parts, last) => do
      if !(← nextIs "=") then return none
      guarded (isAssignable last)
      let equal ← next "="
      let before ← gap
      let value ← r.assigned
      return some (parts ++ equal.trees ++ before.trees ++ [value], value))
    ([target], target)
  return other parts

/-- `target: annotation`, perhaps with a value. -/
def annotated (target : Tree) : Parser Tree := do
  guarded (isSingleTarget target)
  let colon ← next ":"
  let hint ← spaced r.expression
  let value ← optionally "=" r.assigned
  return other (target :: colon.trees ++ hint ++ value)

def augmented (target : Tree) : Parser Tree := do
  guarded (isSingleTarget target)
  let op ← nextOf augmentedOperators
  return other (target :: op.trees ++ (← spaced r.assigned))

/-- An expression, or an assignment to it. -/
def expressionStatement : Parser Tree := do
  if ← nextIs "yield" then
    return .bare .expression [← r.yieldExpression]
  else
    let value ← r.starExpressions
    if ← nextIs "=" then r.assignments value
    else if ← nextIs ":" then r.annotated value
    else if ← nextIn augmentedOperators then r.augmented value
    else return .bare .expression [value]

/-! ### Statements with a keyword -/

/-- The keyword alone. -/
def keywordOnly (keyword : String) : Parser Tree :=
  return other (← first keyword).trees

/-- The keyword with values after it, if there are any. -/
def returnStatement : Parser Tree := do
  let keyword ← first "return"
  match ← attempt (spaced r.starExpressions) with
  | some value => return other (keyword.trees ++ value)
  | none => return other keyword.trees

def raiseStatement : Parser Tree := do
  let keyword ← first "raise"
  match ← attempt (spaced r.expression) with
  | none => return other keyword.trees
  | some value =>
    let cause ← optionally "from" r.expression
    return other (keyword.trees ++ value ++ cause)

/-- `global` or `nonlocal` -/
def scopeStatement (keyword : String) : Parser Tree := do
  let keyword := (← first keyword) ++ (← gap)
  return other (keyword.trees ++ (← separated name))

def deletable : Parser Tree := do
  let target ← r.primary
  guarded (isDeletable target)
  return target

def deleteStatement : Parser Tree := do
  let keyword ← first "del"
  return other (keyword.trees ++ (← spaced (oneOrTuple r.deletable)))

def assertStatement : Parser Tree := do
  let keyword ← first "assert"
  let condition ← spaced r.expression
  let message ← optionally "," r.expression
  return other (keyword.trees ++ condition ++ message)

/-- `type Name = value` -/
def typeAlias : Parser Tree := do
  let keyword ← first "type"
  let id ← spaced name
  let params ← r.typeParameters
  let equal ← next "="
  return other (keyword.trees ++ id ++ params ++ equal.trees ++ (← spaced r.expression))

/-- Does `type` start an alias here? A name must follow it. -/
def startsTypeAlias : Parser Bool := do
  match ← get with
  | t :: u :: _ => return t.is "type" && u.kind == .word && !reserved.contains u.text
  | _ => return false

/-- A small statement. -/
def small : Parser Tree := do
  match ← peek with
  | none => failure
  | some t =>
    if t.kind == .word then
      if t.text == "import" then importModules
      else if t.text == "from" then importFrom
      else if t.text == "pass" || t.text == "break" || t.text == "continue" then keywordOnly t.text
      else if t.text == "return" then r.returnStatement
      else if t.text == "raise" then r.raiseStatement
      else if t.text == "global" || t.text == "nonlocal" then scopeStatement t.text
      else if t.text == "del" then r.deleteStatement
      else if t.text == "assert" then r.assertStatement
      else if ← startsTypeAlias then r.typeAlias
      else r.expressionStatement
    else r.expressionStatement

end Rules

/-- Reads all the tokens of a list. -/
def onTokens {α : Type} (p : Rules → Parser α) (tokens : List Token) : Option α :=
  match (p (rules (tokens.length + 2))).run tokens with
  | some (a, []) => some a
  | _ => none

/-! ### Lines of small statements -/

/-- The pieces before the first token. -/
def headGap : List Token → Pieces
  | [] => []
  | t :: _ => t.gap

/-- The tokens without the pieces before the first one. -/
def ungapped : List Token → List Token
  | [] => []
  | t :: rest => { t with gap := [] } :: rest

/-- Reads a small statement. The pieces before its first token are not part of it. -/
def readSmall (tokens : List Token) : Option Tree :=
  onTokens Rules.small (ungapped tokens)

/-- The tokens up to the first semicolon, and each semicolon with the tokens up to the next one. -/
def separate : List Token → List Token × List (Token × List Token)
  | [] => ([], [])
  | t :: rest =>
    let (own, more) := separate rest
    if t.is ";" then ([], (t, own) :: more) else (t :: own, more)

/-- The small statement of the tokens `own`, and those after the semicolons that follow. A semicolon
owns the pieces around it. One may stand at the end. -/
def smallsFrom (own : List Token) : List (Token × List Token) → Option (List Small)
  | [] => do return [⟨← readSmall own, none⟩]
  | [(semicolon, [])] => do
    return [⟨← readSmall own, some (semicolon.gap ++ [.text ";"])⟩]
  | (semicolon, next) :: more => do
    let content ← readSmall own
    let pieces := semicolon.gap ++ [.text ";"] ++ headGap next
    return ⟨content, some pieces⟩ :: (← smallsFrom next more)

/-- The small statements of a line. -/
def readSmalls (tokens : List Token) : Option (List Small) :=
  smallsFrom (separate tokens).1 (separate tokens).2

/-- Ends a line of small statements. A semicolon after the last one owns the blanks at the end. -/
def endLine (tail : Tail) : List Small → List Small × Tail
  | [] => ([], tail)
  | [s] =>
    match s.semicolon with
    | some pieces =>
      ([{ s with semicolon := some (pieces ++ [.text tail.blank]) }], { tail with blank := "" })
    | none => ([s], tail)
  | s :: rest =>
    let (rest, tail) := endLine tail rest
    (s :: rest, tail)

end LocaleRegistrar.Python.Grammar
