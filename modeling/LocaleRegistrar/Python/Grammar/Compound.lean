import LocaleRegistrar.Python.Grammar.Small

/-!
The grammar of compound statements. First every logical line is read on its own, as a line of small
statements, a decorator or a clause with its suite; then the clauses that belong together are joined
to one statement, from the last line of a block to the first.
-/

namespace LocaleRegistrar.Python.Grammar

/-- The part that a clause plays in a statement. -/
inductive Role
  | functionDef
  | classDef
  | conditional
  | alternative
  | otherwise
  | loop
  | guarded
  | handler (group : Bool)
  | cleanup
  | context
  | selection
  | choice
deriving DecidableEq, Repr

/-- The header of a clause: its role, its keyword and what follows up to the colon. -/
structure Header where
  role : Role
  keyword : String
  parts : List Tree

/-- What the tokens of a logical line that heads no block say. -/
inductive Content
  | smalls (body : List Small)
  | decorator (parts : List Tree)
  /-- A header with small statements on its line, and the pieces before them. -/
  | clause (header : Header) (gap : Pieces) (body : List Small)

/-- A logical line read on its own. -/
inductive Reading
  | simple (line : Line)
  | decorator (d : Decorator)
  | clause (leading : List BlankLine) (header : Header) (suite : Suite)

namespace Rules

variable (r : Rules)

/-! ### Headers -/

/-- A header that has only a keyword and a colon. -/
def bareHeader (role : Role) (keyword : String) : Parser Header := do
  let _ ← first keyword
  return ⟨role, keyword, Pieces.trees (← next ":")⟩

/-- A header with a condition. -/
def conditionHeader (role : Role) (keyword shown : String) : Parser Header := do
  let _ ← first keyword
  let condition ← spaced r.named
  return ⟨role, shown, condition ++ (← next ":").trees⟩

/-- What follows `for`. -/
def forRest : Parser (List Tree) := do
  let target ← spaced r.starTargets
  let within ← next "in"
  let values ← spaced r.starExpressions
  return target ++ within.trees ++ values ++ (← next ":").trees

/-- A value of a `with`, perhaps bound to a target. -/
def contextItem : Parser Tree := do
  let value ← r.expression
  if ← nextIs "as" then
    let keyword ← next "as"
    return other (value :: keyword.trees ++ (← spaced r.starTarget))
  else return value

/-- The values of a `with` in parentheses. -/
def contextGroup : Parser (List Tree) := do
  let opening := (← next "(") ++ (← gap)
  let (parts, _) ← elements r.contextItem
  let closing ← next ")"
  return opening.trees ++ parts ++ closing.trees ++ (← next ":").trees

/-- What follows `with`. -/
def withRest : Parser (List Tree) :=
  r.contextGroup <|> do
    let before ← gap
    return before.trees ++ (← separated r.contextItem) ++ (← next ":").trees

/-- What follows `def`. -/
def functionRest : Parser (List Tree) := do
  let id ← spaced name
  let params ← r.typeParameters
  let opening ← next "("
  let parameters ← r.parameters true ")"
  let closing ← next ")"
  let result ← optionally "->" r.expression
  return id ++ params ++ opening.trees ++ parameters ++ closing.trees ++ result ++
    (← next ":").trees

/-- The bases of a class, if there are any. -/
def classBases : Parser (List Tree) := do
  if ← nextIs "(" then r.argumentList false else return []

def classHeader : Parser Header := do
  let _ ← first "class"
  let id ← spaced name
  let params ← r.typeParameters
  let bases ← r.classBases
  return ⟨.classDef, "class", id ++ params ++ bases ++ (← next ":").trees⟩

/-- `except`, for single exceptions or for groups of them. -/
def handlerHeader : Parser Header := do
  let _ ← first "except"
  let star ← optionalNext "*"
  if star.isEmpty && (← nextIs ":") then return ⟨.handler false, "except", (← next ":").trees⟩
  else
    let type ← spaced r.expression
    let binding ← optionally "as" name
    return ⟨.handler !star.isEmpty, "except", star.trees ++ type ++ binding ++ (← next ":").trees⟩

/-- A statement that may run asynchronously; its keyword comes after `async`. -/
def asyncHeader : Parser Header := do
  let _ ← first "async"
  if ← nextIs "def" then
    let keyword ← next "def"
    return ⟨.functionDef, "async", keyword.trees ++ (← r.functionRest)⟩
  else if ← nextIs "for" then
    let keyword ← next "for"
    return ⟨.loop, "async", keyword.trees ++ (← r.forRest)⟩
  else
    let keyword ← next "with"
    return ⟨.context, "async", keyword.trees ++ (← r.withRest)⟩

/-- `match` with the value that is looked at. -/
def selectionHeader : Parser Header := do
  let _ ← first "match"
  let subject ← spaced (oneOrTuple r.starNamed)
  guarded !(subject.any isStarred)
  return ⟨.selection, "match", subject ++ (← next ":").trees⟩

/-- `case` with its pattern and perhaps a condition. -/
def choiceHeader : Parser Header := do
  let _ ← first "case"
  let pattern ← spaced r.patterns
  let condition ← optionally "if" r.named
  return ⟨.choice, "case", pattern ++ condition ++ (← next ":").trees⟩

/-- The header of a clause. In the block of a `match` every line is a `case`. The word `match` is a
keyword only where a block follows. -/
def header (choices headsBlock : Bool) : Parser Header := do
  if choices then r.choiceHeader
  else
    match ← peek with
    | none => failure
    | some t =>
      if t.is "if" then r.conditionHeader .conditional "if" "if"
      else if t.is "elif" then r.conditionHeader .alternative "elif" "if"
      else if t.is "else" then bareHeader .otherwise "else"
      else if t.is "while" then r.conditionHeader .loop "while" "while"
      else if t.is "for" then do
        let _ ← first "for"
        return ⟨.loop, "for", ← r.forRest⟩
      else if t.is "try" then bareHeader .guarded "try"
      else if t.is "except" then r.handlerHeader
      else if t.is "finally" then bareHeader .cleanup "finally"
      else if t.is "with" then do
        let _ ← first "with"
        return ⟨.context, "with", ← r.withRest⟩
      else if t.is "def" then do
        let _ ← first "def"
        return ⟨.functionDef, "def", ← r.functionRest⟩
      else if t.is "class" then r.classHeader
      else if t.is "async" then r.asyncHeader
      else if t.is "match" && headsBlock then r.selectionHeader
      else failure

/-- A decorator. -/
def decorator : Parser (List Tree) := do
  let sign ← first "@"
  return sign.trees ++ (← spaced r.named)

end Rules

/-! ### Logical lines -/

/-- Reads a header with small statements on its line. -/
def readClause (choices : Bool) (tokens : List Token) : Option Content := do
  let (header, rest) ← ((rules (tokens.length + 2)).header choices false).run tokens
  return .clause header (headGap rest) (← readSmalls rest)

/-- Reads a logical line that heads no block. In the block of a `match` it is a clause, elsewhere it
may also be a decorator or a line of small statements. -/
def readContent (choices : Bool) (tokens : List Token) : Option Content :=
  if choices then readClause true tokens
  else
    match readSmalls tokens, onTokens Rules.decorator tokens with
    | some body, _ => some (.smalls body)
    | none, some parts => some (.decorator parts)
    | none, none => readClause false tokens

/-- The header in a module whose usual line end is `usual`. -/
def Header.relativeTo (usual : String) (h : Header) : Header :=
  { h with parts := Tree.relativeToAll usual h.parts }

/-- The small statements in a module whose usual line end is `usual`. -/
def smallsRelativeTo (usual : String) (body : List Small) : List Small :=
  body.map fun s => { s with content := s.content.relativeTo usual }

/-- A line with these tokens, in a module whose usual line end is `usual`. -/
def Content.reading (usual : String) (leading : List BlankLine) (tail : Tail) : Content → Reading
  | smalls body =>
    let (body, tail) := endLine tail (smallsRelativeTo usual body)
    .simple ⟨leading, body, tail⟩
  | decorator parts => .decorator ⟨leading, Tree.relativeToAll usual parts, tail⟩
  | clause header gap body =>
    let (body, tail) := endLine tail (smallsRelativeTo usual body)
    .clause leading (header.relativeTo usual) (.inline (gap.map (·.relativeTo usual)) body tail)

/-! ### Joining clauses -/

/-- The clauses that go on with a statement which has not been reached, and the statements after
them. -/
structure Joined where
  pending : List (Role × Clause) := []
  done : List Statement := []

/-- Do these clauses complete a statement that starts with this role? -/
def completes (role : Role) (pending : List Role) : Bool :=
  match role with
  | .conditional | .alternative =>
    pending = [] || pending = [.otherwise] || pending = [.alternative]
  | .loop => pending = [] || pending = [.otherwise]
  | .guarded =>
    let isHandler : Role → Bool
      | .handler _ => true
      | _ => false
    let handlers := pending.takeWhile isHandler
    let rest := pending.dropWhile isHandler
    if handlers.isEmpty then rest = [.cleanup]
    else (handlers.all (· = .handler false) || handlers.all (· = .handler true)) &&
      (rest = [] || rest = [.otherwise] || rest = [.cleanup] || rest = [.otherwise, .cleanup])
  | _ => pending = []

/-- The kind of the statement that starts with this role. -/
def Role.compoundKind : Role → CompoundKind
  | .functionDef => .functionDef
  | .classDef => .classDef
  | .conditional => .conditional
  | _ => .other

/-- Does a clause of this role go on with a statement? -/
def Role.continues : Role → Bool
  | .otherwise | .handler _ | .cleanup => true
  | _ => false

/-- Puts a decorator before a function or a class. The lines before what was first so far stay
there, and the decorator's own lines come before the statement. -/
def decorate (d : Decorator) : Statement → Option Statement
  | .compound kind leading decorators clauses =>
    if kind = .functionDef || kind = .classDef then
      let bare : Decorator := { d with leading := [] }
      match decorators, clauses with
      | [], .plain _ keyword header suite :: rest =>
        some (.compound kind d.leading [bare] (.plain leading keyword header suite :: rest))
      | first :: rest, clauses =>
        some (.compound kind d.leading (bare :: { first with leading } :: rest) clauses)
      | _, _ => none
    else none
  | .simple _ => none

/-- Adds a line in front of the lines that have been joined. -/
def Joined.add (reading : Reading) (j : Joined) : Option Joined :=
  match reading with
  | .simple line => if j.pending.isEmpty then some ⟨[], .simple line :: j.done⟩ else none
  | .decorator d =>
    match j.pending, j.done with
    | [], statement :: rest => (decorate d statement).map fun s => ⟨[], s :: rest⟩
    | _, _ => none
  | .clause leading header suite =>
    let roles := j.pending.map (·.1)
    let clauses := j.pending.map (·.2)
    if header.role.continues then
      let clause := .plain leading header.keyword header.parts suite
      some { j with pending := (header.role, clause) :: j.pending }
    else if !completes header.role roles then none
    else
      let own := Clause.plain [] header.keyword header.parts suite :: clauses
      if header.role = .alternative then
        some { j with pending := [(.alternative, .alternative leading own)] }
      else some ⟨[], .compound header.role.compoundKind leading [] own :: j.done⟩

/-- Joins the lines of a block to statements. -/
def joinLines : List Reading → Option Joined
  | [] => some {}
  | reading :: rest => (joinLines rest).bind (Joined.add reading)

/-- The statements of a block. -/
def statements (readings : List Reading) : Option (List Statement) := do
  let j ← joinLines readings
  if j.pending.isEmpty then some j.done else none

mutual

/-- Reads a line and, if it heads a block, the block. -/
def readItem (usual : Usual) (choices : Bool) : Item → Option Reading
  | .plain line => do
    return (← readContent choices line.tokens).reading usual.lineEnd line.leading line.tail
  | .headed line indent items footer => do
    let header ← onTokens (fun r => r.header choices true) line.tokens
    let readings ← readItems usual (header.role = .selection) items
    let body ← statements readings
    let indent := if indent = usual.indent then none else some indent
    return .clause line.leading (header.relativeTo usual.lineEnd)
      (.block line.tail indent body footer)

/-- Reads the lines of a block. -/
def readItems (usual : Usual) (choices : Bool) : List Item → Option (List Reading)
  | [] => some []
  | item :: rest => do
    let reading ← readItem usual choices item
    let readings ← readItems usual choices rest
    return reading :: readings

end

end LocaleRegistrar.Python.Grammar
