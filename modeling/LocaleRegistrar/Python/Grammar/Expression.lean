import LocaleRegistrar.Python.Grammar.Target

/-!
The grammar of expressions. A rule is given the parsers of the rules that are nested in it
(`Rules`), so that no rule calls itself; the knot is tied once, where all rules are known, with as
many levels as there are tokens.
-/

namespace LocaleRegistrar.Python.Grammar

/-- The parsers of what is nested in brackets, after an operator or after a keyword. -/
structure Rules where
  primary : Parser Tree
  factor : Parser Tree
  bitwiseOr : Parser Tree
  inversion : Parser Tree
  disjunction : Parser Tree
  expression : Parser Tree
  /-- A replacement field of a template, from brace to brace. -/
  field : Parser Tree
  /-- A pattern of a `case`. -/
  pattern : Parser Tree

/-- A node of no particular kind. -/
def other (parts : List Tree) : Tree := .bare .other parts

namespace Rules

variable (r : Rules)

/-! ### Lists of expressions -/

/-- `*value` -/
def starred : Parser Tree := do
  let star ← first "*"
  return .bare .starred (star.trees ++ (← spaced r.bitwiseOr))

/-- An expression, or `name := expression`. -/
def named : Parser Tree := do
  if ← secondIs ":=" then
    let target ← name
    let walrus ← next ":="
    return other (target :: walrus.trees ++ (← spaced r.expression))
  else r.expression

def starNamed : Parser Tree := do
  if ← nextIs "*" then r.starred else r.named

def starExpression : Parser Tree := do
  if ← nextIs "*" then r.starred else r.expression

/-- One element, or a tuple of elements without parentheses. -/
def oneOrTuple (element : Parser Tree) : Parser Tree := do
  let head ← element
  let (parts, comma) ← moreElements element [head]
  return if comma then .bare .tuple parts else head

def starExpressions : Parser Tree := oneOrTuple r.starExpression

def yieldExpression : Parser Tree := do
  let keyword ← first "yield"
  if ← nextIs "from" then
    let origin ← next "from"
    return other (keyword.trees ++ origin.trees ++ (← spaced r.expression))
  else
    match ← attempt (spaced r.starExpressions) with
    | some value => return other (keyword.trees ++ value)
    | none => return other keyword.trees

/-- What stands on the right of an assignment. -/
def assigned : Parser Tree := do
  if ← nextIs "yield" then r.yieldExpression else r.starExpressions

/-! ### Targets and comprehensions -/

/-- `*value` or a value, whether it is a target or not. -/
def starPrimary : Parser Tree := do
  if ← nextIs "*" then
    let star ← first "*"
    return .bare .starred (star.trees ++ (← spaced r.primary))
  else r.primary

def starTarget : Parser Tree := do
  let target ← r.starPrimary
  guarded (isAssignable target)
  return target

def starTargets : Parser Tree := oneOrTuple r.starTarget

def startsComprehension : Parser Bool := do
  return (← nextIs "for") || ((← nextIs "async") && (← secondIs "for"))

/-- `for target in values if condition` -/
def comprehensionClause : Parser (List Tree) := do
  let mark ← optionalNext "async"
  let keyword ← next "for"
  let target ← spaced r.starTargets
  let within ← next "in"
  let values ← spaced r.disjunction
  iterate
    (fun parts => do
      if !(← nextIs "if") then return none
      return some (parts ++ Pieces.trees (← next "if") ++ (← spaced r.disjunction)))
    (mark.trees ++ keyword.trees ++ target ++ within.trees ++ values)

/-- The clauses of a comprehension. -/
def comprehension : Parser (List Tree) := do
  iterate
    (fun parts => do
      if !(← startsComprehension) then return none
      return some (parts ++ (← r.comprehensionClause)))
    (← r.comprehensionClause)

/-! ### Strings -/

/-- The text and the fields of a template up to `ends`. -/
def templateParts (ends : Token → Bool) : Parser (List Tree) := do
  iterate
    (fun parts => do
      match ← peek with
      | none => failure
      | some t =>
        if ends t then return none
        else if t.kind == .templateText then return some (parts ++ (← spaced anyText))
        else return some (parts ++ (← spaced r.field)))
    []

/-- The conversion of a replacement field, if there is one. -/
def conversion : Parser Pieces := do
  if ← nextIs "!" then
    let mark ← next "!"
    return mark ++ (← nextOf ["s", "r", "a"])
  else return []

/-- The format specification of a replacement field, if there is one. -/
def formatSpec : Parser (List Tree) := do
  if ← nextIs ":" then
    let colon ← next ":"
    return colon.trees ++ (← r.templateParts fun t => t.kind == .symbol && t.text == "\x7d")
  else return []

/-- A replacement field: a value, and perhaps an equals sign, a conversion and a format
specification. -/
def templateField : Parser Tree := do
  let opening ← first "\x7b"
  let value ← spaced r.assigned
  let equal ← optionalNext "="
  let conversion ← conversion
  let spec ← r.formatSpec
  let closing ← next "\x7d"
  return other (opening.trees ++ value ++ equal.trees ++ conversion.trees ++ spec ++ closing.trees)

/-- One string literal or template. -/
def stringPart : Parser Tree := do
  let t ← take
  if t.kind == .string then return .bare .stringLiteral [.text t.text]
  else if t.kind == .templateStart then
    let parts ← r.templateParts fun t => t.kind == .templateEnd
    return other (.text t.text :: parts ++ (← spaced anyText))
  else failure

def startsString : Parser Bool := do
  match ← peek with
  | some t => return t.kind == .string || t.kind == .templateStart
  | none => return false

/-- A string literal, or several side by side. -/
def strings : Parser Tree := do
  let head ← r.stringPart
  let more ← iterate
    (fun parts => do
      if !(← startsString) then return none
      return some (parts ++ (← spaced r.stringPart)))
    []
  return if more.isEmpty then head else .bare .stringSequence (head :: more)

/-! ### Atoms -/

def isStarred (t : Tree) : Bool := t.kind? == some .starred

/-- A tuple, a generator, or an expression in parentheses. -/
def parenthesized : Parser Tree := do
  let opening := (← first "(") ++ (← gap)
  if ← nextIs ")" then return .node .tuple opening [] (← first ")")
  else if ← nextIs "yield" then
    let value ← r.yieldExpression
    return value.parenthesize opening (← next ")")
  else
    let head ← r.starNamed
    if ← startsComprehension then
      guarded !(isStarred head)
      let clauses ← r.comprehension
      return .node .other opening (head :: clauses) (← next ")")
    else if ← nextIs "," then
      let (parts, _) ← moreElements r.starNamed [head]
      return .node .tuple opening parts (← next ")")
    else
      guarded !(isStarred head)
      return head.parenthesize opening (← next ")")

/-- A list, or a comprehension in square brackets. -/
def bracketed : Parser Tree := do
  let opening := (← first "[") ++ (← gap)
  if ← nextIs "]" then return .bare .list (Pieces.trees (opening ++ (← first "]")))
  else
    let head ← r.starNamed
    if ← startsComprehension then
      guarded !(isStarred head)
      let clauses ← r.comprehension
      return other (opening.trees ++ head :: clauses ++ Pieces.trees (← next "]"))
    else
      let (parts, _) ← moreElements r.starNamed [head]
      return .bare .list (opening.trees ++ parts ++ Pieces.trees (← next "]"))

/-- `key: value`, or `**mapping` -/
def dictElement : Parser Tree := do
  if ← nextIs "**" then
    let stars ← first "**"
    return other (stars.trees ++ (← spaced r.bitwiseOr))
  else
    let key ← r.expression
    let colon ← next ":"
    return other (key :: colon.trees ++ (← spaced r.expression))

/-- A dictionary or a set, or a comprehension of one of them. -/
def braced : Parser Tree := do
  let opening := (← first "\x7b") ++ (← gap)
  if ← nextIs "\x7d" then return other (Pieces.trees (opening ++ (← first "\x7d")))
  else if ← nextIs "**" then
    let (parts, _) ← elements r.dictElement
    return other (opening.trees ++ parts ++ Pieces.trees (← next "\x7d"))
  else
    let walrus ← secondIs ":="
    let head ← r.starNamed
    if (← nextIs ":") && !isStarred head && !walrus then
      let colon ← next ":"
      let pair := other (head :: colon.trees ++ (← spaced r.expression))
      if ← startsComprehension then
        let clauses ← r.comprehension
        return other (opening.trees ++ pair :: clauses ++ Pieces.trees (← next "\x7d"))
      else
        let (parts, _) ← moreElements r.dictElement [pair]
        return other (opening.trees ++ parts ++ Pieces.trees (← next "\x7d"))
    else if ← startsComprehension then
      guarded !(isStarred head)
      let clauses ← r.comprehension
      return other (opening.trees ++ head :: clauses ++ Pieces.trees (← next "\x7d"))
    else
      let (parts, _) ← moreElements r.starNamed [head]
      return other (opening.trees ++ parts ++ Pieces.trees (← next "\x7d"))

def atom : Parser Tree := do
  match ← peek with
  | none => failure
  | some t =>
    match t.kind with
    | .word =>
      if constants.contains t.text then
        let t ← take
        return .ofName t.text
      else name
    | .number =>
      let t ← take
      return .bare (if Lexeme.isWholeNumber t.text then .integer else .other) [.text t.text]
    | .string => r.strings
    | .templateStart => r.strings
    | .symbol =>
      if t.text == "(" then r.parenthesized
      else if t.text == "[" then r.bracketed
      else if t.text == "\x7b" then r.braced
      else if t.text == "..." then return other (Pieces.trees (← first "..."))
      else failure
    | _ => failure

/-! ### Calls and subscripts -/

/-- Which arguments may still follow: a positional one before the first keyword, a single star
before the first double one. -/
inductive ArgumentPhase
  | positional
  | keyword
  | doubleStar
deriving DecidableEq

/-- One argument without the comma after it, and the phase that it leads to. -/
def argument (phase : ArgumentPhase) : Parser (Bool × List Tree × ArgumentPhase) := do
  if ← nextIs "*" then
    guarded (phase != .doubleStar)
    let star ← first "*"
    return (true, star.trees ++ (← spaced r.expression), phase)
  else if ← nextIs "**" then
    let stars ← first "**"
    return (true, stars.trees ++ (← spaced r.expression), .doubleStar)
  else if ← secondIs "=" then
    let keyword ← name
    let equal ← next "="
    let phase := if phase == .doubleStar then .doubleStar else .keyword
    return (false, keyword :: equal.trees ++ (← spaced r.expression), phase)
  else
    guarded (phase == .positional)
    return (false, [← r.named], phase)

/-- The parts of an argument that may be a generator without parentheses of its own. -/
def generatorParts (allowed : Bool) (parts : List Tree) : Parser (List Tree) := do
  if allowed && (← startsComprehension) then
    return [other (parts ++ (← r.comprehension))]
  else return parts

/-- The pieces before the next token, if they are asked for. -/
def gapIf (asked : Bool) : Parser Pieces :=
  if asked then gap else pure []

/-- The closing parenthesis, with the pieces before it unless they have an owner. -/
def closing (owned : Bool) : Parser Pieces :=
  if owned then first ")" else next ")"

/-- The arguments of a call or a class up to the closing parenthesis. An argument owns the comma
after it with the pieces around it. In a call, what stands between the last argument and the
parenthesis belongs to the argument too, and the only argument may be a generator without
parentheses of its own. Tells whether the pieces before the parenthesis have an owner. -/
def arguments (call : Bool) : Parser (List Tree × Bool) := do
  let (args, _, ended, owned) ← iterate
    (fun (args, phase, ended, _) => do
      if ended then return none
      let (starred, parts, phase) ← r.argument phase
      if ← nextIs "," then
        let comma := (← next ",") ++ (← gap)
        let ended ← nextIs ")"
        return some (args ++ [.bare (.arg starred) (parts ++ comma.trees)], phase, ended, ended)
      else
        let parts ← r.generatorParts
          (call && args.isEmpty && !starred && phase == .positional) parts
        guarded (← nextIs ")")
        let after ← gapIf call
        return some (args ++ [.bare (.arg starred) (parts ++ after.trees)], phase, true, call))
    (([], .positional, ← nextIs ")", true) : List Tree × ArgumentPhase × Bool × Bool)
  guarded ended
  return (args, owned)

/-- Arguments in parentheses. -/
def argumentList (call : Bool) : Parser (List Tree) := do
  let opening := (← next "(") ++ (← gap)
  let (args, owned) ← r.arguments call
  let closing ← closing owned
  return opening.trees ++ args ++ closing.trees

/-- The arguments after a callee. -/
def callTail (callee : Tree) : Parser Tree := do
  return .bare .call (callee :: (← r.argumentList true))

/-- What follows the first colon of a slice: `upper:step` -/
def sliceEnd : Parser (List Tree) := do
  let upper ← unlessNext [":", "]", ","] r.expression
  if ← nextIs ":" then
    let colon ← next ":"
    return upper ++ colon.trees ++ (← unlessNext ["]", ","] r.expression)
  else return upper

/-- An index, or `lower:upper:step`. -/
def slice : Parser Tree := do
  if ← nextIs "*" then
    let star ← first "*"
    return other (star.trees ++ (← spaced r.expression))
  else if ← nextIs ":" then
    let colon ← first ":"
    return other (colon.trees ++ (← r.sliceEnd))
  else
    let walrus ← secondIs ":="
    let lower ← r.named
    if ← nextIs ":" then
      guarded !walrus
      let colon ← next ":"
      return other (lower :: colon.trees ++ (← r.sliceEnd))
    else return lower

def subscriptTail (value : Tree) : Parser Tree := do
  let opening := (← next "[") ++ (← gap)
  let (parts, _) ← elements r.slice
  return .bare .subscript (value :: opening.trees ++ parts ++ Pieces.trees (← next "]"))

/-- An atom with the attributes, calls and subscripts after it. -/
def primaryRule : Parser Tree := do
  iterate
    (fun value => do
      if ← nextIs "." then
        let dot ← next "."
        return some (.bare .member (value :: dot.trees ++ (← spaced name)))
      else if ← nextIs "(" then some <$> r.callTail value
      else if ← nextIs "[" then some <$> r.subscriptTail value
      else return none)
    (← r.atom)

/-! ### Operators -/

def awaited : Parser Tree := do
  if ← nextIs "await" then
    let keyword ← first "await"
    return other (keyword.trees ++ (← spaced r.primaryRule))
  else r.primaryRule

def power : Parser Tree := do
  let base ← r.awaited
  if ← nextIs "**" then
    let op ← next "**"
    return other (base :: op.trees ++ (← spaced r.factor))
  else return base

def factorRule : Parser Tree := do
  if ← nextIn ["+", "-", "~"] then
    let op ← firstOf ["+", "-", "~"]
    return other (op.trees ++ (← spaced r.factor))
  else r.power

/-- Operands joined by operators of one level, from left to right. -/
def leftAssociative (ops : List String) (operand : Parser Tree) : Parser Tree := do
  iterate
    (fun left => do
      if !(← nextIn ops) then return none
      let op ← nextOf ops
      return some (other (left :: op.trees ++ (← spaced operand))))
    (← operand)

def bitwiseOrRule : Parser Tree :=
  [["*", "/", "//", "%", "@"], ["+", "-"], ["<<", ">>"], ["&"], ["^"], ["|"]].foldl
    (fun operand ops => leftAssociative ops operand) r.factorRule

/-- A comparison operator, one or two words. -/
def comparisonOperator : Parser (Option Pieces) := do
  if ← nextIn ["==", "!=", "<=", "<", ">=", ">", "in"] then
    some <$> nextOf ["==", "!=", "<=", "<", ">=", ">", "in"]
  else if ← nextIs "is" then return some ((← next "is") ++ (← optionalNext "not"))
  else if (← nextIs "not") && (← secondIs "in") then return some ((← next "not") ++ (← next "in"))
  else return none

def comparison : Parser Tree := do
  let left ← r.bitwiseOrRule
  let more ← iterate
    (fun parts => do
      match ← comparisonOperator with
      | some op => return some (parts ++ op.trees ++ (← spaced r.bitwiseOrRule))
      | none => return none)
    []
  return if more.isEmpty then left else other (left :: more)

def inversionRule : Parser Tree := do
  if ← nextIs "not" then
    let op ← first "not"
    return other (op.trees ++ (← spaced r.inversion))
  else r.comparison

def disjunctionRule : Parser Tree :=
  leftAssociative ["or"] (leftAssociative ["and"] r.inversionRule)

/-! ### Parameters and lambdas -/

/-- How far a list of parameters has been read. -/
structure ParameterPhase where
  parts : List Tree := []
  /-- Some parameter has been read. -/
  started : Bool := false
  slash : Bool := false
  star : Bool := false
  /-- A bare star has been read, and a parameter must follow. -/
  pending : Bool := false
  /-- A parameter before the star has a default. -/
  defaulted : Bool := false
  ended : Bool := false

/-- A parameter's name with its annotation. -/
def parameterName (annotated : Bool) (hint : Parser Tree) : Parser (List Tree) := do
  let id ← name
  if annotated && (← nextIs ":") then
    let colon ← next ":"
    return id :: colon.trees ++ (← spaced hint)
  else return [id]

/-- One parameter, or a mark between parameters. -/
def parameter (annotated : Bool) (s : ParameterPhase) : Parser (ParameterPhase × Tree) := do
  if ← nextIs "/" then
    guarded (s.started && !s.slash && !s.star)
    return ({ s with slash := true }, other (Pieces.trees (← first "/")))
  else if ← nextIs "*" then
    guarded !s.star
    let star ← first "*"
    if ← nextIs "," then return ({ s with star := true, pending := true }, other star.trees)
    else
      let id ← spaced (other <$> parameterName annotated r.starExpression)
      return ({ s with star := true, started := true }, other (star.trees ++ id))
  else if ← nextIs "**" then
    guarded !s.pending
    let stars ← first "**"
    let id ← spaced (other <$> parameterName annotated r.expression)
    return ({ s with ended := true }, other (stars.trees ++ id))
  else
    let id ← parameterName annotated r.expression
    if ← nextIs "=" then
      let equal ← next "="
      let parts := id ++ equal.trees ++ (← spaced r.expression)
      return ({ s with started := true, pending := false, defaulted := true }, other parts)
    else
      guarded (s.star || !s.defaulted)
      return ({ s with started := true, pending := false }, other id)

/-- The parameters up to `stop`, with the pieces before the first one. -/
def parameters (annotated : Bool) (stop : String) : Parser (List Tree) := do
  let s ← iterate
    (fun (s, done) => do
      if done then return none
      let before ← gap
      let (s, parameter) ← r.parameter annotated s
      let parts := s.parts ++ before.trees ++ [parameter]
      if ← nextIs "," then
        let parts := parts ++ Pieces.trees (← next ",")
        return some ({ s with parts }, (← nextIs stop) || s.ended)
      else
        guarded (← nextIs stop)
        return some ({ s with parts }, true))
    ((({} : ParameterPhase), ← nextIs stop) : ParameterPhase × Bool)
  guarded !s.1.pending
  return s.1.parts

def lambda : Parser Tree := do
  let keyword ← first "lambda"
  let params ← r.parameters false ":"
  let colon ← next ":"
  return other (keyword.trees ++ params ++ colon.trees ++ (← spaced r.expression))

/-- A conditional expression, a disjunction or a lambda. -/
def expressionRule : Parser Tree := do
  if ← nextIs "lambda" then r.lambda
  else
    let value ← r.disjunctionRule
    let choice ← attempt do
      let condition := (← next "if").trees ++ (← spaced r.disjunction)
      return condition ++ (← next "else").trees ++ (← spaced r.expression)
    match choice with
    | some rest => return other (value :: rest)
    | none => return value

/-! ### Type parameters -/

def typeParameter : Parser Tree := do
  if ← nextIn ["*", "**"] then
    let mark ← firstOf ["*", "**"]
    let id ← spaced name
    return other (mark.trees ++ id ++ (← optionally "=" r.starExpression))
  else
    let id ← name
    let bound ← optionally ":" r.expression
    return other (id :: bound ++ (← optionally "=" r.starExpression))

/-- The type parameters of a definition, if there are any. -/
def typeParameters : Parser (List Tree) := do
  if ← nextIs "[" then
    let opening := (← next "[") ++ (← gap)
    let (parts, _) ← elements r.typeParameter
    return opening.trees ++ parts ++ Pieces.trees (← next "]")
  else return []

end Rules

end LocaleRegistrar.Python.Grammar
