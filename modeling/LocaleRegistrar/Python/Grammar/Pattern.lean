import LocaleRegistrar.Python.Grammar.Expression

/-!
The grammar of the patterns of a `case`. A pattern is a literal, a name to bind, the underscore, a
dotted name to compare with, a sequence, a mapping, a class with patterns of its attributes, or
several patterns as alternatives, and it may bind what it matches.
-/

namespace LocaleRegistrar.Python.Grammar.Rules

variable (r : Rules)

def number : Parser Tree := do
  let t ← take
  guarded (t.kind == .number)
  return .bare (if Lexeme.isWholeNumber t.text then .integer else .other) [.text t.text]

/-- A number, perhaps with a minus sign. -/
def realNumber : Parser Tree := do
  if ← nextIs "-" then
    let sign ← first "-"
    return other (sign.trees ++ (← spaced number))
  else number

/-- A number with its sign, or the sum or difference of a real and an imaginary number. -/
def signedNumber : Parser Tree := do
  let real ← realNumber
  if ← nextIn ["+", "-"] then
    let op ← nextOf ["+", "-"]
    return other (real :: op.trees ++ (← spaced number))
  else return real

def startsNumber : Parser Bool := do
  match ← peek with
  | some t => return t.kind == .number || t.is "-"
  | none => return false

/-- A number, a string or a constant. -/
def literalPattern : Parser Tree := do
  if ← startsNumber then signedNumber
  else if ← startsString then r.strings
  else
    let t ← take
    guarded (t.kind == .word && constants.contains t.text)
    return .ofName t.text

def startsLiteral : Parser Bool := do
  return (← startsNumber) || (← startsString) || (← nextIn constants)

/-- A name to bind, or the underscore, which binds nothing. -/
def captureTarget : Parser Tree := do
  if ← nextIs "_" then return other (Pieces.trees (← first "_"))
  else name

/-- `*name` in a sequence, or a pattern. -/
def sequenceElement : Parser Tree := do
  if ← nextIs "*" then
    let star ← first "*"
    return other (star.trees ++ (← spaced captureTarget))
  else r.pattern

/-- One pattern, or a sequence without brackets. -/
def patterns : Parser Tree := do
  let starred ← nextIs "*"
  let head ← r.sequenceElement
  let (parts, comma) ← moreElements r.sequenceElement [head]
  guarded (comma || !starred)
  return if comma then other parts else head

/-- A sequence, or a pattern in parentheses. -/
def parenthesizedPattern : Parser Tree := do
  let opening := (← first "(") ++ (← gap)
  if ← nextIs ")" then return .node .other opening [] (← first ")")
  else
    let pattern ← r.patterns
    return pattern.parenthesize opening (← next ")")

/-- A sequence in square brackets. -/
def bracketedPattern : Parser Tree := do
  let opening := (← first "[") ++ (← gap)
  if ← nextIs "]" then return other (Pieces.trees (opening ++ (← first "]")))
  else
    let (parts, _) ← elements r.sequenceElement
    return other (opening.trees ++ parts ++ Pieces.trees (← next "]"))

/-- The key of a mapping: a literal or a name with dots. -/
def mappingKey : Parser Tree := do
  if ← startsLiteral then r.literalPattern
  else
    guarded (← secondIs ".")
    dottedName

/-- `key: pattern`, or `**rest` -/
def mappingElement : Parser Tree := do
  if ← nextIs "**" then
    let stars ← first "**"
    return other (stars.trees ++ (← spaced name))
  else
    let key ← r.mappingKey
    let colon ← next ":"
    return other (key :: colon.trees ++ (← spaced r.pattern))

def mappingPattern : Parser Tree := do
  let opening := (← first "\x7b") ++ (← gap)
  if ← nextIs "\x7d" then return other (Pieces.trees (opening ++ (← first "\x7d")))
  else
    let (parts, _) ← elements r.mappingElement
    return other (opening.trees ++ parts ++ Pieces.trees (← next "\x7d"))

/-- A pattern of a class's attribute, by position or by name. -/
def classElement : Parser Tree := do
  if ← secondIs "=" then
    let key ← name
    let equal ← next "="
    return other (key :: equal.trees ++ (← spaced r.pattern))
  else r.pattern

/-- A name to bind, a dotted name to compare with, or a class with patterns of its attributes. -/
def namePattern : Parser Tree := do
  let dotted ← dottedName
  if ← nextIs "(" then
    let opening := (← next "(") ++ (← gap)
    if ← nextIs ")" then
      return other (dotted :: opening.trees ++ Pieces.trees (← first ")"))
    else
      let (parts, _) ← elements r.classElement
      return other (dotted :: opening.trees ++ parts ++ Pieces.trees (← next ")"))
  else return if dotted.kind? == some .name then other [dotted] else dotted

def closedPattern : Parser Tree := do
  if ← startsLiteral then r.literalPattern
  else if ← nextIs "(" then r.parenthesizedPattern
  else if ← nextIs "[" then r.bracketedPattern
  else if ← nextIs "\x7b" then r.mappingPattern
  else if (← nextIs "_") && !(← secondIs ".") && !(← secondIs "(") then captureTarget
  else r.namePattern

/-- Alternatives, and the name that what they match is bound to. -/
def patternRule : Parser Tree := do
  let head ← r.closedPattern
  let more ← iterate
    (fun parts => do
      if !(← nextIs "|") then return none
      return some (parts ++ (← next "|").trees ++ (← spaced r.closedPattern)))
    []
  let pattern := if more.isEmpty then head else other (head :: more)
  if ← nextIs "as" then
    let keyword ← next "as"
    guarded !(← nextIs "_")
    return other (pattern :: keyword.trees ++ (← spaced name))
  else return pattern

end LocaleRegistrar.Python.Grammar.Rules
