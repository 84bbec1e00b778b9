import LocaleRegistrar.Python.Layout

/-!
Parsers over the tokens of one logical line. A parser takes tokens from the front of the list and
gives a result, or fails and leaves the choice to an alternative.

The pieces before a token belong to whatever stands around it. So a parser of a node leaves out the
pieces before its first token (`first`) and keeps those before every later one (`next`, `spaced`).
-/

namespace LocaleRegistrar.Python

/-- Pieces as trees. -/
def Pieces.trees (ps : Pieces) : List Tree := ps.map .piece

/-- Is this token the word or the symbol `s`? -/
def Token.is (t : Token) (s : String) : Bool :=
  (t.kind == .word || t.kind == .symbol) && t.text == s

namespace Grammar

abbrev Parser := StateT (List Token) Option

/-- Words that cannot be used as names. -/
def reserved : List String :=
  ["False", "None", "True", "and", "as", "assert", "async", "await", "break", "class", "continue",
   "def", "del", "elif", "else", "except", "finally", "for", "from", "global", "if", "import", "in",
   "is", "lambda", "nonlocal", "not", "or", "pass", "raise", "return", "try", "while", "with",
   "yield"]

/-- The reserved words that are values. -/
def constants : List String := ["True", "False", "None"]

def peek : Parser (Option Token) := do return (← get).head?

/-- Takes the next token. -/
def take : Parser Token := do
  match ← get with
  | [] => failure
  | t :: rest => set rest; return t

/-- Is the next token the word or the symbol `s`? -/
def nextIs (s : String) : Parser Bool := do
  return ((← peek).map (·.is s)).getD false

/-- Is the next token one of these words and symbols? -/
def nextIn (ss : List String) : Parser Bool := do
  return ((← peek).map fun t => ss.any t.is).getD false

/-- Is the token after the next one `s`? -/
def secondIs (s : String) : Parser Bool := do
  match ← get with
  | _ :: t :: _ => return t.is s
  | _ => return false

def guarded (condition : Bool) : Parser Unit :=
  if condition then pure () else failure

/-- The pieces before the next token. -/
def gap : Parser Pieces := do
  return ((← peek).map (·.gap)).getD []

/-- Takes the word or symbol `s` and gives its text. -/
def first (s : String) : Parser Pieces := do
  let t ← take
  guarded (t.is s)
  return [.text s]

/-- Takes the word or symbol `s` and gives its text with the pieces before it. -/
def next (s : String) : Parser Pieces := do
  return (← gap) ++ (← first s)

/-- Takes one of these words and symbols. -/
def firstOf (ss : List String) : Parser Pieces := do
  let t ← take
  guarded (ss.any t.is)
  return [.text t.text]

/-- Takes one of these words and symbols and gives its text with the pieces before it. -/
def nextOf (ss : List String) : Parser Pieces := do
  return (← gap) ++ (← firstOf ss)

/-- Takes `s` if it is next, and gives nothing otherwise. -/
def optionalNext (s : String) : Parser Pieces := do
  if ← nextIs s then next s else return []

/-- Takes any token and gives its text. -/
def anyText : Parser Tree := do return .text (← take).text

/-- A node with the pieces before it. -/
def spaced (p : Parser Tree) : Parser (List Tree) := do
  return Pieces.trees (← gap) ++ [← p]

/-- If `s` is next, `s` and a node after it. -/
def optionally (s : String) (p : Parser Tree) : Parser (List Tree) := do
  if ← nextIs s then
    let mark ← next s
    return mark.trees ++ (← spaced p)
  else return []

/-- A node with the pieces before it, unless one of these words and symbols is next. -/
def unlessNext (ss : List String) (p : Parser Tree) : Parser (List Tree) := do
  if ← nextIn ss then return [] else spaced p

/-- The result of `p`, or nothing if it fails. -/
def attempt {α : Type} (p : Parser α) : Parser (Option α) :=
  (some <$> p) <|> pure none

/-- Goes on with `step` until it says that it is done, at most `fuel` times. -/
def iterateUpTo {α : Type} (step : α → Parser (Option α)) : Nat → α → Parser α
  | 0, a => pure a
  | fuel + 1, a => do
    match ← step a with
    | some b => iterateUpTo step fuel b
    | none => pure a

/-- Goes on with `step` until it says that it is done. Every step takes a token, so there are no more
steps than tokens. -/
def iterate {α : Type} (step : α → Parser (Option α)) (a : α) : Parser α := do
  iterateUpTo step (← get).length a

/-- Further elements after the first one, each after a comma; a comma may also end the list. Gives
the parts and tells whether there was a comma. -/
def moreElements (element : Parser Tree) (parts : List Tree) : Parser (List Tree × Bool) := do
  let (parts, comma, _) ← iterate
    (fun (parts, _, ended) => do
      if ended || !(← nextIs ",") then return none
      let parts := parts ++ Pieces.trees (← next ",")
      match ← attempt (spaced element) with
      | some more => return some (parts ++ more, true, false)
      | none => return some (parts, true, true))
    ((parts, false, false) : List Tree × Bool × Bool)
  return (parts, comma)

/-- Elements with commas between them and perhaps after them. -/
def elements (element : Parser Tree) : Parser (List Tree × Bool) := do
  moreElements element [← element]

/-- Elements with commas between them and none after them. -/
def separated (element : Parser Tree) : Parser (List Tree) := do
  iterate
    (fun parts => do
      if !(← nextIs ",") then return none
      return some (parts ++ Pieces.trees (← next ",") ++ (← spaced element)))
    [← element]

/-- An identifier. -/
def name : Parser Tree := do
  let t ← take
  guarded (t.kind == .word && !reserved.contains t.text)
  return .ofName t.text

/-- Names with dots between them: an attribute of an attribute, and so on. -/
def dottedName : Parser Tree := do
  iterate
    (fun value => do
      if !(← nextIs ".") then return none
      let dot ← next "."
      return some (.bare .member (value :: dot.trees ++ (← spaced name))))
    (← name)

end Grammar

end LocaleRegistrar.Python
